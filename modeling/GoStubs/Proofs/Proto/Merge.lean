import GoStubs.Proto.Exchange
/-!
# Merging descriptions

Two descriptions of one thing are merged field by field: what is repeated is listed for the first
and then for the second, what is not is taken from the second if it is set there and from the first
otherwise, and a single description inside both is merged in the same way.

* `Request.merge`, `File.merge` and their neighbours: one for each description.
* `Request.mergeAll`: the merge of any number of requests.
-/

namespace GoStubs.Proto

def Message.merge (a b : Message) : Message :=
  ⟨b.name?.or a.name?, a.nested ++ b.nested⟩

def Method.merge (a b : Method) : Method where
  name? := b.name?.or a.name?
  input? := b.input?.or a.input?
  output? := b.output?.or a.output?
  clientStreaming? := b.clientStreaming?.or a.clientStreaming?
  serverStreaming? := b.serverStreaming?.or a.serverStreaming?

def Service.merge (a b : Service) : Service :=
  ⟨b.name?.or a.name?, a.methods ++ b.methods⟩

def FileOptions.merge (a b : FileOptions) : FileOptions := ⟨b.goPackage?.or a.goPackage?⟩

def File.merge (a b : File) : File where
  name? := b.name?.or a.name?
  package? := b.package?.or a.package?
  options? := a.options?.merge FileOptions.merge b.options?
  messages := a.messages ++ b.messages
  services := a.services ++ b.services

namespace Request

def merge (a b : Request) : Request where
  filesToGenerate := a.filesToGenerate ++ b.filesToGenerate
  parameter? := b.parameter?.or a.parameter?
  files := a.files ++ b.files

/-- The request that asks for nothing. -/
def empty : Request := ⟨[], none, []⟩

/-- The merge of requests, from the first to the last. -/
def mergeAll (rs : List Request) : Request := rs.foldr merge empty

end Request

end GoStubs.Proto
