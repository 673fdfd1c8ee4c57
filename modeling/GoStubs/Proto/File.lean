/-!
# Descriptions of proto files

The parts of a file's description that code generation reads. A field of a description may be
unset, which is not the same as being set to the empty text or to false; where a value is
needed, an unset one reads as empty or false.
-/

namespace GoStubs.Proto

/-- A message type with the message types declared inside it. -/
structure Message where
  name? : Option String
  nested : List Message
  deriving Repr

/-- A method of a service. -/
structure Method where
  name? : Option String
  /-- The full name of the request message, with a dot in front. -/
  input? : Option String
  /-- The full name of the response message, with a dot in front. -/
  output? : Option String
  clientStreaming? : Option Bool
  serverStreaming? : Option Bool
  deriving DecidableEq, Repr

/-- A service. -/
structure Service where
  name? : Option String
  methods : List Method
  deriving DecidableEq, Repr

/-- The options of a file. -/
structure FileOptions where
  /-- The package that the file's Go code belongs to, as `path` or `path;name`. -/
  goPackage? : Option String
  deriving DecidableEq, Repr

/-- A proto file. -/
structure File where
  name? : Option String
  package? : Option String
  options? : Option FileOptions
  messages : List Message
  services : List Service
  deriving Repr

/-! ## Unset fields -/

def Message.name (m : Message) : String := m.name?.getD ""

namespace Method

def name (m : Method) : String := m.name?.getD ""

def input (m : Method) : String := m.input?.getD ""

def output (m : Method) : String := m.output?.getD ""

def clientStreaming (m : Method) : Bool := m.clientStreaming?.getD false

def serverStreaming (m : Method) : Bool := m.serverStreaming?.getD false

end Method

def Service.name (s : Service) : String := s.name?.getD ""

namespace File

def name (f : File) : String := f.name?.getD ""

/-- The proto package of a file, empty if it has none. -/
def package (f : File) : String := f.package?.getD ""

/-- The Go package that a file's options name. -/
def goPackage? (f : File) : Option String := f.options?.bind (·.goPackage?)

end File

end GoStubs.Proto
