import GoStubs.Proto.Exchange
import GoStubs.Wire.Decode
import GoStubs.Wire.Encode
/-!
# Requests as bytes

The view of decoded fields as a request with the descriptions of its files, and the fields of a
request. Of the many fields that a request may have, only those are seen that generation reads.

* `decodeRequest`: a request from its bytes.
* `encodeRequest`: the bytes of a request, its fields in the order of their numbers.
-/

namespace GoStubs.Wire

open GoStubs.Proto

/-! ## From fields -/

/-- The messages that are declared in a field of a message or a file. -/
def messagesIn (number : Nat) : Fields → List Message
  | .nil => []
  | .scalar _ _ rest => messagesIn number rest
  | .message n body rest =>
    if n = number then ⟨body.text? 1, messagesIn 3 body⟩ :: messagesIn number rest
    else messagesIn number rest

/-- The method with the given fields. -/
def methodOf (fs : Fields) : Method :=
  ⟨fs.text? 1, fs.text? 2, fs.text? 3, fs.flag? 5, fs.flag? 6⟩

/-- The service with the given fields. -/
def serviceOf (fs : Fields) : Service := ⟨fs.text? 1, (fs.messages 2).map methodOf⟩

/-- The options of a file with the given fields. -/
def fileOptionsOf (fs : Fields) : FileOptions := ⟨fs.text? 11⟩

/-- The file with the given fields. -/
def fileOf (fs : Fields) : File where
  name? := fs.text? 1
  package? := fs.text? 2
  options? := (fs.merged? 8).map fileOptionsOf
  messages := messagesIn 4 fs
  services := (fs.messages 6).map serviceOf

/-- The request with the given fields. -/
def requestOf (fs : Fields) : Request :=
  ⟨fs.texts 1, fs.text? 2, (fs.messages 15).map fileOf⟩

/-- The request that bytes encode, if they do. -/
def decodeRequest (bytes : List UInt8) : Option Request := (decode .request bytes).map requestOf

/-! ## To fields -/

mutual

/-- The fields of a message declaration. -/
def messageFields : Message → Fields
  | ⟨name?, nested⟩ => .ofText? 1 name? ++ messageFieldsAll 3 nested

/-- The fields of a message or file that hold message declarations. -/
def messageFieldsAll (number : Nat) : List Message → Fields
  | [] => .nil
  | m :: ms => .message number (messageFields m) (messageFieldsAll number ms)

end

/-- The fields of a method. -/
def methodFields (m : Method) : Fields :=
  .ofText? 1 m.name? ++ .ofText? 2 m.input? ++ .ofText? 3 m.output? ++
    .ofFlag? 5 m.clientStreaming? ++ .ofFlag? 6 m.serverStreaming?

/-- The fields of a service. -/
def serviceFields (s : Service) : Fields :=
  .ofText? 1 s.name? ++ .ofMessages 2 (s.methods.map methodFields)

/-- The fields of the options of a file. -/
def fileOptionsFields (o : FileOptions) : Fields := .ofText? 11 o.goPackage?

/-- The fields of a file. -/
def fileFields (f : File) : Fields :=
  .ofText? 1 f.name? ++ .ofText? 2 f.package? ++ messageFieldsAll 4 f.messages ++
    .ofMessages 6 (f.services.map serviceFields) ++
    .ofMessages 8 (f.options?.toList.map fileOptionsFields)

/-- The fields of a request. -/
def requestFields (r : Request) : Fields :=
  .ofTexts 1 r.filesToGenerate ++ .ofText? 2 r.parameter? ++
    .ofMessages 15 (r.files.map fileFields)

/-- The bytes of a request. -/
def encodeRequest (r : Request) : List UInt8 := (requestFields r).encode

end GoStubs.Wire
