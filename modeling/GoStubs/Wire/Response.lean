import GoStubs.Proto.Exchange
import GoStubs.Wire.Decode
import GoStubs.Wire.Encode
/-!
# Responses as bytes

The fields of a response, and the view of decoded fields as a response.

* `encodeResponse`: the bytes of a response, its fields in the order of their numbers.
* `decodeResponse`: a response from its bytes.
-/

namespace GoStubs.Wire

open GoStubs.Proto

/-! ## To fields -/

/-- The fields of a generated file. -/
def outputFileFields (f : OutputFile) : Fields :=
  .ofText? 1 (some f.name) ++ .ofText? 15 (some f.content)

/-- The fields of a response. -/
def responseFields (r : Response) : Fields :=
  .ofText? 1 r.error? ++ .scalar 2 (.number r.supportedFeatures) .nil ++
    .ofMessages 15 (r.files.map outputFileFields)

/-- The bytes of a response. -/
def encodeResponse (r : Response) : List UInt8 := (responseFields r).encode

/-! ## From fields -/

/-- The generated file with the given fields. -/
def outputFileOf (fs : Fields) : OutputFile := ⟨(fs.text? 1).getD "", (fs.text? 15).getD ""⟩

/-- The response with the given fields. -/
def responseOf (fs : Fields) : Response :=
  ⟨fs.text? 1, (fs.number? 2).getD 0, (fs.messages 15).map outputFileOf⟩

/-- The response that bytes encode, if they do. -/
def decodeResponse (bytes : List UInt8) : Option Response :=
  (decode .response bytes).map responseOf

end GoStubs.Wire
