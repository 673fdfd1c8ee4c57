/-!
# Texts as bytes

The encoding of a text in UTF-8, as a list of bytes.
-/

namespace GoStubs.Wire

/-- The bytes of a text. -/
def utf8Bytes (s : String) : List UInt8 := s.toUTF8.data.toList

/-- The text that has the given bytes, if there is one. -/
def utf8Text? (bytes : List UInt8) : Option String := String.fromUTF8? ⟨bytes.toArray⟩

theorem toArray_utf8Bytes (s : String) : (⟨(utf8Bytes s).toArray⟩ : ByteArray) = s.toByteArray := by
  simp [utf8Bytes]

/-- A text is read back from its bytes. -/
theorem utf8Text?_utf8Bytes (s : String) : utf8Text? (utf8Bytes s) = some s := by
  simp only [utf8Text?, toArray_utf8Bytes, String.fromUTF8?, dif_pos s.isValidUTF8]
  rfl

end GoStubs.Wire
