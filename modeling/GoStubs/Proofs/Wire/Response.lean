import GoStubs.Proofs.Wire.Fields
import GoStubs.Wire.Response
import Mathlib.Data.List.Forall2
/-!
# Responses are read back

The fields that a response is written as say for each of its parts whether it is there: the message
of an error is left out if there is none, but the feature mask, and the name and the content of
every file, are written even where they are zero or empty. Their nesting is far from any limit, so
a response is read back from its bytes unless a length in it is too large.

* `Carries`: fields that say all that a response says.
* `ReadsBack`: bytes that are read as a response and carry it.
* `readsBack_encodeResponse_iff`: which responses are read back from their bytes.
-/

namespace GoStubs.Wire

open GoStubs.Proto

/-! ## Meanings -/

/-- Whether fields say all that a response says, and set everything that it sets. -/
structure Carries (fields : Fields) (r : Response) : Prop where
  error : fields.text? 1 = r.error?
  features : fields.number? 2 = some r.supportedFeatures
  /-- There is a message for each file, with its name and its content. -/
  files : List.Forall₂ (fun body f => body.text? 1 = some f.name ∧ body.text? 15 = some f.content)
    (fields.messages 15) r.files

/-- Whether bytes are read as a response, each part of which is set in them if it is set there. -/
def ReadsBack (bytes : List UInt8) (r : Response) : Prop :=
  decodeResponse bytes = some r ∧ ∃ fields, decode .response bytes = some fields ∧ Carries fields r

/-! ## Files -/

section

variable (f : OutputFile)

theorem text?_name_outputFileFields : (outputFileFields f).text? 1 = some f.name :=
  Fields.text?_of_texts (by simp [outputFileFields])

theorem text?_content_outputFileFields : (outputFileFields f).text? 15 = some f.content :=
  Fields.text?_of_texts (by simp [outputFileFields])

theorem outputFileOf_outputFileFields : outputFileOf (outputFileFields f) = f := by
  rw [outputFileOf, text?_name_outputFileFields, text?_content_outputFileFields]
  rfl

theorem conforms_outputFileFields : (outputFileFields f).Conforms .outputFile :=
  (Fields.conforms_ofText? rfl _).append (Fields.conforms_ofText? rfl _)

theorem height_outputFileFields : (outputFileFields f).height = 0 := by
  simp [outputFileFields]

end

/-! ## Responses -/

section

variable (r : Response)

theorem text?_responseFields : (responseFields r).text? 1 = r.error? :=
  Fields.text?_of_texts (by simp [responseFields, Fields.texts])

theorem number?_responseFields : (responseFields r).number? 2 = some r.supportedFeatures := by
  simp [responseFields, Fields.number?, Fields.numbers]

theorem messages_responseFields :
    (responseFields r).messages 15 = r.files.map outputFileFields := by
  simp [responseFields, Fields.messages]

/-- A response is read back from its fields. -/
theorem responseOf_responseFields : responseOf (responseFields r) = r := by
  have hfiles : (r.files.map outputFileFields).map outputFileOf = r.files :=
    Function.LeftInverse.list_map outputFileOf_outputFileFields r.files
  rw [responseOf, text?_responseFields, number?_responseFields, messages_responseFields, hfiles]
  rfl

theorem carries_responseFields : Carries (responseFields r) r := by
  refine ⟨text?_responseFields r, number?_responseFields r, ?_⟩
  rw [messages_responseFields, List.forall₂_map_left_iff]
  exact List.forall₂_same.mpr fun f _ =>
    ⟨text?_name_outputFileFields f, text?_content_outputFileFields f⟩

variable {r}

theorem conforms_responseFields (h : r.supportedFeatures < 2 ^ 64) :
    (responseFields r).Conforms .response := by
  have hfeatures : (Fields.scalar 2 (.number r.supportedFeatures) .nil).Conforms .response :=
    .scalar rfl h .nil
  have herror : (Fields.ofText? 1 r.error?).Conforms .response := Fields.conforms_ofText? rfl _
  refine (herror.append hfeatures).append (Fields.conforms_ofMessages rfl fun body hbody => ?_)
  obtain ⟨f, -, rfl⟩ := List.mem_map.mp hbody
  exact conforms_outputFileFields f

theorem height_responseFields_le : (responseFields r).height ≤ nestingBudget := by
  have hfiles : (Fields.ofMessages 15 (r.files.map outputFileFields)).height ≤ nestingBudget := by
    simp [Fields.height_ofMessages_le_iff, height_outputFileFields, nestingBudget]
  simpa [responseFields, Fields.height] using hfiles

/-- The fields of an encoded response are those that it was written as, if the lengths could be
written, and otherwise the bytes are refused. -/
theorem decode_encodeResponse_eq_some_iff (h : r.supportedFeatures < 2 ^ 64) {fields : Fields} :
    decode .response (encodeResponse r) = some fields ↔
      (responseFields r).Measured ∧ responseFields r = fields := by
  rw [encodeResponse, decode_encode_eq_some_iff (conforms_responseFields h)]
  simp only [height_responseFields_le, true_and]

/-- A response is read back from its bytes exactly if all lengths can be written. -/
theorem readsBack_encodeResponse_iff (h : r.supportedFeatures < 2 ^ 64) :
    ReadsBack (encodeResponse r) r ↔ (responseFields r).Measured := by
  constructor
  · intro ⟨_, fields, hfields, _⟩
    exact ((decode_encodeResponse_eq_some_iff h).mp hfields).1
  · intro hmeasured
    have hfields := (decode_encodeResponse_eq_some_iff h).mpr ⟨hmeasured, rfl⟩
    refine ⟨?_, _, hfields, carries_responseFields r⟩
    rw [decodeResponse, hfields, Option.map_some, responseOf_responseFields]

/-- All lengths can be written in a response whose encoding has fewer than `2 ^ 64` bytes. -/
theorem measured_responseFields (h : r.supportedFeatures < 2 ^ 64)
    (hlength : (encodeResponse r).length < 2 ^ 64) : (responseFields r).Measured :=
  Fields.measured_of_length_lt (conforms_responseFields h) hlength

end

end GoStubs.Wire
