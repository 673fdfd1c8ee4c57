import GoStubs.Proofs.Wire.Token
import GoStubs.Wire.Decode
/-!
# Fields are read back

Encoded fields are read back under a budget exactly if the budget covers their nesting and no length
takes more than 64 bits, provided that they are fields of the kind of message that they are read as.
Reading never yields anything else: where one of the two conditions fails, the bytes are refused.

* `Fields.Conforms`: which fields a kind of message can have.
* `Fields.height`, `Fields.Measured`: the nesting of fields, and whether their lengths can be
  written.
* `decodeWithin_eq_some_iff_of_read`: what the first record of a message has to do with the rest.
* `decodeWithin_encode_eq_some_iff`: when fields are read back.
-/

namespace GoStubs.Wire

/-! ## Fields of a message -/

/-- Whether a value can stand in a field of the given type. -/
def ScalarType.Admits : ScalarType → Scalar → Prop
  | number, .number n => n < 2 ^ 64
  | numbers, .numbers ns => ∀ n ∈ ns, n < 2 ^ 64
  | double, .double content => content.length = 8
  | bytes, .bytes _ | text, .text _ => True
  | _, _ => False

/-- What stands behind the key of a field without a message. -/
def Scalar.tokenValue : Scalar → TokenValue
  | number n => .varint n
  | numbers ns => .delimited (ns.flatMap encodeVarint)
  | double content => .fixed64 content
  | bytes content => .delimited content
  | text s => .delimited (utf8Bytes s)

namespace Fields

/-- Whether a kind of message can have the given fields. -/
inductive Conforms : Kind → Fields → Prop where
  | nil {kind : Kind} : Conforms kind nil
  | scalar {kind : Kind} {number : Nat} {type : ScalarType} {value : Scalar} {rest : Fields}
      (hfield : kind.field? number = some (.scalar type)) (hvalue : type.Admits value)
      (hrest : Conforms kind rest) : Conforms kind (scalar number value rest)
  | message {kind inner : Kind} {number : Nat} {body rest : Fields}
      (hfield : kind.field? number = some (.message inner)) (hbody : Conforms inner body)
      (hrest : Conforms kind rest) : Conforms kind (message number body rest)

/-- How deep messages are nested in fields. -/
def height : Fields → Nat
  | nil => 0
  | scalar _ _ rest => rest.height
  | message _ body rest => max (body.height + 1) rest.height

/-- Whether no length that is written for fields takes more than 64 bits. -/
def Measured : Fields → Prop
  | nil => True
  | scalar _ value rest => value.tokenValue.Measured ∧ rest.Measured
  | message _ body rest =>
    (TokenValue.delimited body.encode).Measured ∧ body.Measured ∧ rest.Measured

end Fields

/-- The numbers of the fields of a message can be written. -/
theorem Kind.isFieldNumber_of_field? {kind : Kind} {number : Nat} {type : FieldType}
    (h : kind.field? number = some type) : IsFieldNumber number := by
  obtain ⟨entry, hentry, -⟩ := Option.map_eq_some_iff.mp h
  have hnumber : entry.1 = number := by simpa using List.find?_some hentry
  have hall : ∀ e ∈ kind.fields, 0 < e.1 ∧ e.1 < 1000 := by cases kind <;> decide
  have hbounds := hall entry (List.mem_of_find?_eq_some hentry)
  rw [IsFieldNumber, ← hnumber]
  omega

/-! ## The token of a field -/

theorem Scalar.encode_eq (number : Nat) (value : Scalar) :
    value.encode number = (Token.mk number value.tokenValue).encode := by
  cases value <;> rfl

theorem ScalarType.sized_of_admits {type : ScalarType} {value : Scalar} (h : type.Admits value) :
    value.tokenValue.Sized := by
  cases value with
  | double content =>
    cases type with
    | double => exact h
    | _ => exact absurd h id
  | _ => trivial

/-- A value in its written form is read as what it is. -/
theorem ScalarType.exists_payload_of_admits {type : ScalarType} {value : Scalar}
    (h : type.Admits value) :
    ∃ payload, value.tokenValue.payload? = some payload ∧ type.read payload = some value := by
  cases type <;> cases value <;> try exact absurd h id
  case number.number n => exact ⟨_, rfl, rfl⟩
  case numbers.numbers ns =>
    refine ⟨_, rfl, ?_⟩
    rw [read, readVarints_flatMap_encodeVarint h, Option.map_some]
  case double.double content => exact ⟨_, rfl, rfl⟩
  case bytes.bytes content => exact ⟨_, rfl, rfl⟩
  case text.text s =>
    refine ⟨_, rfl, ?_⟩
    rw [read, utf8Text?_utf8Bytes, Option.map_some]

/-! ## Record by record -/

/-- How a message inside another one is decoded. -/
def bodyWithin : (budget : Nat) → Kind → List UInt8 → Option Fields
  | 0 => fun _ _ => none
  | budget + 1 => decodeWithin budget

theorem decodeWithin_eq (budget : Nat) (kind : Kind) (bytes : List UInt8) :
    decodeWithin budget kind bytes =
      (records bytes).bind (decodeRecords (bodyWithin budget) budget kind) := by
  cases budget <;> rfl

section

variable {budget : Nat} {kind : Kind} {bytes rest : List UInt8} {t : Token} {gs : Fields}

theorem decodeWithin_nil : decodeWithin budget kind [] = some .nil := by
  rw [decodeWithin_eq]
  rfl

/-- A message whose first token is a record by itself has the field of that record, and then those
of the bytes after it. -/
theorem decodeWithin_eq_some_iff_of_read {payload : Payload}
    (h : Token.read bytes = some (t, rest)) (hpayload : t.value.payload? = some payload) :
    decodeWithin budget kind bytes = some gs ↔
      ∃ fs, decodeRecord (bodyWithin budget) budget kind ⟨t.number, payload⟩ = some fs ∧
        ∃ fs', decodeWithin budget kind rest = some fs' ∧ fs ++ fs' = gs := by
  rw [decodeWithin_eq, decodeWithin_eq, records_of_read h hpayload]
  cases records rest with
  | none => simp
  | some rs =>
    simp only [Option.map_some, Option.bind_some, decodeRecords]
    cases decodeRecord (bodyWithin budget) budget kind ⟨t.number, payload⟩ with
    | none => simp
    | some fs => simp

theorem decodeWithin_of_read_eq_none (h : Token.read bytes = none) (hne : bytes ≠ []) :
    decodeWithin budget kind bytes = none := by
  rw [decodeWithin_eq, records_of_read_eq_none h hne, Option.bind_none]

end

/-! ## Field by field -/

section

variable {budget number : Nat} {kind inner : Kind} {bytes rest : List UInt8} {gs : Fields}

theorem Token.encode_ne_nil (t : Token) : t.encode ≠ [] := by
  rw [Token.encode, encodeKey]
  exact List.append_ne_nil_of_left_ne_nil (encodeVarint_ne_nil _) _

/-- A message that starts with a written token is read if a number in the token can be written; its
fields are then that of the token's record and those of the bytes after it. -/
theorem decodeWithin_token_eq_some_iff {t : Token} {payload : Payload}
    (hnumber : IsFieldNumber t.number) (hsized : t.value.Sized)
    (hpayload : t.value.payload? = some payload) :
    decodeWithin budget kind (t.encode ++ rest) = some gs ↔ t.value.Measured ∧
      ∃ fs, decodeRecord (bodyWithin budget) budget kind ⟨t.number, payload⟩ = some fs ∧
        ∃ fs', decodeWithin budget kind rest = some fs' ∧ fs ++ fs' = gs := by
  by_cases hmeasured : t.value.Measured
  · rw [decodeWithin_eq_some_iff_of_read (Token.read_encode hnumber hsized hmeasured rest) hpayload]
    simp only [hmeasured, true_and]
  · have hread := Token.read_encode_of_not_measured hnumber hmeasured rest
    have hne := List.append_ne_nil_of_left_ne_nil t.encode_ne_nil rest
    rw [decodeWithin_of_read_eq_none hread hne]
    simp [hmeasured]

/-- A field without a message is read back if its length can be written. -/
theorem decodeWithin_scalar_eq_some_iff {type : ScalarType} {value : Scalar}
    (hfield : kind.field? number = some (.scalar type)) (hvalue : type.Admits value) :
    decodeWithin budget kind (value.encode number ++ rest) = some gs ↔
      value.tokenValue.Measured ∧
        ∃ fs, decodeWithin budget kind rest = some fs ∧ .scalar number value fs = gs := by
  obtain ⟨payload, hpayload, htype⟩ := ScalarType.exists_payload_of_admits hvalue
  have hrecord : decodeRecord (bodyWithin budget) budget kind ⟨number, payload⟩ =
      some (.scalar number value .nil) := by
    simp only [decodeRecord, hfield, htype, Option.map_some]
  rw [Scalar.encode_eq, decodeWithin_token_eq_some_iff (Kind.isFieldNumber_of_field? hfield)
    (ScalarType.sized_of_admits hvalue) hpayload, hrecord]
  simp

/-- A field with a message is read back if its length can be written and its content is read, and
then as what the content is read as. -/
theorem decodeWithin_message_eq_some_iff (hfield : kind.field? number = some (.message inner)) :
    decodeWithin budget kind (encodeKey number 2 ++ encodeDelimited bytes ++ rest) = some gs ↔
      (TokenValue.delimited bytes).Measured ∧ ∃ body, bodyWithin budget inner bytes = some body ∧
        ∃ fs, decodeWithin budget kind rest = some fs ∧ .message number body fs = gs := by
  have hencode : encodeKey number 2 ++ encodeDelimited bytes =
      (Token.mk number (.delimited bytes)).encode := rfl
  have hrecord : decodeRecord (bodyWithin budget) budget kind ⟨number, .delimited bytes⟩ =
      (bodyWithin budget inner bytes).map fun fields => .message number fields .nil := by
    simp only [decodeRecord, hfield]
  rw [hencode, decodeWithin_token_eq_some_iff (t := ⟨number, .delimited bytes⟩)
    (Kind.isFieldNumber_of_field? hfield) trivial rfl, hrecord]
  cases bodyWithin budget inner bytes <;> simp

end

/-- Fields are read back exactly if the budget covers their nesting and their lengths can be
written, and otherwise they are refused. -/
theorem decodeWithin_encode_eq_some_iff {kind : Kind} {fs : Fields} (h : fs.Conforms kind) :
    ∀ {budget : Nat} {gs : Fields}, decodeWithin budget kind fs.encode = some gs ↔
      (fs.height ≤ budget ∧ fs.Measured) ∧ fs = gs := by
  induction h with
  | nil =>
    intro budget gs
    simp [Fields.encode, decodeWithin_nil, Fields.height, Fields.Measured]
  | scalar hfield hvalue _ ih =>
    intro budget gs
    rw [Fields.encode, decodeWithin_scalar_eq_some_iff hfield hvalue]
    simp only [ih, Fields.height, Fields.Measured]
    constructor
    · intro ⟨hmeasured, fs, ⟨⟨hheight, hrest⟩, hfs⟩, hgs⟩
      exact ⟨⟨hheight, hmeasured, hrest⟩, hfs ▸ hgs⟩
    · intro ⟨⟨hheight, hmeasured, hrest⟩, hgs⟩
      exact ⟨hmeasured, _, ⟨⟨hheight, hrest⟩, rfl⟩, hgs⟩
  | message hfield _ _ ihbody ih =>
    intro budget gs
    rw [Fields.encode, decodeWithin_message_eq_some_iff hfield]
    cases budget with
    | zero => simp [bodyWithin, Fields.height]
    | succ budget =>
      simp only [bodyWithin, ihbody, ih, Fields.height, Fields.Measured, Nat.max_le,
        Nat.add_le_add_iff_right]
      constructor
      · intro ⟨hlength, body, ⟨⟨hbody, hbodyMeasured⟩, hbodyEq⟩, fs, ⟨⟨hrest, hmeasured⟩, hfs⟩, hgs⟩
        exact ⟨⟨⟨hbody, hrest⟩, hlength, hbodyMeasured, hmeasured⟩, hbodyEq ▸ hfs ▸ hgs⟩
      · intro ⟨⟨⟨hbody, hrest⟩, hlength, hbodyMeasured, hmeasured⟩, hgs⟩
        exact ⟨hlength, _, ⟨⟨hbody, hbodyMeasured⟩, rfl⟩, _, ⟨⟨hrest, hmeasured⟩, rfl⟩, hgs⟩

theorem decode_encode_eq_some_iff {kind : Kind} {fs gs : Fields} (h : fs.Conforms kind) :
    decode kind fs.encode = some gs ↔ (fs.height ≤ nestingBudget ∧ fs.Measured) ∧ fs = gs :=
  decodeWithin_encode_eq_some_iff h

/-! ## Lengths -/

theorem length_le_length_encodeDelimited (bytes : List UInt8) :
    bytes.length ≤ (encodeDelimited bytes).length := by
  rw [encodeDelimited, List.length_append]
  omega

/-- A value of which less is written than 64 bits can count has no longer length in front. -/
theorem ScalarType.measured_of_length_lt {type : ScalarType} {value : Scalar} {number : Nat}
    (h : type.Admits value) (hlength : (value.encode number).length < 2 ^ 64) :
    value.tokenValue.Measured := by
  cases value with
  | number n =>
    cases type with
    | number => exact h
    | _ => exact absurd h id
  | double content => trivial
  | numbers _ | bytes _ | text _ =>
    simp only [Scalar.encode, List.length_append] at hlength
    exact Nat.lt_of_le_of_lt (length_le_length_encodeDelimited _) (by omega)

/-- All lengths can be written in an encoding that is itself that short. -/
theorem Fields.measured_of_length_lt {kind : Kind} {fs : Fields} (h : fs.Conforms kind)
    (hlength : fs.encode.length < 2 ^ 64) : fs.Measured := by
  induction h with
  | nil => trivial
  | scalar _ hvalue _ ih =>
    rw [encode, List.length_append] at hlength
    have hfirst := ScalarType.measured_of_length_lt hvalue
      (Nat.lt_of_le_of_lt (Nat.le_add_right _ _) hlength)
    exact ⟨hfirst, ih (Nat.lt_of_le_of_lt (Nat.le_add_left _ _) hlength)⟩
  | @message _ _ number body _ _ _ _ ihbody ih =>
    simp only [encode, List.length_append] at hlength
    have hle := length_le_length_encodeDelimited body.encode
    have hbody : body.encode.length < 2 ^ 64 := by omega
    exact ⟨hbody, ihbody hbody, ih (by omega)⟩

end GoStubs.Wire
