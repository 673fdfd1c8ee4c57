import GoStubs.Wire.Utf8
/-!
# Decoded fields

A decoded message is a sequence of numbered fields, some of which hold messages themselves. What
such a sequence means depends on the field: of a scalar that occurs more than once the last one
counts, the occurrences of a single message are one message with the fields of all, and repeated
fields keep every occurrence. Therefore one sequence of fields after another means the merge of
two messages.

* `Fields.texts`, `Fields.numbers`, `Fields.messages`: the occurrences of a field.
* `Fields.text?`, `Fields.flag?`, `Fields.merged?`: the value of a field that is not repeated.
-/

namespace GoStubs.Wire

/-- The value of a field that holds no message. -/
inductive Scalar where
  | number (n : Nat)
  | numbers (ns : List Nat)
  /-- A floating-point number, as its eight bytes. -/
  | double (bytes : List UInt8)
  | bytes (bytes : List UInt8)
  | text (s : String)
  deriving DecidableEq, Repr

/-- The fields of a message. -/
inductive Fields where
  | nil
  /-- A field that holds no message, and the fields after it. -/
  | scalar (number : Nat) (value : Scalar) (rest : Fields)
  /-- A field that holds a message with the given fields, and the fields after it. -/
  | message (number : Nat) (body rest : Fields)
  deriving DecidableEq, Repr

namespace Fields

/-- The fields of one message and after them those of another. -/
def append : Fields → Fields → Fields
  | nil, gs => gs
  | scalar n v rest, gs => scalar n v (append rest gs)
  | message n body rest, gs => message n body (append rest gs)

instance : Append Fields := ⟨append⟩

/-- The fields of all messages of a list. -/
def concat : List Fields → Fields
  | [] => nil
  | fs :: rest => fs ++ concat rest

/-! ## Occurrences of a field -/

/-- The texts that a field holds. -/
def texts (number : Nat) : Fields → List String
  | nil => []
  | scalar n (.text s) rest => if n = number then s :: texts number rest else texts number rest
  | scalar _ _ rest | message _ _ rest => texts number rest

/-- The numbers that a field holds. -/
def numbers (number : Nat) : Fields → List Nat
  | nil => []
  | scalar n (.number v) rest =>
    if n = number then v :: numbers number rest else numbers number rest
  | scalar _ _ rest | message _ _ rest => numbers number rest

/-- The messages that a field holds. -/
def messages (number : Nat) : Fields → List Fields
  | nil => []
  | scalar _ _ rest => messages number rest
  | message n body rest =>
    if n = number then body :: messages number rest else messages number rest

/-! The occurrences in two messages, one after the other, are those in the first and then those in
the second. -/

@[simp] theorem nil_append (gs : Fields) : nil ++ gs = gs := rfl

@[simp] theorem scalar_append (n : Nat) (v : Scalar) (fs gs : Fields) :
    scalar n v fs ++ gs = scalar n v (fs ++ gs) := rfl

@[simp] theorem message_append (n : Nat) (body fs gs : Fields) :
    message n body fs ++ gs = message n body (fs ++ gs) := rfl

@[simp] theorem texts_append (number : Nat) (fs gs : Fields) :
    (fs ++ gs).texts number = fs.texts number ++ gs.texts number := by
  induction fs with
  | nil => rfl
  | scalar n v rest ih =>
    cases v with
    | text =>
      simp only [scalar_append, texts, ih]
      split <;> rfl
    | _ => simpa [texts] using ih
  | message n body rest _ ih => simpa [texts] using ih

@[simp] theorem numbers_append (number : Nat) (fs gs : Fields) :
    (fs ++ gs).numbers number = fs.numbers number ++ gs.numbers number := by
  induction fs with
  | nil => rfl
  | scalar n v rest ih =>
    cases v with
    | number =>
      simp only [scalar_append, numbers, ih]
      split <;> rfl
    | _ => simpa [numbers] using ih
  | message n body rest _ ih => simpa [numbers] using ih

@[simp] theorem messages_append (number : Nat) (fs gs : Fields) :
    (fs ++ gs).messages number = fs.messages number ++ gs.messages number := by
  induction fs with
  | nil => rfl
  | scalar n v rest ih => simpa [messages] using ih
  | message n body rest _ ih =>
    simp only [message_append, messages, ih]
    split <;> rfl

/-! ## Fields that are not repeated -/

/-- The last text that a field holds. -/
def text? (number : Nat) (fs : Fields) : Option String := (fs.texts number).getLast?

/-- The last number that a field holds. -/
def number? (number : Nat) (fs : Fields) : Option Nat := (fs.numbers number).getLast?

/-- The truth value of the last number that a field holds: every number but zero is true. -/
def flag? (number : Nat) (fs : Fields) : Option Bool := (fs.number? number).map (· ≠ 0)

/-- The message that the occurrences of a field make together. -/
def merged? (number : Nat) (fs : Fields) : Option Fields :=
  match fs.messages number with
  | [] => none
  | bodies => some (concat bodies)

/-! ## Building fields -/

/-- A field with a text, left out if there is none. -/
def ofText? (number : Nat) : Option String → Fields
  | none => nil
  | some s => scalar number (.text s) nil

/-- A field with a truth value, left out if there is none. -/
def ofFlag? (number : Nat) : Option Bool → Fields
  | none => nil
  | some b => scalar number (.number b.toNat) nil

/-- A field with a text for each one of a list. -/
def ofTexts (number : Nat) (ss : List String) : Fields :=
  concat (ss.map fun s => scalar number (.text s) nil)

/-- A field with a message for each one of a list. -/
def ofMessages (number : Nat) (bodies : List Fields) : Fields :=
  concat (bodies.map fun body => message number body nil)

end Fields

end GoStubs.Wire
