import GoStubs.Proofs.Wire.RoundTrip
/-!
# Fields that are put together

A message to be written is put together from fields with texts, truth values and messages, which are
left out where there is nothing to write. For such fields it can be told from their parts whether
they are those of a kind of message, how deep they are nested, and what they are read as.

* `Fields.Conforms.append` and its neighbours: fields of a kind of message.
* `Fields.height_append` and its neighbours: their nesting.
* `Fields.text?_of_texts`, `Fields.flag?_of_numbers`, `Fields.merged?_of_messages`: the value of a
  field that occurs at most once.
-/

namespace GoStubs.Wire.Fields

/-! ## Building fields -/

section

variable {kind inner : Kind} {number k : Nat} {fs gs : Fields} {bodies : List Fields}

theorem append_nil (fs : Fields) : fs ++ nil = fs := by
  induction fs with
  | nil => rfl
  | scalar number value rest ih => rw [scalar_append, ih]
  | message number body rest _ ih => rw [message_append, ih]

theorem concat_singleton (fs : Fields) : concat [fs] = fs := append_nil fs

theorem ofMessages_cons (number : Nat) (body : Fields) (bodies : List Fields) :
    ofMessages number (body :: bodies) = message number body (ofMessages number bodies) := rfl

theorem ofTexts_cons (number : Nat) (s : String) (ss : List String) :
    ofTexts number (s :: ss) = scalar number (.text s) (ofTexts number ss) := rfl

theorem Conforms.append (hfs : fs.Conforms kind) (hgs : gs.Conforms kind) :
    (fs ++ gs).Conforms kind := by
  induction hfs with
  | nil => exact hgs
  | scalar hfield hvalue _ ih => exact .scalar hfield hvalue (ih hgs)
  | message hfield hbody _ _ ih => exact .message hfield hbody (ih hgs)

theorem conforms_ofText? (hfield : kind.field? number = some .text) (s? : Option String) :
    (ofText? number s?).Conforms kind := by
  cases s? with
  | none => exact .nil
  | some s => exact .scalar hfield trivial .nil

theorem conforms_ofFlag? (hfield : kind.field? number = some .number) (b? : Option Bool) :
    (ofFlag? number b?).Conforms kind := by
  cases b? with
  | none => exact .nil
  | some b =>
    have hlt : b.toNat < 2 ^ 64 := Nat.lt_of_le_of_lt b.toNat_le (by decide)
    exact .scalar hfield hlt .nil

theorem conforms_ofTexts (hfield : kind.field? number = some .text) (ss : List String) :
    (ofTexts number ss).Conforms kind := by
  induction ss with
  | nil => exact .nil
  | cons s ss ih => exact .scalar hfield trivial ih

theorem conforms_ofMessages (hfield : kind.field? number = some (.message inner))
    (hbodies : ∀ body ∈ bodies, body.Conforms inner) :
    (ofMessages number bodies).Conforms kind := by
  induction bodies with
  | nil => exact .nil
  | cons body bodies ih =>
    exact .message hfield (hbodies body List.mem_cons_self)
      (ih fun b hb => hbodies b (List.mem_cons_of_mem _ hb))

/-! ## How deep they are nested -/

@[simp] theorem height_nil : (nil : Fields).height = 0 := rfl

@[simp] theorem height_append (fs gs : Fields) : (fs ++ gs).height = max fs.height gs.height := by
  induction fs with
  | nil => simp
  | scalar number value rest ih => simpa [height] using ih
  | message number body rest _ ih => simp [height, ih, Nat.max_assoc]

@[simp] theorem height_ofText? (number : Nat) (s? : Option String) :
    (ofText? number s?).height = 0 := by
  cases s? <;> rfl

@[simp] theorem height_ofFlag? (number : Nat) (b? : Option Bool) :
    (ofFlag? number b?).height = 0 := by
  cases b? <;> rfl

@[simp] theorem height_ofTexts (number : Nat) (ss : List String) :
    (ofTexts number ss).height = 0 := by
  induction ss with
  | nil => rfl
  | cons s ss ih => exact ih

theorem height_ofMessages_le_iff :
    (ofMessages number bodies).height ≤ k ↔ ∀ body ∈ bodies, body.height + 1 ≤ k := by
  induction bodies with
  | nil => simp [ofMessages, concat]
  | cons body bodies ih =>
    rw [ofMessages_cons, height, Nat.max_le, ih, List.forall_mem_cons]

end

/-! ## What they are read as -/

section

variable (number n : Nat)

@[simp] theorem texts_ofText? (s? : Option String) :
    (ofText? n s?).texts number = if n = number then s?.toList else [] := by
  cases s? <;> simp [ofText?, texts]

@[simp] theorem texts_ofFlag? (b? : Option Bool) : (ofFlag? n b?).texts number = [] := by
  cases b? <;> rfl

@[simp] theorem texts_ofTexts (ss : List String) :
    (ofTexts n ss).texts number = if n = number then ss else [] := by
  induction ss with
  | nil => simp [ofTexts, concat, texts]
  | cons s ss ih =>
    rw [ofTexts_cons, texts, ih]
    split <;> rfl

@[simp] theorem texts_ofMessages (bodies : List Fields) :
    (ofMessages n bodies).texts number = [] := by
  induction bodies with
  | nil => rfl
  | cons body bodies ih => exact ih

@[simp] theorem numbers_ofText? (s? : Option String) : (ofText? n s?).numbers number = [] := by
  cases s? <;> rfl

@[simp] theorem numbers_ofFlag? (b? : Option Bool) :
    (ofFlag? n b?).numbers number = if n = number then (b?.map Bool.toNat).toList else [] := by
  cases b? <;> simp [ofFlag?, numbers]

@[simp] theorem numbers_ofMessages (bodies : List Fields) :
    (ofMessages n bodies).numbers number = [] := by
  induction bodies with
  | nil => rfl
  | cons body bodies ih => exact ih

@[simp] theorem messages_ofText? (s? : Option String) : (ofText? n s?).messages number = [] := by
  cases s? <;> rfl

@[simp] theorem messages_ofTexts (ss : List String) : (ofTexts n ss).messages number = [] := by
  induction ss with
  | nil => rfl
  | cons s ss ih => exact ih

@[simp] theorem messages_ofMessages (bodies : List Fields) :
    (ofMessages n bodies).messages number = if n = number then bodies else [] := by
  induction bodies with
  | nil => simp [ofMessages, concat, messages]
  | cons body bodies ih =>
    rw [ofMessages_cons, messages, ih]
    split <;> rfl

end

section

variable {number : Nat} {fs : Fields}

/-- A text that stands at most once in a field is its value. -/
theorem text?_of_texts {s? : Option String} (h : fs.texts number = s?.toList) :
    fs.text? number = s? := by
  rw [text?, h]
  cases s? <;> rfl

/-- A truth value that stands at most once in a field is its value. -/
theorem flag?_of_numbers {b? : Option Bool} (h : fs.numbers number = (b?.map Bool.toNat).toList) :
    fs.flag? number = b? := by
  rw [flag?, number?, h]
  rcases b? with _ | _ | _ <;> rfl

/-- A message that stands at most once in a field is its value. -/
theorem merged?_of_messages {body? : Option Fields} (h : fs.messages number = body?.toList) :
    fs.merged? number = body? := by
  rw [merged?, h]
  cases body? with
  | none => rfl
  | some body => exact congrArg some (concat_singleton body)

end

end GoStubs.Wire.Fields
