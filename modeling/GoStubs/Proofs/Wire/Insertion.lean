import GoStubs.Proofs.Wire.Merge
/-!
# Records that no message knows

A record with a number that its message does not know is skipped, whatever it holds and wherever it
stands between two others. Inside of a message that another one holds it makes the length in front
of that message another one, and perhaps longer; since records follow each other without regard to
what is in them, nothing else changes.

* `Inserts`: how bytes become others by one such record.
* `decodeWithin_eq_of_inserts`: the fields of a message are the same with it and without it.
-/

namespace GoStubs.Wire

/-- The bytes of a message of a given kind, and the same with one more record, which the message or
a message inside of it does not know. The levels of nesting that are left where it stands cover it.
-/
inductive Inserts : (budget : Nat) → Kind → List UInt8 → List UInt8 → Prop where
  /-- The record stands between two others of the message, or at an end of them. -/
  | here {budget : Nat} {kind : Kind} {before record after : List UInt8} {rs : List Record}
      {r : Record} (hbefore : Framed rs before) (hrecord : Framed [r] record)
      (hunknown : kind.field? r.number = none) (hheight : r.payload.height ≤ budget) :
      Inserts budget kind (before ++ after) (before ++ (record ++ after))
  /-- It stands in a message that is held by a field, and the length in front of that message is
  written anew. -/
  | inside {budget : Nat} {kind inner : Kind} {number : Nat} {rs : List Record}
      {before key length length' body body' after : List UInt8} (hbefore : Framed rs before)
      (hfield : kind.field? number = some (.message inner)) (hkey : IsKey number 2 key)
      (hlength : IsVarint body.length length) (hlength' : IsVarint body'.length length')
      (hbody : Inserts budget inner body body') :
      Inserts (budget + 1) kind (before ++ (key ++ (length ++ body) ++ after))
        (before ++ (key ++ (length' ++ body') ++ after))

section

variable {budget number : Nat} {kind inner : Kind} {r : Record} {fs : Fields}
variable {before record after key length length' body body' bytes bytes' : List UInt8}

/-- A record that is skipped makes no difference to the bytes after it. -/
theorem decodeWithin_skip (hrecord : Framed [r] record) (hunknown : kind.field? r.number = none)
    (hheight : r.payload.height ≤ budget) :
    decodeWithin budget kind (record ++ after) = decodeWithin budget kind after := by
  have hskip : decodeRecord (bodyWithin budget) budget kind r = some .nil := by
    simp only [decodeRecord, hunknown]
    rw [if_pos hheight]
  rw [decodeWithin_append_of_framed_one hrecord, hskip, Option.bind_some]
  cases decodeWithin budget kind after <;> rfl

theorem framed_message (hkey : IsKey number 2 key) (hlength : IsVarint body.length length) :
    Framed [⟨number, .delimited body⟩] (key ++ (length ++ body)) := by
  have hframed := Framed.plain hkey (.delimited hlength) .nil
  rw [List.append_nil] at hframed
  exact hframed

/-- Of a message inside of another one, only its fields count. -/
theorem decodeWithin_message_congr (hfield : kind.field? number = some (.message inner))
    (hkey : IsKey number 2 key) (hlength : IsVarint body.length length)
    (hlength' : IsVarint body'.length length')
    (hbody : decodeWithin budget inner body' = decodeWithin budget inner body) :
    decodeWithin (budget + 1) kind (key ++ (length' ++ body') ++ after) =
      decodeWithin (budget + 1) kind (key ++ (length ++ body) ++ after) := by
  have hrecord : decodeRecord (bodyWithin (budget + 1)) (budget + 1) kind
      ⟨number, .delimited body'⟩ =
        decodeRecord (bodyWithin (budget + 1)) (budget + 1) kind ⟨number, .delimited body⟩ := by
    simp only [decodeRecord, hfield, bodyWithin, hbody]
  rw [decodeWithin_append_of_framed_one (framed_message hkey hlength'), hrecord,
    ← decodeWithin_append_of_framed_one (framed_message hkey hlength)]

/-- The fields of a message are the same with a record that it does not know and without it. -/
theorem decodeWithin_eq_of_inserts (h : Inserts budget kind bytes bytes') :
    decodeWithin budget kind bytes' = decodeWithin budget kind bytes := by
  induction h with
  | here hbefore hrecord hunknown hheight =>
    rw [decodeWithin_append_of_framed hbefore, decodeWithin_skip hrecord hunknown hheight,
      ← decodeWithin_append_of_framed hbefore]
  | inside hbefore hfield hkey hlength hlength' _ ih =>
    rw [decodeWithin_append_of_framed hbefore,
      decodeWithin_message_congr hfield hkey hlength hlength' ih,
      ← decodeWithin_append_of_framed hbefore]

end

end GoStubs.Wire
