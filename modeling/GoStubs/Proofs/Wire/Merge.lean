import GoStubs.Proofs.Proto.Merge
import GoStubs.Proofs.Wire.Framing
import GoStubs.Proofs.Wire.Request
import Mathlib.Data.List.Forall2
/-!
# Messages one after the other

Since no record depends on what follows it, the fields of two messages that stand one after the
other are those of the first and then those of the second; and to read the fields of two messages
is to merge what each of them is read as. So bytes that are put together are merged, at any budget
and for any kind of message. The occurrences of a field that holds a single message are such bytes,
too: they are read as the message that their bytes make together.

* `Merges`: what it means for a reader.
* `decodeWithin_append_of_framed`: the fields of records, and those of the bytes after them.
* `merges_decodeWithin`, `merges_decodeRequest`: the readers of messages merge.
* `OneMessage`, `oneMessage_of_decodeWithin`: the occurrences of a field with a single message.
-/

namespace GoStubs.Wire

open GoStubs.Proto

/-- Whether a reader merges what it reads in two byte strings if one stands behind the other. What
it refuses, it refuses behind anything. -/
def Merges {α : Type} (read : List UInt8 → Option α) (merge : α → α → α) : Prop :=
  ∀ ⦃a : List UInt8⦄ ⦃x : α⦄, read a = some x → ∀ b, read (a ++ b) = (read b).map (merge x)

/-! ## Occurrences of a field -/

namespace Fields

/-- The values that a field without a message holds. -/
def scalars (number : Nat) : Fields → List Scalar
  | nil => []
  | scalar n value rest =>
    if n = number then value :: scalars number rest else scalars number rest
  | message _ _ rest => scalars number rest

/-- The last value that a field without a message holds. -/
def scalar? (number : Nat) (fs : Fields) : Option Scalar := (fs.scalars number).getLast?

section

variable (number : Nat) (fs gs hs : Fields)

theorem append_assoc : fs ++ gs ++ hs = fs ++ (gs ++ hs) := by
  induction fs with
  | nil => rfl
  | scalar n value rest ih => simp only [scalar_append, ih]
  | message n body rest _ ih => simp only [message_append, ih]

theorem concat_append (xs ys : List Fields) : concat (xs ++ ys) = concat xs ++ concat ys := by
  induction xs with
  | nil => rfl
  | cons x xs ih => rw [List.cons_append, concat, ih, concat, append_assoc]

@[simp] theorem scalars_append :
    (fs ++ gs).scalars number = fs.scalars number ++ gs.scalars number := by
  induction fs with
  | nil => rfl
  | scalar n value rest ih =>
    simp only [scalar_append, scalars, ih]
    split <;> rfl
  | message n body rest _ ih => simpa [scalars] using ih

@[simp] theorem scalar?_append :
    (fs ++ gs).scalar? number = (gs.scalar? number).or (fs.scalar? number) := by
  rw [scalar?, scalars_append, List.getLast?_append]
  rfl

@[simp] theorem text?_append :
    (fs ++ gs).text? number = (gs.text? number).or (fs.text? number) := by
  rw [text?, texts_append, List.getLast?_append]
  rfl

@[simp] theorem flag?_append :
    (fs ++ gs).flag? number = (gs.flag? number).or (fs.flag? number) := by
  rw [flag?, number?, numbers_append, List.getLast?_append, Option.map_or]
  rfl

/-- A field that is not repeated holds in both together what it holds in each, merged. -/
@[simp] theorem merged?_append : (fs ++ gs).merged? number =
    (fs.merged? number).merge (· ++ ·) (gs.merged? number) := by
  simp only [merged?, messages_append]
  cases fs.messages number with
  | nil => cases gs.messages number <;> rfl
  | cons body bodies =>
    cases gs.messages number with
    | nil => simp
    | cons body' bodies' =>
      exact congrArg some (concat_append (body :: bodies) (body' :: bodies'))

end

end Fields

/-! ## Views of fields -/

section

variable (fs gs : Fields)

theorem methodOf_append : methodOf (fs ++ gs) = (methodOf fs).merge (methodOf gs) := by
  simp [methodOf, Method.merge]

theorem serviceOf_append : serviceOf (fs ++ gs) = (serviceOf fs).merge (serviceOf gs) := by
  simp [serviceOf, Service.merge]

theorem fileOptionsOf_append :
    fileOptionsOf (fs ++ gs) = (fileOptionsOf fs).merge (fileOptionsOf gs) := by
  simp [fileOptionsOf, FileOptions.merge]

/-- The options of a file are a single message, so they are merged in turn. -/
theorem fileOf_append : fileOf (fs ++ gs) = (fileOf fs).merge (fileOf gs) := by
  have hoptions : ((fs.merged? 8).merge (· ++ ·) (gs.merged? 8)).map fileOptionsOf =
      ((fs.merged? 8).map fileOptionsOf).merge FileOptions.merge
        ((gs.merged? 8).map fileOptionsOf) := by
    cases fs.merged? 8 with
    | none => cases gs.merged? 8 <;> rfl
    | some body =>
      cases gs.merged? 8 with
      | none => rfl
      | some body' => exact congrArg some (fileOptionsOf_append body body')
  simp [fileOf, File.merge, hoptions]

theorem requestOf_append : requestOf (fs ++ gs) = (requestOf fs).merge (requestOf gs) := by
  simp [requestOf, Request.merge]

/-- The message that is declared with the given fields. -/
def messageOf (fs : Fields) : Message := ⟨fs.text? 1, messagesIn 3 fs⟩

theorem messageOf_append : messageOf (fs ++ gs) = (messageOf fs).merge (messageOf gs) := by
  simp [messageOf, Message.merge]

end

/-! ## Fields of bytes -/

section

variable {body : Kind → List UInt8 → Option Fields} {budget number : Nat} {kind inner : Kind}
variable {bytes : List UInt8} {rs ss : List Record} {fs : Fields}

theorem decodeRecords_cons {r : Record} : decodeRecords body budget kind (r :: rs) =
    (decodeRecord body budget kind r).bind fun fs =>
      (decodeRecords body budget kind rs).map (fs ++ ·) := by
  rw [decodeRecords]
  cases decodeRecord body budget kind r <;> rfl

theorem decodeRecords_append : decodeRecords body budget kind (rs ++ ss) =
    (decodeRecords body budget kind rs).bind fun fs =>
      (decodeRecords body budget kind ss).map (fs ++ ·) := by
  induction rs with
  | nil => simp [decodeRecords]
  | cons r rs ih =>
    rw [List.cons_append, decodeRecords_cons, decodeRecords_cons, ih]
    cases decodeRecord body budget kind r with
    | none => rfl
    | some fs =>
      cases decodeRecords body budget kind rs with
      | none => rfl
      | some fs' =>
        cases decodeRecords body budget kind ss with
        | none => rfl
        | some gs => exact congrArg some (Fields.append_assoc fs fs' gs).symm

/-- The fields of records, and those of the bytes after them. -/
theorem decodeWithin_append_of_framed (h : Framed rs bytes) (more : List UInt8) :
    decodeWithin budget kind (bytes ++ more) =
      (decodeRecords (bodyWithin budget) budget kind rs).bind fun fs =>
        (decodeWithin budget kind more).map (fs ++ ·) := by
  rw [decodeWithin_eq, decodeWithin_eq, h.records_append]
  cases records more with
  | none => cases decodeRecords (bodyWithin budget) budget kind rs <;> rfl
  | some ss =>
    rw [Option.map_some, Option.bind_some, decodeRecords_append]
    rfl

/-- The field of one record, and those of the bytes after it. -/
theorem decodeWithin_append_of_framed_one {r : Record} (h : Framed [r] bytes) (more : List UInt8) :
    decodeWithin budget kind (bytes ++ more) =
      (decodeRecord (bodyWithin budget) budget kind r).bind fun fs =>
        (decodeWithin budget kind more).map (fs ++ ·) := by
  have hone : decodeRecords (bodyWithin budget) budget kind [r] =
      decodeRecord (bodyWithin budget) budget kind r := by
    rw [decodeRecords_cons]
    cases decodeRecord (bodyWithin budget) budget kind r with
    | none => rfl
    | some fs => exact congrArg some (Fields.append_nil fs)
  rw [decodeWithin_append_of_framed h, hone]

/-- If bytes are read as fields, so are those of each of their records. -/
theorem exists_forall₂_of_isSplit {parts : List (List UInt8)} (hsplit : IsSplit bytes parts)
    (h : decodeWithin budget kind bytes = some fs) :
    ∃ gs, List.Forall₂ (fun part g => decodeWithin budget kind part = some g) parts gs := by
  induction parts generalizing bytes fs with
  | nil => exact ⟨[], .nil⟩
  | cons part parts ih =>
    obtain ⟨rfl, hparts⟩ := hsplit
    obtain ⟨⟨r, hr⟩, hrest⟩ := List.forall_mem_cons.mp hparts
    rw [List.flatten_cons, decodeWithin_append_of_framed_one hr, Option.bind_eq_some_iff] at h
    obtain ⟨g, hg, hmap⟩ := h
    obtain ⟨rest, hdecode, -⟩ := Option.map_eq_some_iff.mp hmap
    obtain ⟨gs, hgs⟩ := ih ⟨rfl, hrest⟩ hdecode
    have hpart : decodeWithin budget kind part = some g := by
      rw [← List.append_nil part, decodeWithin_append_of_framed_one hr, hg, Option.bind_some,
        decodeWithin_nil, Option.map_some, Fields.append_nil]
    exact ⟨g :: gs, .cons hpart hgs⟩

/-- Bytes that are read as fields are records. -/
theorem decodeWithin_eq_some_iff : decodeWithin budget kind bytes = some fs ↔
    ∃ rs, Framed rs bytes ∧ decodeRecords (bodyWithin budget) budget kind rs = some fs := by
  simp only [decodeWithin_eq, Option.bind_eq_some_iff, records_eq_some_iff]

variable (budget kind)

/-- The fields of two messages, one after the other, are those of both. -/
theorem merges_decodeWithin : Merges (decodeWithin budget kind) (· ++ ·) := by
  intro a fs h b
  obtain ⟨rs, hframed, hrecords⟩ := decodeWithin_eq_some_iff.mp h
  rw [decodeWithin_append_of_framed hframed, hrecords, Option.bind_some]

/-- A view of fields merges if it makes the merge of two messages of their fields. -/
theorem Merges.map {α β : Type} {read : List UInt8 → Option α} {merge : α → α → α}
    {merge' : β → β → β} {view : α → β} (h : Merges read merge)
    (hview : ∀ x y, view (merge x y) = merge' (view x) (view y)) :
    Merges (fun bytes => (read bytes).map view) merge' := by
  intro a y ha b
  obtain ⟨x, hx, rfl⟩ := Option.map_eq_some_iff.mp ha
  simp only [h hx b, Option.map_map]
  congr 1
  funext z
  exact hview x z

theorem merges_decodeRequest : Merges decodeRequest Request.merge :=
  (merges_decodeWithin nestingBudget .request).map requestOf_append

end

/-! ## Fields with a single message -/

/-- The contents of the records with a given number that hold bytes of any length. -/
def contents (number : Nat) : List Record → List (List UInt8)
  | [] => []
  | ⟨n, .delimited content⟩ :: rs =>
    if n = number then content :: contents number rs else contents number rs
  | _ :: rs => contents number rs

/-- What the occurrences of a field with a single message are read as: each as a message, and all of
them as the message that their bytes are together. -/
structure OneMessage (read : List UInt8 → Option Fields) (occurrences : List (List UInt8))
    (number : Nat) (fs : Fields) : Prop where
  each :
    List.Forall₂ (fun content body => read content = some body) occurrences (fs.messages number)
  none_of_nil : occurrences = [] → fs.merged? number = none
  merged : occurrences ≠ [] → fs.merged? number = read occurrences.flatten

section

variable {budget number : Nat} {kind inner : Kind} {bytes : List UInt8} {r : Record}
variable {rs : List Record} {fs : Fields} {body : Kind → List UInt8 → Option Fields}

/-- What is read in pieces is read at once, merged. -/
theorem Merges.flatten {α : Type} {read : List UInt8 → Option α} {merge : α → α → α} {x : α}
    (h : Merges read merge) (hnil : read [] = some x) {parts : List (List UInt8)} {ys : List α}
    (hparts : List.Forall₂ (fun part y => read part = some y) parts ys) :
    read parts.flatten = some (ys.foldr merge x) := by
  induction hparts with
  | nil => exact hnil
  | cons hpart _ ih => rw [List.flatten_cons, h hpart, ih, Option.map_some, List.foldr_cons]

theorem Fields.concat_eq_foldr (bodies : List Fields) :
    concat bodies = bodies.foldr (· ++ ·) nil := by
  induction bodies with
  | nil => rfl
  | cons body bodies ih => rw [concat, ih, List.foldr_cons]

/-- A record is an occurrence of a field with a message, or it adds none. -/
theorem messages_of_decodeRecord (hfield : kind.field? number = some (.message inner))
    (h : decodeRecord body budget kind r = some fs) :
    List.Forall₂ (fun content b => body inner content = some b) (contents number [r])
      (fs.messages number) := by
  obtain ⟨n, payload⟩ := r
  by_cases hn : n = number
  · subst hn
    cases payload with
    | delimited content =>
      simp only [decodeRecord, hfield, Option.map_eq_some_iff] at h
      obtain ⟨b, hb, rfl⟩ := h
      simpa [contents, Fields.messages] using hb
    | _ => simp [decodeRecord, hfield] at h
  · have hcontents : contents number [⟨n, payload⟩] = [] := by
      cases payload <;> simp [contents, hn]
    have hmessages : fs.messages number = [] := by
      simp only [decodeRecord] at h
      split at h
      · split at h
        · obtain rfl := Option.some.inj h
          rfl
        · cases h
      · obtain ⟨value, -, rfl⟩ := Option.map_eq_some_iff.mp h
        rfl
      · obtain ⟨b, -, rfl⟩ := Option.map_eq_some_iff.mp h
        simp [Fields.messages, hn]
      · cases h
    rw [hcontents, hmessages]
    exact .nil

theorem contents_cons : contents number (r :: rs) = contents number [r] ++ contents number rs := by
  obtain ⟨n, payload⟩ := r
  cases payload <;> simp only [contents, List.nil_append]
  split <;> rfl

theorem messages_of_decodeRecords (hfield : kind.field? number = some (.message inner))
    (h : decodeRecords body budget kind rs = some fs) :
    List.Forall₂ (fun content b => body inner content = some b) (contents number rs)
      (fs.messages number) := by
  induction rs generalizing fs with
  | nil =>
    obtain rfl := Option.some.inj h
    exact .nil
  | cons r rs ih =>
    rw [decodeRecords_cons, Option.bind_eq_some_iff] at h
    obtain ⟨first, hfirst, hmap⟩ := h
    obtain ⟨rest, hrest, rfl⟩ := Option.map_eq_some_iff.mp hmap
    rw [contents_cons, Fields.messages_append]
    exact List.rel_append (messages_of_decodeRecord hfield hfirst) (ih hrest)

/-- The occurrences of a field with a single message are read as one message. -/
theorem oneMessage_of_decodeWithin (hfield : kind.field? number = some (.message inner))
    (h : decodeWithin (budget + 1) kind bytes = some fs) :
    ∃ rs, Framed rs bytes ∧
      OneMessage (decodeWithin budget inner) (contents number rs) number fs := by
  obtain ⟨rs, hframed, hrecords⟩ := decodeWithin_eq_some_iff.mp h
  have heach : List.Forall₂ (fun content b => decodeWithin budget inner content = some b)
      (contents number rs) (fs.messages number) := messages_of_decodeRecords hfield hrecords
  refine ⟨rs, hframed, heach, ?_, ?_⟩
  · intro hnil
    rw [hnil] at heach
    rw [Fields.merged?, List.forall₂_nil_left_iff.mp heach]
  · intro hne
    rw [(merges_decodeWithin budget inner).flatten decodeWithin_nil heach,
      ← Fields.concat_eq_foldr, Fields.merged?]
    split
    · next hnil =>
      rw [hnil] at heach
      exact absurd (List.forall₂_nil_right_iff.mp heach) hne
    · rfl

end

end GoStubs.Wire
