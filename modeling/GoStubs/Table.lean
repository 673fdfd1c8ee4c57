/-!
# Tables with text keys

A table holds one value for each of its keys, in the order in which the keys were first inserted.
Inserting under a key that is there replaces the value.

* `Table.find?`: the view of a table, what it holds for each key.
* `Table.find?_insert`: the effect of an insertion on that view.
-/

namespace GoStubs

variable {α : Type}

/-- The entries with a value for a key, replaced in place or added at the end. -/
def insertEntry (key : String) (value : α) : List (String × α) → List (String × α)
  | [] => [(key, value)]
  | e :: es => if e.1 = key then (key, value) :: es else e :: insertEntry key value es

theorem mem_keys_insertEntry {key k : String} {value : α} {es : List (String × α)} :
    k ∈ (insertEntry key value es).map Prod.fst ↔ k = key ∨ k ∈ es.map Prod.fst := by
  induction es with
  | nil => simp [insertEntry]
  | cons e es ih =>
    by_cases h : e.1 = key
    · simp [insertEntry, h]
    · simp only [insertEntry, h, if_false, List.map_cons, List.mem_cons, ih]
      constructor
      · rintro (h1 | h1 | h1) <;> simp [h1]
      · rintro (h1 | h1 | h1) <;> simp [h1]

theorem nodup_keys_insertEntry {key : String} {value : α} {es : List (String × α)}
    (h : (es.map Prod.fst).Nodup) : ((insertEntry key value es).map Prod.fst).Nodup := by
  induction es with
  | nil => simp [insertEntry]
  | cons e es ih =>
    rw [List.map_cons, List.nodup_cons] at h
    by_cases he : e.1 = key
    · simpa [insertEntry, he] using ⟨by simpa [he] using h.1, h.2⟩
    · rw [insertEntry, if_neg he, List.map_cons, List.nodup_cons, mem_keys_insertEntry]
      exact ⟨fun hk => hk.elim he h.1, ih h.2⟩

/-- The value that the first entry with a key has. -/
def findEntry? (key : String) : List (String × α) → Option α
  | [] => none
  | e :: es => if e.1 = key then some e.2 else findEntry? key es

theorem findEntry?_insertEntry (key k : String) (value : α) (es : List (String × α)) :
    findEntry? k (insertEntry key value es) = if k = key then some value else findEntry? k es := by
  induction es with
  | nil => simp [insertEntry, findEntry?, eq_comm]
  | cons e es ih =>
    by_cases he : e.1 = key
    · subst he
      by_cases hk : k = e.1
      · simp [insertEntry, findEntry?, hk]
      · simp [insertEntry, findEntry?, hk, Ne.symm hk]
    · rw [insertEntry, if_neg he, findEntry?, findEntry?, ih]
      by_cases hk : e.1 = k
      · subst hk
        simp [he]
      · simp [hk]

/-- A value for each of finitely many keys. -/
structure Table (α : Type) where
  /-- The keys with their values. -/
  entries : List (String × α)
  /-- No key stands twice. -/
  nodup : (entries.map Prod.fst).Nodup

namespace Table

/-- The table without a key. -/
def empty : Table α := ⟨[], List.nodup_nil⟩

/-- The table with a value for a key, in place of the one that the key may have had. -/
def insert (t : Table α) (key : String) (value : α) : Table α :=
  ⟨insertEntry key value t.entries, nodup_keys_insertEntry t.nodup⟩

/-- The table of the entries of a list, the last one counting where a key stands twice. -/
def ofList (entries : List (String × α)) : Table α :=
  entries.foldl (fun t e => t.insert e.1 e.2) empty

/-- The value of a key. -/
def find? (t : Table α) (key : String) : Option α := findEntry? key t.entries

/-- The number of keys. -/
def size (t : Table α) : Nat := t.entries.length

/-- Whether there is no key. -/
def isEmpty (t : Table α) : Bool := t.entries.isEmpty

@[simp] theorem find?_empty (key : String) : (empty : Table α).find? key = none := rfl

theorem find?_insert (t : Table α) (key k : String) (value : α) :
    (t.insert key value).find? k = if k = key then some value else t.find? k :=
  findEntry?_insertEntry key k value t.entries

end Table

end GoStubs
