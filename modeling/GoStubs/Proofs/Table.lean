import GoStubs.Table
import Mathlib.Data.List.Dedup
/-!
# Look-ups in tables

A table that is made from a list of entries holds under each key the value of the last entry with
that key. Where the keys of the entries differ, this is the only one.

* `Table.find?_ofList`: the last entry counts.
* `Table.find?_ofList_eq_some_iff`: entries with keys of their own are found, and no others.
* `Table.find?_ofList_flatMap`: entries that come in several lists.
* `Table.size_ofList`: how many keys there are.
-/

namespace GoStubs

variable {α : Type} {key : String} {value : α} {es : List (String × α)}

theorem findEntry?_append (key : String) (es fs : List (String × α)) :
    findEntry? key (es ++ fs) = ( findEntry? key es).or ( findEntry? key fs) := by
  induction es with
  | nil => rfl
  | cons e es ih =>
    rw [List.cons_append, findEntry?, findEntry?, ih]
    split <;> rfl

theorem mem_of_findEntry?_eq_some (h : findEntry? key es = some value) : (key, value) ∈ es := by
  induction es with
  | nil => cases h
  | cons e es ih =>
    unfold findEntry? at h
    split at h
    case isTrue hkey =>
      obtain rfl : e = (key, value) := Prod.ext hkey (Option.some.inj h)
      exact List.mem_cons_self
    case isFalse => exact List.mem_cons_of_mem e (ih h)

theorem findEntry?_eq_some_of_mem (hkeys : (es.map Prod.fst).Nodup) (h : (key, value) ∈ es) :
    findEntry? key es = some value := by
  induction es with
  | nil => cases h
  | cons e es ih =>
    obtain ⟨hne, hkeys⟩ := List.nodup_cons.mp hkeys
    unfold findEntry?
    rcases List.mem_cons.mp h with rfl | h
    · exact if_pos rfl
    · have hother : e.1 ≠ key := fun hkey => hne (hkey ▸ List.mem_map_of_mem h)
      rw [if_neg hother, ih hkeys h]

namespace Table

theorem find?_foldl_insert (es : List (String × α)) (key : String) : ∀ t : Table α,
    (es.foldl (fun t e => t.insert e.1 e.2) t).find? key =
      ( findEntry? key es.reverse).or (t.find? key) := by
  induction es with
  | nil => exact fun _ => rfl
  | cons e es ih =>
    -- The entry goes into the table, where all later ones come before it.
    intro t
    rw [List.foldl_cons, ih, find?_insert, List.reverse_cons, findEntry?_append, Option.or_assoc,
      findEntry?]
    congr 1
    by_cases hkey : key = e.1
    · rw [if_pos hkey, if_pos hkey.symm]
      rfl
    · rw [if_neg hkey, if_neg (Ne.symm hkey)]
      rfl

/-- Of several entries with one key the last one counts. -/
theorem find?_ofList (es : List (String × α)) (key : String) :
    (ofList es).find? key = findEntry? key es.reverse := by
  rw [ofList, find?_foldl_insert, find?_empty, Option.or_none]

/-- What is found under a key is the value of an entry with this key. -/
theorem mem_of_find?_ofList (h : (ofList es).find? key = some value) : (key, value) ∈ es := by
  rw [find?_ofList] at h
  exact List.mem_reverse.mp (mem_of_findEntry?_eq_some h)

theorem find?_ofList_eq_some_iff (hkeys : (es.map Prod.fst).Nodup) :
    (ofList es).find? key = some value ↔ (key, value) ∈ es := by
  have hkeys' : (es.reverse.map Prod.fst).Nodup := by
    rwa [List.map_reverse, List.nodup_reverse]
  constructor
  · exact mem_of_find?_ofList
  · intro h
    rw [find?_ofList]
    exact findEntry?_eq_some_of_mem hkeys' (List.mem_reverse.mpr h)

/-- Entries with keys of their own are looked up in the same way in any list of those entries that
has all with the key that is asked for. -/
theorem find?_ofList_eq {fs : List (String × α)}
    (hes : (es.map Prod.fst).Nodup) (hfs : (fs.map Prod.fst).Nodup)
    (h : ∀ value, (key, value) ∈ es ↔ (key, value) ∈ fs) :
    (ofList es).find? key = (ofList fs).find? key := by
  refine Option.ext fun value => ?_
  rw [find?_ofList_eq_some_iff hes, find?_ofList_eq_some_iff hfs, h]

/-- Of several lists of entries the last one counts that has an entry with the key. -/
theorem find?_ofList_flatMap {β : Type} (g : β → List (String × α)) (xs : List β) (key : String) :
    (ofList (xs.flatMap g)).find? key =
      xs.reverse.findSome? fun x => (ofList (g x)).find? key := by
  rw [find?_ofList]
  induction xs with
  | nil => rfl
  | cons x xs ih =>
    rw [List.flatMap_cons, List.reverse_append, findEntry?_append, ih, List.reverse_cons,
      List.findSome?_append, List.findSome?_singleton, find?_ofList]

/-! ## Keys -/

theorem findEntry?_eq_none_iff : findEntry? key es = none ↔ key ∉ es.map Prod.fst := by
  induction es with
  | nil => exact iff_of_true rfl List.not_mem_nil
  | cons e es ih =>
    rw [List.map_cons, List.mem_cons, not_or, ← ih, eq_comm (a := key), findEntry?]
    split <;> simp [*]

/-- There is a value for each key that stands in the list. -/
theorem find?_ofList_eq_none_iff : (ofList es).find? key = none ↔ key ∉ es.map Prod.fst := by
  rw [find?_ofList, findEntry?_eq_none_iff, List.map_reverse, List.mem_reverse]

theorem exists_find?_ofList_iff :
    (∃ value, (ofList es).find? key = some value) ↔ key ∈ es.map Prod.fst := by
  rw [← Option.ne_none_iff_exists', ne_eq, find?_ofList_eq_none_iff, not_not]

theorem isEmpty_iff_size_eq_zero (t : Table α) : t.isEmpty = true ↔ t.size = 0 := by
  rw [isEmpty, size, List.isEmpty_iff, List.length_eq_zero_iff]

theorem mem_keys_foldl_insert (es : List (String × α)) : ∀ t : Table α,
    key ∈ (es.foldl (fun t e => t.insert e.1 e.2) t).entries.map Prod.fst ↔
      key ∈ t.entries.map Prod.fst ∨ key ∈ es.map Prod.fst := by
  induction es with
  | nil => simp
  | cons e es ih =>
    intro t
    have hinsert : key ∈ (t.insert e.1 e.2).entries.map Prod.fst ↔
        key = e.1 ∨ key ∈ t.entries.map Prod.fst := mem_keys_insertEntry
    rw [List.foldl_cons, ih, hinsert, List.map_cons, List.mem_cons]
    tauto

/-- A table has as many keys as there are different ones in the list. -/
theorem size_ofList (es : List (String × α)) :
    (ofList es).size = (es.map Prod.fst).dedup.length := by
  have hperm : ((ofList es).entries.map Prod.fst).Perm (es.map Prod.fst).dedup :=
    (List.perm_ext_iff_of_nodup (ofList es).nodup (List.nodup_dedup _)).mpr fun key => by
      rw [ofList, mem_keys_foldl_insert, List.mem_dedup]
      simp [empty]
  rw [size, ← hperm.length_eq, List.length_map]

end Table

/-- A part with a key of its own is the one that is found under this key. -/
theorem find?_eq_some_iff_of_nodup {κ : Type} [DecidableEq κ] {key : α → κ} {xs : List α}
    (h : (xs.map key).Nodup) {k : κ} {x : α} :
    xs.find? (fun y => key y = k) = some x ↔ x ∈ xs ∧ key x = k := by
  constructor
  · intro hx
    exact ⟨List.mem_of_find?_eq_some hx, by simpa using List.find?_some hx⟩
  · intro ⟨hx, hk⟩
    cases hfound : xs.find? (fun y => key y = k) with
    | none =>
      have hne := List.find?_eq_none.mp hfound x hx
      simp [hk] at hne
    | some y =>
      have hy : key y = k := by simpa using List.find?_some hfound
      rw [List.inj_on_of_nodup_map h (List.mem_of_find?_eq_some hfound) hx (hy.trans hk.symm)]

end GoStubs
