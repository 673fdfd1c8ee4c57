import GoStubs.Proofs.Go.Identifier
import GoStubs.Proofs.Go.Mention
import Mathlib
/-!
# The aliases of a file

A file mentions identifiers in any order, as often as it likes. What its imports look like then is
an invariant of the mentions: the first mention of a foreign package extends the imports by one
entry, under a name that is not taken, and every other mention leaves them alone.

* `Imports.firstFree_spec`: the search for a free name finds the first one.
* `Imports.Valid`: the invariant, with its step lemma `Valid.add` and its run lemma `Valid.addAll`.
* `Imports.Valid.sorted_increasing`: the import block is in the order of the paths.
* `Imports.Valid.spell_inj`: two identifiers are never spelled alike.
-/

namespace GoStubs.Go

open GoStubs.Unicode

theorem Ident.eq_iff {i j : Ident} :
    i = j ↔ i.importPath = j.importPath ∧ i.name = j.name := by
  cases i
  cases j
  exact Ident.mk.injEq .. ▸ Iff.rfl

namespace Imports

/-! ## Numbered names -/

/-- What is put behind a name. -/
def numberSuffix (n : Nat) : String := if n = 0 then "" else toString n

theorem numbered_eq (base : String) (n : Nat) : numbered base n = base ++ numberSuffix n := by
  unfold numbered numberSuffix
  split
  · rw [String.append_empty]
  · rfl

theorem numberSuffix_injective {m n : Nat} (h : numberSuffix m = numberSuffix n) : m = n := by
  unfold numberSuffix at h
  split at h <;> split at h
  · omega
  · exact absurd h.symm Nat.repr_ne_empty
  · exact absurd h Nat.repr_ne_empty
  · exact Nat.repr_injective h

theorem isDigit_of_mem_numberSuffix {n : Nat} {c : Char} (hc : c ∈ (numberSuffix n).toList) :
    c.isDigit = true := by
  unfold numberSuffix at hc
  split at hc
  · simp at hc
  · rw [Nat.toString_eq_repr, Nat.toList_repr] at hc
    exact Nat.isDigit_of_mem_toDigits (by decide) (by decide) hc

theorem numbered_injective {base : String} {m n : Nat} (h : numbered base m = numbered base n) :
    m = n := by
  rw [numbered_eq, numbered_eq] at h
  exact numberSuffix_injective ((String.append_right_inj base).mp h)

/-- A name that ends in no digit is numbered by zero only. -/
theorem eq_of_numbered_eq {base name : String} {n : Nat} (h : numbered base n = name)
    (hname : name.toList.any Char.isDigit = false) : base = name := by
  rw [numbered_eq] at h
  have hsuffix : (numberSuffix n).toList = [] := by
    refine List.eq_nil_iff_forall_not_mem.mpr fun c hc => ?_
    have hmem : c ∈ name.toList := by
      rw [← h, String.toList_append]
      exact List.mem_append_right _ hc
    exact List.any_eq_false.mp hname c hmem (isDigit_of_mem_numberSuffix hc)
  rw [String.toList_inj.mp (hsuffix.trans String.toList_empty.symm), String.append_empty] at h
  exact h

/-! ## The first free name -/

/-- Among one more name than are taken, one is free. -/
theorem exists_free (base : String) (taken : List String) :
    ∃ n ∈ List.range (taken.length + 1), numbered base n ∉ taken := by
  by_contra hall
  have hsub : (List.range (taken.length + 1)).map (numbered base) ⊆ taken := by
    intro name hname
    obtain ⟨n, hn, rfl⟩ := List.mem_map.mp hname
    by_contra hfree
    exact hall ⟨n, hn, hfree⟩
  have hnodup : ((List.range (taken.length + 1)).map (numbered base)).Nodup :=
    List.nodup_range.map fun _ _ => numbered_injective
  have hlen := (hnodup.subperm hsub).length_le
  rw [List.length_map, List.length_range] at hlen
  omega

/-- The search ends at a name that is free and before which all are taken. -/
theorem firstFree_spec (base : String) (taken : List String) :
    ∃ n, firstFree base taken = numbered base n ∧ numbered base n ∉ taken ∧
      ∀ k < n, numbered base k ∈ taken := by
  unfold firstFree
  rw [List.find?_map]
  cases hfind : (List.range (taken.length + 1)).find?
      ((fun name => !taken.contains name) ∘ numbered base) with
  | none =>
    obtain ⟨n, hn, hfree⟩ := exists_free base taken
    have htaken := List.find?_eq_none.mp hfind n hn
    simp [hfree] at htaken
  | some n =>
    obtain ⟨hfree, -, hbefore⟩ := List.find?_range_eq_some.mp hfind
    refine ⟨n, rfl, by simpa using hfree, fun k hk => ?_⟩
    simpa using hbefore k hk

/-! ## The invariant of imports -/

/-- What every mention keeps. -/
structure Valid (imports : Imports) : Prop where
  /-- No package is imported twice. -/
  paths : (imports.entries.map (·.path)).Nodup
  /-- No alias stands for two packages. -/
  aliases : imports.aliases.Nodup
  /-- The file does not import its own package. -/
  foreign : ∀ e ∈ imports.entries, e.path ≠ imports.ownPath
  /-- An alias is what the path suggests, perhaps with a number. -/
  suggested : ∀ e ∈ imports.entries, ∃ n, e.name = numbered (suggestedName e.path) n
  /-- No alias hides a name of the universe scope. -/
  unpredeclared : ∀ e ∈ imports.entries, e.name ∉ predeclared

variable {imports : Imports} {p : String}

theorem valid_ofPackage (own : Package) : (ofPackage own).Valid where
  paths := List.nodup_nil
  aliases := List.nodup_nil
  foreign := nofun
  suggested := nofun
  unpredeclared := nofun

theorem mem_paths_iff : p ∈ imports.entries.map (·.path) ↔ (imports.aliasOf? p).isSome := by
  rw [aliasOf?, Option.isSome_map, List.find?_isSome, List.mem_map]
  simp only [decide_eq_true_eq]

theorem freshAlias_not_mem_taken (imports : Imports) (p : String) :
    imports.freshAlias p ∉ imports.taken := by
  obtain ⟨n, hn, hfree, -⟩ := firstFree_spec (suggestedName p) imports.taken
  rw [freshAlias, hn]
  exact hfree

/-- The step lemma: a mention keeps the invariant. -/
theorem Valid.add (h : imports.Valid) (p : String) : (imports.add p).Valid := by
  by_cases hp : imports.Settled p
  · rwa [add_of_settled hp]
  · have hfresh := freshAlias_not_mem_taken imports p
    rw [taken, List.mem_append, not_or] at hfresh
    rw [Settled, not_or, ← mem_paths_iff] at hp
    rw [add_of_not_settled (by rwa [Settled, not_or, ← mem_paths_iff])]
    constructor
    · rw [List.map_append]
      exact h.paths.append (List.nodup_singleton _) (by simpa using hp.2)
    · rw [Imports.aliases, List.map_append]
      exact h.aliases.append (List.nodup_singleton _) (by simpa [Imports.aliases] using hfresh.2)
    · intro e he
      rcases List.mem_append.mp he with he | he
      · exact h.foreign e he
      · rw [List.mem_singleton.mp he]
        exact hp.1
    · intro e he
      rcases List.mem_append.mp he with he | he
      · exact h.suggested e he
      · obtain ⟨n, hn, -⟩ := firstFree_spec (suggestedName p) imports.taken
        rw [List.mem_singleton.mp he]
        exact ⟨n, hn⟩
    · intro e he
      rcases List.mem_append.mp he with he | he
      · exact h.unpredeclared e he
      · rw [List.mem_singleton.mp he]
        exact hfresh.1

/-- The run lemma: so do any mentions. -/
theorem Valid.addAll (ps : List String) :
    ∀ {imports : Imports}, imports.Valid → (imports.addAll ps).Valid := by
  induction ps with
  | nil => exact id
  | cons p ps ih => exact fun h => ih (h.add p)

@[simp] theorem ownPath_addAll (ps : List String) :
    ∀ imports : Imports, (imports.addAll ps).ownPath = imports.ownPath := by
  induction ps with
  | nil => exact fun _ => rfl
  | cons p ps ih => exact fun imports => (ih _).trans (ownPath_add imports p)

/-! ## Imported paths -/

theorem mem_paths_add (q : String) :
    p ∈ (imports.add q).entries.map (·.path) ↔
      p ∈ imports.entries.map (·.path) ∨ p = q ∧ p ≠ imports.ownPath := by
  by_cases hq : imports.Settled q
  · rw [add_of_settled hq, iff_self_or]
    rintro ⟨rfl, hown⟩
    exact mem_paths_iff.mpr (hq.resolve_left hown)
  · rw [add_of_not_settled hq, List.map_append, List.mem_append, List.map_singleton,
      List.mem_singleton]
    rw [Settled, not_or] at hq
    refine or_congr_right ⟨fun h => ⟨h, h ▸ hq.1⟩, And.left⟩

/-- What is imported in the end is what was imported before and what has been mentioned, the file's
own package excepted. -/
theorem mem_paths_addAll (ps : List String) :
    ∀ {imports : Imports}, p ∈ (imports.addAll ps).entries.map (·.path) ↔
      p ∈ imports.entries.map (·.path) ∨ p ∈ ps ∧ p ≠ imports.ownPath := by
  induction ps with
  | nil => simp
  | cons q ps ih =>
    intro imports
    rw [addAll_cons, ih, mem_paths_add, ownPath_add, List.mem_cons]
    tauto

/-- An entry is the alias of its path. -/
theorem Valid.aliasOf?_eq_some_iff (h : imports.Valid) {a : String} :
    imports.aliasOf? p = some a ↔ ⟨p, a⟩ ∈ imports.entries := by
  rw [aliasOf?, Option.map_eq_some_iff]
  constructor
  · rintro ⟨e, he, rfl⟩
    have hp : e.path = p := by simpa using List.find?_some he
    exact hp ▸ List.mem_of_find?_eq_some he
  · intro hmem
    obtain ⟨e, he⟩ : ∃ e, imports.entries.find? (·.path = p) = some e :=
      Option.isSome_iff_exists.mp (List.find?_isSome.mpr ⟨_, hmem, by simp⟩)
    have hp : e.path = p := by simpa using List.find?_some he
    have heq := List.inj_on_of_nodup_map h.paths (List.mem_of_find?_eq_some he) hmem hp
    exact ⟨e, he, by rw [heq]⟩

/-- A package that suggests `base` goes by `base` with a number, if it is imported at all. -/
theorem Valid.exists_numbered (h : imports.Valid) {a : String} (ha : imports.aliasOf? p = some a) :
    ∃ n, a = numbered (suggestedName p) n := h.suggested _ (h.aliasOf?_eq_some_iff.mp ha)

/-- No two packages go by one alias. -/
theorem Valid.path_inj (h : imports.Valid) {q a : String} (hp : imports.aliasOf? p = some a)
    (hq : imports.aliasOf? q = some a) : p = q := by
  have hep := h.aliasOf?_eq_some_iff.mp hp
  have heq := h.aliasOf?_eq_some_iff.mp hq
  exact congrArg Import.path (List.inj_on_of_nodup_map h.aliases hep heq rfl)

/-! ## Usable aliases -/

theorem isIdentifierChar_of_mem_numbered {base : String} {n : Nat} {c : Char}
    (hbase : ∀ d ∈ base.toList, isIdentifierChar d = true) (hc : c ∈ (numbered base n).toList) :
    isIdentifierChar c = true := by
  rw [numbered_eq, String.toList_append, List.mem_append] at hc
  rcases hc with hc | hc
  · exact hbase c hc
  · exact isIdentifierChar_of_isDigit (isDigit_of_mem_numberSuffix hc)

/-- A number makes no keyword. -/
theorem numbered_not_mem_keywords {base : String} (hbase : base ∉ keywords) (n : Nat) :
    numbered base n ∉ keywords := by
  have hdigit : ∀ k ∈ keywords, k.toList.any Char.isDigit = false := by decide
  intro h
  exact hbase ((eq_of_numbered_eq rfl (hdigit _ h)).symm ▸ h)

theorem numbered_ne_blank {base : String} (hbase : base ≠ "_") (n : Nat) :
    numbered base n ≠ "_" := by
  intro h
  exact hbase (eq_of_numbered_eq h (by decide))

/-- No dot stands in an alias. -/
theorem Valid.dot_not_mem_alias (h : imports.Valid) {a : String}
    (ha : imports.aliasOf? p = some a) : '.' ∉ a.toList := by
  obtain ⟨n, rfl⟩ := h.exists_numbered ha
  intro hdot
  have hchar := isIdentifierChar_of_mem_numbered
    (fun _ hd => isIdentifierChar_of_mem_identifierOf hd) hdot
  rw [isIdentifierChar_dot] at hchar
  exact absurd hchar (by decide)

/-! ## The import block -/

theorem insertSorted_perm (i : Import) (js : List Import) :
    (i.insertSorted js).Perm (i :: js) := by
  induction js with
  | nil => exact List.Perm.refl _
  | cons j js ih =>
    rw [Import.insertSorted]
    split
    · exact List.Perm.refl _
    · exact (ih.cons j).trans (List.Perm.swap i j js)

theorem sorted_perm (imports : Imports) : imports.sorted.Perm imports.entries := by
  unfold sorted
  induction imports.entries with
  | nil => exact List.Perm.refl _
  | cons i is ih => exact (insertSorted_perm i _).trans (ih.cons i)

theorem lt_of_not_lt_of_ne {a b : String} (h : ¬ a < b) (hne : b ≠ a) : b < a := by
  by_contra hba
  exact hne (String.le_antisymm (String.not_lt.mp h) (String.not_lt.mp hba))

/-- A new path goes to its place. -/
theorem insertSorted_increasing {i : Import} {js : List Import}
    (hjs : js.Pairwise (·.path < ·.path)) (hi : ∀ j ∈ js, j.path ≠ i.path) :
    (i.insertSorted js).Pairwise (·.path < ·.path) := by
  induction js with
  | nil => exact List.pairwise_singleton _ _
  | cons j js ih =>
    obtain ⟨hj, hjs'⟩ := List.pairwise_cons.mp hjs
    rw [Import.insertSorted]
    split
    · next hlt =>
      refine List.pairwise_cons.mpr ⟨fun k hk => ?_, hjs⟩
      rcases List.mem_cons.mp hk with rfl | hk
      · exact hlt
      · exact String.lt_trans hlt (hj k hk)
    · next hlt =>
      have hji : j.path < i.path := lt_of_not_lt_of_ne hlt (hi j List.mem_cons_self)
      refine List.pairwise_cons.mpr
        ⟨fun k hk => ?_, ih hjs' fun k hk => hi k (List.mem_cons_of_mem _ hk)⟩
      rcases List.mem_cons.mp ((insertSorted_perm i js).mem_iff.mp hk) with rfl | hk
      · exact hji
      · exact hj k hk

/-- The lines of the import block stand in strictly increasing order of their paths. -/
theorem Valid.sorted_increasing (h : imports.Valid) :
    imports.sorted.Pairwise (·.path < ·.path) := by
  have hpaths := h.paths
  unfold sorted
  generalize imports.entries = entries at hpaths
  induction entries with
  | nil => exact List.Pairwise.nil
  | cons i is ih =>
    obtain ⟨hi, his⟩ := List.nodup_cons.mp hpaths
    refine insertSorted_increasing (ih his) fun j hj hij => hi ?_
    have hsorted : (is.foldr Import.insertSorted []).Perm is := sorted_perm ⟨"", is⟩
    exact List.mem_map.mpr ⟨j, hsorted.mem_iff.mp hj, hij⟩

/-! ## Spellings -/

theorem spell_of_aliasOf? {i : Ident} {a : String} (h : imports.aliasOf? i.importPath = some a) :
    imports.spell i = a ++ "." ++ i.name := by
  rw [spell, h]

theorem Valid.spell_of_own (h : imports.Valid) {i : Ident} (hi : i.importPath = imports.ownPath) :
    imports.spell i = i.name := by
  cases ha : imports.aliasOf? i.importPath with
  | none => rw [spell, ha]
  | some a => exact absurd hi (h.foreign _ (h.aliasOf?_eq_some_iff.mp ha))

/-- The alias and the dot take room. -/
theorem qualified_ne_name (a name : String) : a ++ "." ++ name ≠ name := by
  intro h
  have hlen := congrArg String.length h
  have hdot : ".".length = 1 := rfl
  rw [String.length_append, String.length_append, hdot] at hlen
  omega

/-- What stands before the dot is the alias. -/
theorem spell_eq_qualified_iff {i : Ident} {a : String} :
    imports.spell i = a ++ "." ++ i.name ↔ imports.aliasOf? i.importPath = some a := by
  constructor
  · intro h
    cases hb : imports.aliasOf? i.importPath with
    | none =>
      rw [spell, hb] at h
      exact absurd h.symm (qualified_ne_name a i.name)
    | some b =>
      rw [spell_of_aliasOf? hb, String.append_assoc, String.append_assoc] at h
      rw [(String.append_left_inj _).mp h]
  · exact spell_of_aliasOf?

/-- An identifier is written bare exactly if it belongs to the file's own package. -/
theorem Valid.spell_eq_name_iff (h : imports.Valid) {i : Ident}
    (hi : imports.Settled i.importPath) :
    imports.spell i = i.name ↔ i.importPath = imports.ownPath := by
  constructor
  · intro hbare
    refine hi.resolve_right fun hsome => ?_
    obtain ⟨a, ha⟩ := Option.isSome_iff_exists.mp hsome
    rw [spell_of_aliasOf? ha] at hbare
    exact qualified_ne_name a i.name hbare
  · exact h.spell_of_own

theorem dot_mem_qualified (a name : String) : '.' ∈ (a ++ "." ++ name).toList := by simp

/-- The dot of a qualified name shows where the alias ends. -/
theorem qualified_inj {a b name name' : String} (ha : '.' ∉ a.toList) (hname : '.' ∉ name.toList)
    (h : a ++ "." ++ name = b ++ "." ++ name') : a = b ∧ name = name' := by
  have hcs : a.toList ++ '.' :: name.toList = b.toList ++ '.' :: name'.toList := by
    simpa using congrArg String.toList h
  obtain ⟨hab, -, hnames⟩ := (List.append_cons_inj_of_notMem ha hname).mp hcs
  exact ⟨String.toList_inj.mp hab, String.toList_inj.mp hnames⟩

/-- Identifiers of settled paths are spelled alike only if they are one. -/
theorem Valid.spell_inj (h : imports.Valid) {i j : Ident} (hi : imports.Settled i.importPath)
    (hj : imports.Settled j.importPath) (hidot : '.' ∉ i.name.toList)
    (hjdot : '.' ∉ j.name.toList) : imports.spell i = imports.spell j ↔ i = j := by
  constructor
  · intro heq
    rcases hi with hi | hi <;> rcases hj with hj | hj
    · rw [h.spell_of_own hi, h.spell_of_own hj] at heq
      exact Ident.eq_iff.mpr ⟨hi.trans hj.symm, heq⟩
    · obtain ⟨b, hb⟩ := Option.isSome_iff_exists.mp hj
      rw [h.spell_of_own hi, spell_of_aliasOf? hb] at heq
      exact absurd (heq ▸ dot_mem_qualified b j.name) hidot
    · obtain ⟨a, ha⟩ := Option.isSome_iff_exists.mp hi
      rw [h.spell_of_own hj, spell_of_aliasOf? ha] at heq
      exact absurd (heq ▸ dot_mem_qualified a i.name) hjdot
    · obtain ⟨a, ha⟩ := Option.isSome_iff_exists.mp hi
      obtain ⟨b, hb⟩ := Option.isSome_iff_exists.mp hj
      rw [spell_of_aliasOf? ha, spell_of_aliasOf? hb] at heq
      obtain ⟨rfl, hname⟩ := qualified_inj (h.dot_not_mem_alias ha) hidot heq
      exact Ident.eq_iff.mpr ⟨h.path_inj ha hb, hname⟩
  · rintro rfl
    rfl

end Imports

end GoStubs.Go
