import GoStubs.Proofs.Go.Aliases
/-!
# What a file records while it is written

The writer of a file asks for the spelling of one identifier after the other. After any number of
these requests the import block lists exactly the foreign packages that have been asked for, each
under a usable name of its own that it keeps, and the answers tell the identifiers apart.

* `importsAfterIdents`, `spellings`: what a run of requests leaves and what it answers.
* `recorded`: the state of the imports after every run.
-/

namespace GoStubs.Go

open Imports

/-! ## Runs -/

/-- Mentions identifiers in turn: how each of them is written, and the imports after the last. -/
def Imports.qualifyAll (imports : Imports) : List Ident → List String × Imports
  | [] => ([], imports)
  | i :: is =>
    let (text, imports) := imports.qualify i
    let (texts, after) := imports.qualifyAll is
    (text :: texts, after)

/-- The imports of a file of a package after mentions of identifiers. -/
def importsAfterIdents (own : Package) (is : List Ident) : Imports :=
  ((ofPackage own).qualifyAll is).2

/-- How the identifiers have been written, one text each. -/
def spellings (own : Package) (is : List Ident) : List String :=
  ((ofPackage own).qualifyAll is).1

/-- A run answers each request as the imports at its end would. -/
theorem qualifyAll_eq (is : List Ident) :
    ∀ imports : Imports, imports.qualifyAll is =
      (is.map (imports.addAll (is.map (·.importPath))).spell,
        imports.addAll (is.map (·.importPath))) := by
  induction is with
  | nil => exact fun _ => rfl
  | cons i is ih =>
    intro imports
    have hi := spell_addAll (settled_add imports i.importPath) (is.map (·.importPath))
    simp only [qualifyAll, qualify, ih, List.map_cons, addAll_cons, hi]

section

variable {own : Package} {is : List Ident}

theorem importsAfterIdents_eq (own : Package) (is : List Ident) :
    importsAfterIdents own is = (ofPackage own).addAll (is.map (·.importPath)) := by
  rw [importsAfterIdents, qualifyAll_eq]

theorem importsAfterIdents_append (own : Package) (is more : List Ident) :
    importsAfterIdents own (is ++ more) =
      (importsAfterIdents own is).addAll (more.map (·.importPath)) := by
  rw [importsAfterIdents_eq, importsAfterIdents_eq, List.map_append, addAll_append]

theorem spellings_eq (own : Package) (is : List Ident) :
    spellings own is = is.map (importsAfterIdents own is).spell := by
  rw [spellings, importsAfterIdents, qualifyAll_eq]

@[simp] theorem ownPath_importsAfterIdents (own : Package) (is : List Ident) :
    (importsAfterIdents own is).ownPath = own.importPath := by
  rw [importsAfterIdents_eq, ownPath_addAll]
  rfl

theorem valid_importsAfterIdents (own : Package) (is : List Ident) :
    (importsAfterIdents own is).Valid :=
  importsAfterIdents_eq own is ▸ (valid_ofPackage own).addAll _

theorem mem_paths_importsAfterIdents {p : String} :
    p ∈ (importsAfterIdents own is).entries.map (·.path) ↔
      p ∈ is.map (·.importPath) ∧ p ≠ own.importPath := by
  rw [importsAfterIdents_eq, mem_paths_addAll]
  simp [ofPackage]

theorem settled_importsAfterIdents (own : Package) {i : Ident} (hi : i ∈ is) :
    (importsAfterIdents own is).Settled i.importPath :=
  importsAfterIdents_eq own is ▸ settled_addAll (List.mem_map_of_mem hi) _

/-! ## The import block -/

/-- The aliases that the import block lists. -/
def Imports.listedAliases (imports : Imports) : List String := imports.sorted.map (·.name)

/-- Whether a name is neither predeclared nor an alias. -/
def Imports.Free (imports : Imports) (name : String) : Prop :=
  name ∉ predeclared ∧ name ∉ imports.listedAliases

theorem mem_listedAliases_iff {imports : Imports} {a : String} :
    a ∈ imports.listedAliases ↔ a ∈ imports.aliases :=
  ((sorted_perm imports).map _).mem_iff

theorem Imports.Valid.mem_listedAliases_iff {imports : Imports} (h : imports.Valid)
    {a : String} : a ∈ imports.listedAliases ↔ ∃ p, imports.aliasOf? p = some a := by
  rw [Go.mem_listedAliases_iff, Imports.aliases, List.mem_map]
  simp only [h.aliasOf?_eq_some_iff]
  constructor
  · rintro ⟨e, he, rfl⟩
    exact ⟨e.path, he⟩
  · rintro ⟨p, hp⟩
    exact ⟨_, hp, rfl⟩

theorem free_iff {imports : Imports} {name : String} :
    imports.Free name ↔ name ∉ imports.taken := by
  rw [Free, mem_listedAliases_iff, taken, List.mem_append, not_or]

/-- The first mention of a foreign package gives it the first of its names that is free. -/
theorem alias_given {i : Ident} (hown : i.importPath ≠ own.importPath)
    (hnew : i.importPath ∉ is.map (·.importPath)) :
    ∃ n, ⟨i.importPath, numbered (suggestedName i.importPath) n⟩ ∈
        (importsAfterIdents own (is ++ [i])).sorted ∧
      (importsAfterIdents own is).Free (numbered (suggestedName i.importPath) n) ∧
      ∀ k < n, ¬ (importsAfterIdents own is).Free (numbered (suggestedName i.importPath) k) := by
  have hunsettled : ¬ (importsAfterIdents own is).Settled i.importPath := by
    rw [Settled, ownPath_importsAfterIdents, ← mem_paths_iff, mem_paths_importsAfterIdents]
    tauto
  obtain ⟨n, hn, hfree, hbefore⟩ :=
    firstFree_spec (suggestedName i.importPath) (importsAfterIdents own is).taken
  refine ⟨n, ?_, free_iff.mpr hfree, fun k hk => ?_⟩
  · rw [(sorted_perm _).mem_iff, importsAfterIdents_append, List.map_singleton, addAll_cons,
      addAll_nil, add_of_not_settled hunsettled, freshAlias, hn]
    exact List.mem_append_right _ (List.mem_singleton_self _)
  · rw [free_iff, not_not]
    exact hbefore k hk

theorem alias_kept {e : Import} (he : e ∈ (importsAfterIdents own is).sorted) (more : List Ident) :
    e ∈ (importsAfterIdents own (is ++ more)).sorted := by
  rw [(sorted_perm _).mem_iff] at he ⊢
  have halias := (valid_importsAfterIdents own is).aliasOf?_eq_some_iff.mpr he
  have hsettled : (importsAfterIdents own is).Settled e.path := Or.inr (by rw [halias]; rfl)
  rw [importsAfterIdents_append]
  refine ((valid_importsAfterIdents own is).addAll _).aliasOf?_eq_some_iff.mp ?_
  rw [aliasOf?_addAll _ hsettled, halias]

/-- An alias is what a path suggests, which is a usable name with any number behind it. -/
theorem usable_of_mem_listedAliases {a : String}
    (ha : a ∈ (importsAfterIdents own is).listedAliases) :
    a ∉ keywords ∧ a ∉ predeclared ∧ a ≠ "_" := by
  have hvalid := valid_importsAfterIdents own is
  obtain ⟨e, he, rfl⟩ := List.mem_map.mp (mem_listedAliases_iff.mp ha)
  obtain ⟨n, hn⟩ := hvalid.suggested e he
  refine ⟨?_, hvalid.unpredeclared e he, ?_⟩
  · rw [hn]
    exact numbered_not_mem_keywords (identifierOf_not_mem_keywords _) n
  · rw [hn]
    exact numbered_ne_blank (suggestedName_ne_blank _) n

/-! ## Runs from a fresh file -/

/-- What a file of the package `own` knows after it has been asked for the spellings of the
identifiers `is`, in this order. -/
structure Recorded (own : Package) (is : List Ident) : Prop where
  /-- The import block lists the packages that have been mentioned, apart from the file's own. -/
  listed : ∀ p, p ∈ (importsAfterIdents own is).sorted.map (·.path) ↔
    p ∈ is.map (·.importPath) ∧ p ≠ own.importPath
  increasing : ((importsAfterIdents own is).sorted.map (·.path)).Pairwise (· < ·)
  distinct : (importsAfterIdents own is).listedAliases.Nodup
  /-- Go accepts an alias as a name of the file, and it hides no other. -/
  usable : ∀ a ∈ (importsAfterIdents own is).listedAliases,
    a ∉ keywords ∧ a ∉ predeclared ∧ a ≠ "_"
  /-- A package that is mentioned for the first time gets the first free one of its names. -/
  given : ∀ i : Ident, i.importPath ≠ own.importPath → i.importPath ∉ is.map (·.importPath) →
    ∃ n, ⟨i.importPath, numbered (suggestedName i.importPath) n⟩ ∈
        (importsAfterIdents own (is ++ [i])).sorted ∧
      (importsAfterIdents own is).Free (numbered (suggestedName i.importPath) n) ∧
      ∀ k < n, ¬ (importsAfterIdents own is).Free (numbered (suggestedName i.importPath) k)
  /-- It keeps this name whatever is mentioned later. -/
  kept : ∀ e ∈ (importsAfterIdents own is).sorted, ∀ more,
    e ∈ (importsAfterIdents own (is ++ more)).sorted
  /-- Every request has been answered. -/
  answered : (spellings own is).length = is.length
  /-- Identifiers of the file's own package are bare, and no others. -/
  bare : ∀ a ∈ is.zip (spellings own is), a.2 = a.1.name ↔ a.1.importPath = own.importPath
  /-- All others stand behind the alias of their package. -/
  qualified : ∀ a ∈ is.zip (spellings own is), a.1.importPath ≠ own.importPath →
    ∃ e ∈ (importsAfterIdents own is).sorted, e.path = a.1.importPath ∧
      a.2 = e.name ++ "." ++ a.1.name
  /-- Two answers are the same exactly for the same identifier. -/
  faithful : ∀ a ∈ is.zip (spellings own is), ∀ b ∈ is.zip (spellings own is),
    '.' ∉ a.1.name.toList → '.' ∉ b.1.name.toList →
    (a.2 = b.2 ↔ a.1.importPath = b.1.importPath ∧ a.1.name = b.1.name)

theorem mem_zip_spellings {a : Ident × String} :
    a ∈ is.zip (spellings own is) ↔
      a.1 ∈ is ∧ a.2 = (importsAfterIdents own is).spell a.1 := by
  have hzip : is.zip (spellings own is) =
      is.map fun i => (i, (importsAfterIdents own is).spell i) := by
    have hboth := List.zip_map' (l := is) (f := id) (g := (importsAfterIdents own is).spell)
    rwa [List.map_id, ← spellings_eq] at hboth
  rw [hzip, List.mem_map]
  constructor
  · rintro ⟨i, hi, rfl⟩
    exact ⟨hi, rfl⟩
  · rintro ⟨hi, htext⟩
    exact ⟨a.1, hi, by rw [← htext]⟩

theorem qualified_of_mem_zip {a : Ident × String} (ha : a ∈ is.zip (spellings own is))
    (hforeign : a.1.importPath ≠ own.importPath) :
    ∃ e ∈ (importsAfterIdents own is).sorted, e.path = a.1.importPath ∧
      a.2 = e.name ++ "." ++ a.1.name := by
  obtain ⟨hi, htext⟩ := mem_zip_spellings.mp ha
  rw [← ownPath_importsAfterIdents own is] at hforeign
  have hsome := (settled_importsAfterIdents own hi).resolve_left hforeign
  obtain ⟨name, hname⟩ := Option.isSome_iff_exists.mp hsome
  have hentry := (valid_importsAfterIdents own is).aliasOf?_eq_some_iff.mp hname
  refine ⟨⟨a.1.importPath, name⟩, (sorted_perm _).mem_iff.mpr hentry, rfl, ?_⟩
  rw [htext, spell_of_aliasOf? hname]

end

/-- **Import table.** Whatever a file is asked to spell, in whatever order, after every request the
foreign packages mentioned so far are listed in the order of their paths and under names that are
usable, distinct, the first free ones when they were given and never changed since; and the
spellings tell the identifiers apart. -/
theorem recorded (own : Package) (is : List Ident) : Recorded own is := by
  have hvalid := valid_importsAfterIdents own is
  have hperm := sorted_perm (importsAfterIdents own is)
  constructor
  · intro p
    rw [(hperm.map _).mem_iff, mem_paths_importsAfterIdents]
  · exact List.pairwise_map.mpr hvalid.sorted_increasing
  · exact (hperm.map _).nodup_iff.mpr hvalid.aliases
  · exact fun a ha => usable_of_mem_listedAliases ha
  · exact fun i => alias_given
  · exact fun e he more => alias_kept he more
  · rw [spellings_eq, List.length_map]
  · intro a ha
    obtain ⟨hi, htext⟩ := mem_zip_spellings.mp ha
    rw [htext, ← ownPath_importsAfterIdents own is]
    exact hvalid.spell_eq_name_iff (settled_importsAfterIdents own hi)
  · exact fun a ha hforeign => qualified_of_mem_zip ha hforeign
  · intro a ha b hb hadot hbdot
    obtain ⟨hi, hatext⟩ := mem_zip_spellings.mp ha
    obtain ⟨hj, hbtext⟩ := mem_zip_spellings.mp hb
    rw [hatext, hbtext, hvalid.spell_inj (settled_importsAfterIdents own hi)
      (settled_importsAfterIdents own hj) hadot hbdot, Ident.eq_iff]

/-- A name with a number of its own gets out of the way of a suggested one, and the other way
around. -/
example :
    spellings ⟨"example.com/svc", "svc"⟩
      [⟨"example.com/foo1", "A"⟩, ⟨"example.com/foo", "B"⟩, ⟨"example.com/svc", "C"⟩,
       ⟨"example.org/foo", "D"⟩, ⟨"example.com/foo1", "E"⟩, ⟨"example.com/int", "F"⟩] =
      ["foo1.A", "foo.B", "C", "foo2.D", "foo1.E", "int1.F"] := by
  decide +kernel

end GoStubs.Go
