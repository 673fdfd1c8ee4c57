import GoStubs.Proofs.Go.Respelling
import GoStubs.Proofs.Proto.Messages
/-!
# The Go names of dotted names

A name with dots in it is exported in one go, but its Go name could be put together from its parts as
well: each of them has a Go name of its own, and between two of them stands an underscore, unless the
second one starts with a lower-case letter, which is raised. At a dot the reader of names starts
afresh, so that no decision before the dot depends on what follows it, and none behind it on what came
before.

No dot is left in a Go name, and no lower-case letter where a word starts in it. So it is its own Go
name, but for the one case in which it starts with the underscore that was a dot.

* `exportedName_append_dot`: two names with a dot between them.
* `exportedName_dotted`: a dotted name from its parts.
* `ExportedForm`: what a Go name is like.
* `exportedName_form`: all Go names are.
-/

namespace GoStubs.Go

open GoStubs.Proto

/-! ## Cutting a name at a dot -/

/-- What stands in a Go name before that of a name behind a dot. -/
def joint (name : String) : String := if startsLower name.toList then "" else "_"

theorem startsLower_append_dot (cs ds : List Char) :
    startsLower (cs ++ '.' :: ds) = startsLower cs := by
  cases cs <;> rfl

/-- What the reader makes of the characters before a dot does not depend on what follows them, and it
does not matter where it stands when it meets the dot. -/
theorem exportedFrom_append_dot (cs ds : List Char) : ∀ position : WordPosition,
    exportedFrom position (cs ++ '.' :: ds) =
      exportedFrom position cs ++ exportedFrom .start ('.' :: ds) := by
  induction cs with
  | nil => simp [exportedFrom]
  | cons c cs ih =>
    intro position
    rw [List.cons_append, exportedFrom, exportedFrom, startsLower_append_dot]
    simp only [ih]
    split_ifs <;> rfl

theorem exportedName_append_dot (outer name : String) :
    exportedName (outer ++ "." ++ name) = exportedName outer ++ joint name ++ exportedName name := by
  have hcs : (outer ++ "." ++ name).toList = outer.toList ++ '.' :: name.toList := by simp
  rw [← String.toList_inj, exportedName, hcs, String.toList_ofList, exportedFrom_append_dot,
    exportedFrom_dot]
  simp only [String.toList_append, exportedName, String.toList_ofList, joint]
  split_ifs <;> simp

/-! ## Dotted names -/

/-- The Go name of a dotted name with the given parts: the Go names of these, joined from left to
right. -/
def nestedName : List String → String
  | [] => ""
  | name :: inner => inner.foldl (fun outer n => outer ++ joint n ++ exportedName n)
      (exportedName name)

theorem nestedName_concat {names : List String} (h : names ≠ []) (name : String) :
    nestedName (names ++ [name]) = nestedName names ++ joint name ++ exportedName name := by
  cases names with
  | nil => exact absurd rfl h
  | cons n ns => simp [nestedName]

theorem exportedName_dotted (names : List String) :
    exportedName (dotted names) = nestedName names := by
  cases names with
  | nil => rfl
  | cons name inner =>
    -- From the left, the first two parts become one.
    induction inner generalizing name with
    | nil =>
      rw [dotted_singleton]
      rfl
    | cons n ns ih =>
      rw [dotted_cons_cons, ih, nestedName, exportedName_append_dot]
      rfl

/-! ## Exported identifiers -/

section

variable {s t : String}

theorem isNameChar_of_isExportedIdentifier (h : isExportedIdentifier s = true) :
    ∀ c ∈ s.toList, isNameChar c = true := by
  obtain ⟨c, cs, hs, hc, hcs⟩ := isExportedIdentifier_iff.mp h
  rw [hs]
  exact List.forall_mem_cons.mpr ⟨by simp [isNameChar, Char.isAlphanum, Char.isAlpha, hc], hcs⟩

theorem isExportedIdentifier_append (hs : isExportedIdentifier s = true)
    (ht : ∀ c ∈ t.toList, isNameChar c = true) : isExportedIdentifier (s ++ t) = true := by
  obtain ⟨c, cs, hcs, hc, hrest⟩ := isExportedIdentifier_iff.mp hs
  refine isExportedIdentifier_iff.mpr ⟨c, cs ++ t.toList, ?_, hc, ?_⟩
  · rw [String.toList_append, hcs, List.cons_append]
  · exact List.forall_mem_append.mpr ⟨hrest, ht⟩

/-- The Go name of dotted identifiers is an exported one. -/
theorem isExportedIdentifier_nestedName {names : List String} (hne : names ≠ [])
    (h : ∀ name ∈ names, isProtoIdentifier name = true) :
    isExportedIdentifier (nestedName names) = true := by
  induction names using List.reverseRecOn with
  | nil => exact absurd rfl hne
  | append_singleton outer name ih =>
    obtain ⟨houter, hname⟩ := List.forall_mem_append.mp h
    have hexported := isExportedIdentifier_exportedName (hname name List.mem_cons_self)
    by_cases hnil : outer = []
    · subst hnil
      exact hexported
    · have hjoint : ∀ c ∈ (joint name).toList, isNameChar c = true := by
        unfold joint
        split <;> simp [isNameChar]
      rw [nestedName_concat hnil]
      refine isExportedIdentifier_append (isExportedIdentifier_append (ih hnil houter) hjoint) ?_
      exact isNameChar_of_isExportedIdentifier hexported

end

/-! ## The form of a Go name -/

section

variable {p : WordPosition} {cs : List Char}

theorem Exported.dot_not_mem : ∀ {p : WordPosition}, Exported p cs → '.' ∉ cs := by
  induction cs with
  | nil => exact fun _ => List.not_mem_nil
  | cons c cs ih =>
    intro p h
    rw [List.mem_cons, not_or]
    exact ⟨Ne.symm h.1, ih h.2.2.2⟩

theorem Exported.isLower_eq_false {d c : Char} (hd : d = '_' ∨ d.isDigit = true) :
    ∀ {p : WordPosition}, Exported p cs → [d, c] <:+: cs → c.isLower = false := by
  induction cs with
  | nil => exact fun _ h => absurd (List.infix_nil.mp h) (List.cons_ne_nil _ _)
  | cons e cs ih =>
    intro p h hinfix
    rcases List.infix_cons_iff.mp hinfix with hprefix | hinfix
    · obtain ⟨rfl, htail⟩ := List.cons_prefix_cons.mp hprefix
      obtain ⟨ds, rfl⟩ := htail
      -- Behind the first of the two the reader does not stand in a word.
      have hafter : WordPosition.after d = .boundary := if_pos (by simpa using hd)
      rw [Bool.eq_false_iff]
      intro hlower
      have hword := h.2.2.2.2.1 hlower
      rw [hafter] at hword
      cases hword
    · exact ih h.2.2.2 hinfix

/-- Exporting a name again changes it only if a dot was kept at its start, as an underscore. -/
theorem exportedName_exportedName_iff {name : String} :
    exportedName (exportedName name) = exportedName name ↔
      (name.toList.head? = some '.' → startsLower name.toList.tail = true) := by
  by_cases hdot : name.toList.head? = some '.'
  · obtain ⟨cs, hcs⟩ := List.head?_eq_some_iff.mp hdot
    rw [imp_iff_right hdot, hcs, List.tail_cons]
    cases hstarts : startsLower cs with
    | false =>
      have hname : exportedFrom .start name.toList = '_' :: exportedFrom .start cs := by
        rw [hcs, exportedFrom_dot, hstarts]
        rfl
      rw [exportedName, exportedName, String.ofList_inj, String.toList_ofList, hname,
        exportedFrom_start_underscore]
      simp
    | true =>
      -- The dot vanishes, and the name behind it does not start with one.
      have hname : exportedName name = exportedName (String.ofList cs) := by
        rw [exportedName, exportedName, hcs, exportedFrom_dot, if_pos hstarts, String.toList_ofList]
      obtain ⟨d, ds, rfl, hd⟩ := exists_of_startsLower hstarts
      rw [hname]
      refine iff_of_true (exportedName_exportedName ?_) rfl
      rw [String.toList_ofList, List.head?_cons, ne_eq, Option.some.injEq]
      exact ne_of_isLower (by decide) hd
  · exact iff_of_true (exportedName_exportedName hdot) fun h => absurd h hdot

end

/-- Whether no lower-case letter stands where a word starts in a text. -/
structure Raised (cs : List Char) : Prop where
  start : startsLower cs = false
  behind : ∀ d c, [d, c] <:+: cs → d = '_' ∨ d.isDigit = true → c.isLower = false

/-- What the Go name of a name is like. -/
structure ExportedForm (name : String) : Prop where
  dot_not_mem : '.' ∉ (exportedName name).toList
  raised : Raised (exportedName name).toList
  /-- It is its own Go name, if the name does not start with a dot; and if it does, exactly when the
  dot vanishes before a lower-case letter. -/
  settled_iff : exportedName (exportedName name) = exportedName name ↔
    (name.toList.head? = some '.' → startsLower name.toList.tail = true)
  /-- It is an exported identifier if the name is made of identifiers with dots between them. -/
  identifier : ∀ parts, parts ≠ [] → (∀ part ∈ parts, isProtoIdentifier part = true) →
    name = dotted parts → isExportedIdentifier (exportedName name) = true

/-- **Exported names.** Every Go name is free of dots and raised, and changes no more when it is
exported again; that of dotted identifiers is an identifier that Go exports. -/
theorem exportedName_form (name : String) : ExportedForm name := by
  have hexported : Exported .boundary (exportedName name).toList := by
    rw [exportedName, String.toList_ofList]
    exact exported_exportedFrom name.toList (by decide) fun h => absurd h (by decide)
  have hstart : startsLower (exportedName name).toList = false := by
    rw [exportedName, String.toList_ofList]
    exact startsLower_exportedFrom name.toList (by decide)
  refine ⟨hexported.dot_not_mem, ⟨hstart, ?_⟩, exportedName_exportedName_iff, ?_⟩
  · intro d c hinfix hd
    exact hexported.isLower_eq_false hd hinfix
  · rintro parts hne hparts rfl
    rw [exportedName_dotted]
    exact isExportedIdentifier_nestedName hne hparts

/-- A dot before an upper-case letter is kept as an underscore, which would be replaced in turn. -/
example : exportedName ".Seal" = "_Seal" ∧ exportedName "_Seal" = "XSeal" := by decide +kernel

end GoStubs.Go
