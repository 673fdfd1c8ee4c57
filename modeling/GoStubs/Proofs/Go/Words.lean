import GoStubs.Proofs.Go.Aliases
import GoStubs.Proofs.Go.ExportedName
import GoStubs.Proofs.Go.Layout
/-!
# Names in lines of code

A name that consists of letters, digits and underscores does no harm to the line that it stands on:
no letter and no digit is blank, a brace or the end of a line. So it does not matter where in the
line the name stands, nor whether it is written after the alias of a package, which is such a name
itself.

* `IsWord`: such names.
* `isBlank_eq_false_of_isIdentifierChar`: what Unicode has to say about it.
* `starts_spell`, `ends_spell`: identifiers of packages.
* `oneLine_of_exportedName`: a name is harmless if the Go name that it gets is.
-/

namespace GoStubs.Go

open GoStubs.Unicode

/-- Whether a text consists of letters, digits and underscores. -/
def IsWord (s : String) : Prop := ∀ c ∈ s.toList, isIdentifierChar c = true

instance (s : String) : Decidable (IsWord s) :=
  decidable_of_iff (s.toList.all isIdentifierChar = true) List.all_eq_true

/-! ## Characters -/

/-- Two sets have no character in common if none of their ranges meet. -/
theorem contains_eq_false_of_ranges {a b : CharSet}
    (h : ∀ r ∈ a.ranges, ∀ s ∈ b.ranges, r.2 < s.1 ∨ s.2 < r.1) {c : Char}
    (hc : a.contains c = true) : b.contains c = false := by
  obtain ⟨r, hr, hin⟩ := List.any_eq_true.mp hc
  simp only [Bool.and_eq_true, decide_eq_true_eq] at hin
  rw [CharSet.contains, List.any_eq_false]
  intro s hs
  simp only [Bool.and_eq_true, decide_eq_true_eq]
  have hapart := h r hr s hs
  omega

theorem isBlank_eq_false_of_isIdentifierChar {c : Char} (h : isIdentifierChar c = true) :
    isBlank c = false := by
  by_cases hascii : isAscii c = true
  · have hall : ∀ n < 128, isIdentifierChar (Char.ofNat n) = true →
        isBlank (Char.ofNat n) = false := by decide +kernel
    exact of_isAscii (p := fun c => isIdentifierChar c = true → isBlank c = false) hall hascii h
  · have hunderscore : c ≠ '_' := by
      rintro rfl
      exact hascii rfl
    have halphabetic : ∀ r ∈ alphabeticSet.ranges, ∀ s ∈ blankSet.ranges,
        r.2 < s.1 ∨ s.2 < r.1 := by decide +kernel
    have hnumeric : ∀ r ∈ numericSet.ranges, ∀ s ∈ blankSet.ranges,
        r.2 < s.1 ∨ s.2 < r.1 := by decide +kernel
    simp only [isIdentifierChar, isAlphanumeric, isAlphabetic, isNumeric, hascii, hunderscore,
      Bool.or_eq_true, decide_false, Bool.false_eq_true, if_false, or_false] at h
    simp only [isBlank, hascii, Bool.false_eq_true, if_false]
    rcases h with h | h
    · exact contains_eq_false_of_ranges halphabetic h
    · exact contains_eq_false_of_ranges hnumeric h

theorem ne_of_isIdentifierChar {c d : Char} (h : isIdentifierChar c = true)
    (hd : isIdentifierChar d = false) : (c == d) = false := by
  rw [beq_eq_false_iff_ne]
  rintro rfl
  rw [h] at hd
  cases hd

/-! ## Words -/

section

variable {s t : String}

theorem IsWord.oneLine (h : IsWord s) : OneLine s := fun hmem => by
  have hblank := isBlank_eq_false_of_isIdentifierChar (h _ hmem)
  exact absurd hblank (by decide)

theorem IsWord.starts_self (h : IsWord s) (hne : s ≠ "") : Starts false s := by
  cases hs : s.toList with
  | nil => exact absurd (String.toList_eq_nil_iff.mp hs) hne
  | cons c cs =>
    have hc : isIdentifierChar c = true := h c (hs ▸ List.mem_cons_self)
    simp [Starts, hs, isBlank_eq_false_of_isIdentifierChar hc,
      ne_of_isIdentifierChar hc (d := '\x7d') (by decide)]

/-- A word in front of a text makes no closing brace of its beginning, and neither does no word. -/
theorem IsWord.starts (h : IsWord s) (ht : Starts false t) : Starts false (s ++ t) := by
  by_cases hne : s = ""
  · rw [hne, String.empty_append]
    exact ht
  · exact (h.starts_self hne).append t

/-- A word is no opening brace at the end of a text. -/
theorem IsWord.ends (h : IsWord s) (hne : s ≠ "") : Ends false s := by
  have hlast : s.toList ≠ [] := mt String.toList_eq_nil_iff.mp hne
  have hc : isIdentifierChar (s.toList.getLast hlast) = true := h _ (List.getLast_mem hlast)
  simp [Ends, List.getLast?_eq_some_getLast hlast, isBlank_eq_false_of_isIdentifierChar hc,
    ne_of_isIdentifierChar hc (d := '\x7b') (by decide)]

end

/-! ## Identifiers of packages -/

section

variable {imports : Imports} {i : Ident}

theorem isWord_alias (h : imports.Valid) {a p : String} (ha : imports.aliasOf? p = some a) :
    IsWord a := by
  obtain ⟨n, rfl⟩ := h.exists_numbered ha
  have hbase : ∀ d ∈ (suggestedName p).toList, isIdentifierChar d = true := fun d hd =>
    isIdentifierChar_of_mem_identifierOf hd
  exact fun c hc => Imports.isIdentifierChar_of_mem_numbered hbase hc

theorem oneLine_spell (h : imports.Valid) (hi : IsWord i.name) : OneLine (imports.spell i) := by
  cases ha : imports.aliasOf? i.importPath with
  | none =>
    rw [Imports.spell, ha]
    exact hi.oneLine
  | some a =>
    rw [Imports.spell_of_aliasOf? ha, oneLine_append, oneLine_append]
    exact ⟨⟨(isWord_alias h ha).oneLine, by decide⟩, hi.oneLine⟩

theorem starts_spell (h : imports.Valid) (hi : IsWord i.name) (hne : i.name ≠ "") :
    Starts false (imports.spell i) := by
  cases ha : imports.aliasOf? i.importPath with
  | none =>
    rw [Imports.spell, ha]
    exact hi.starts_self hne
  | some a =>
    rw [Imports.spell_of_aliasOf? ha]
    exact ((isWord_alias h ha).starts (by decide)).append _

theorem ends_spell (imports : Imports) (hi : IsWord i.name) (hne : i.name ≠ "") :
    Ends false (imports.spell i) := by
  cases ha : imports.aliasOf? i.importPath with
  | none =>
    rw [Imports.spell, ha]
    exact hi.ends hne
  | some a =>
    rw [Imports.spell_of_aliasOf? ha]
    exact (hi.ends hne).append _

end

/-! ## Exported names -/

/-- The reader of a name changes letters, dots and underscores, and keeps a line end as it is. -/
theorem newline_mem_exportedFrom {cs : List Char} :
    ∀ {position : WordPosition}, '\n' ∈ cs → '\n' ∈ exportedFrom position cs := by
  induction cs with
  | nil => exact nofun
  | cons c cs ih =>
    intro position hmem
    rcases List.mem_cons.mp hmem with rfl | hmem
    · simp [exportedFrom]
    · unfold exportedFrom
      -- Whatever becomes of the first character, the reader goes on with the others.
      repeat' split
      all_goals first
        | exact ih hmem
        | exact List.mem_cons_of_mem _ (ih hmem)

theorem oneLine_of_exportedName {name : String} (h : OneLine (exportedName name)) :
    OneLine name := by
  intro hmem
  refine h ?_
  rw [exportedName, String.toList_ofList]
  exact newline_mem_exportedFrom hmem

end GoStubs.Go
