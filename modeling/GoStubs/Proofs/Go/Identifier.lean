import GoStubs.Go.Package
import GoStubs.Proofs.Go.Elements
/-!
# The identifiers that texts are turned into

What is left of a text after every character that an identifier cannot hold has been replaced, and
an underscore put in front where one is needed. The package names that import paths suggest are
such identifiers, and never the blank one.

* `identifierOf_cases`: an underscore stands in front exactly where one is needed.
* `identifierOf_not_mem_keywords`: no keyword is left.
* `identifierOf_ne_blank`: only the empty text becomes the blank identifier.
-/

namespace GoStubs.Go

open GoStubs.Unicode

/-! ## Characters -/

/-- Whether an identifier may hold a character. -/
def isIdentifierChar (c : Char) : Bool := isAlphanumeric c || c = '_'

theorem isIdentifierChar_identifierChar (c : Char) :
    isIdentifierChar (identifierChar c) = true := by
  unfold identifierChar
  split
  · next h => simp [isIdentifierChar, h]
  · rfl

theorem isAlphanumeric_of_isAscii {c : Char} (h : isAscii c = true) :
    isAlphanumeric c = c.isAlphanum := by
  rw [isAlphanumeric, isAlphabetic_of_isAscii h, isNumeric_of_isAscii h, Char.isAlphanum]

theorem isIdentifierChar_of_isDigit {c : Char} (h : c.isDigit = true) :
    isIdentifierChar c = true := by
  have hascii : isAscii c = true := by
    simp only [Char.isDigit, Bool.and_eq_true, decide_eq_true_eq, ge_iff_le,
      UInt32.le_iff_toNat_le] at h
    have hnine : '9'.val.toNat = 57 := rfl
    rw [isAscii, decide_eq_true_eq, Char.toNat]
    omega
  rw [isIdentifierChar, isAlphanumeric_of_isAscii hascii, Char.isAlphanum, h, Bool.or_true,
    Bool.true_or]

theorem isIdentifierChar_dot : isIdentifierChar '.' = false := by
  rw [isIdentifierChar, isAlphanumeric_of_isAscii rfl]
  rfl

/-! ## Identifiers -/

/-- Either an underscore has to be put in front of the characters that are kept or replaced, or
they are an identifier already. -/
theorem identifierOf_cases (s : String) :
    (identifierOf s).toList = '_' :: s.toList.map identifierChar ∨
      (identifierOf s).toList = s.toList.map identifierChar ∧ identifierOf s ∉ keywords ∧
        startsAlphabetic (s.toList.map identifierChar) = true := by
  rw [identifierOf]
  split
  · exact Or.inl String.toList_ofList
  · next h =>
    rw [Bool.or_eq_true, not_or, List.contains_iff_mem, Bool.not_eq_true',
      Bool.not_eq_false] at h
    exact Or.inr ⟨String.toList_ofList, h⟩

theorem isIdentifierChar_of_mem_identifierOf {s : String} {c : Char}
    (hc : c ∈ (identifierOf s).toList) : isIdentifierChar c = true := by
  have hmapped : c ∈ s.toList.map identifierChar → isIdentifierChar c = true := by
    intro h
    obtain ⟨d, -, rfl⟩ := List.mem_map.mp h
    exact isIdentifierChar_identifierChar d
  rcases identifierOf_cases s with h | ⟨h, -⟩
  · rw [h, List.mem_cons] at hc
    rcases hc with rfl | hc
    · rfl
    · exact hmapped hc
  · exact hmapped (h ▸ hc)

/-- An underscore in front makes something else of a keyword. -/
theorem identifierOf_not_mem_keywords (s : String) : identifierOf s ∉ keywords := by
  have hhead : ∀ k ∈ keywords, k.toList.head? ≠ some '_' := by decide
  rcases identifierOf_cases s with h | ⟨-, h, -⟩
  · intro hmem
    exact hhead _ hmem (by rw [h]; rfl)
  · exact h

/-- A text with a character in it does not become the blank identifier. -/
theorem identifierOf_ne_blank {s : String} (hs : s ≠ "") : identifierOf s ≠ "_" := by
  intro hblank
  rcases identifierOf_cases s with h | ⟨h, -, hstart⟩
  · -- Only the underscore in front is left, so there was no character.
    rw [hblank] at h
    have hnil : s.toList.map identifierChar = [] := (List.cons.inj h).2.symm
    exact hs (String.toList_inj.mp (List.map_eq_nil_iff.mp hnil))
  · rw [hblank] at h
    rw [← h] at hstart
    exact absurd hstart (by decide)

/-! ## Suggested package names -/

theorem suggestedName_ne_blank (path : String) : suggestedName path ≠ "_" :=
  identifierOf_ne_blank (lastElement_ne_empty path)

end GoStubs.Go
