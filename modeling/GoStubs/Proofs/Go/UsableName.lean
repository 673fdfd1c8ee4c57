import GoStubs.Proofs.Go.Identifier
import Mathlib.Data.List.Basic
/-!
# What becomes of a text as an identifier

Every text becomes an identifier that Go code can declare, and its letters and digits stay where they
are. Whether an underscore is put in front is decided after the other characters have been replaced,
but could be decided before: a replaced character is neither a letter nor part of a keyword, and all
characters of a keyword are kept. So a text is left alone exactly if it is such an identifier already.

* `ofList_map_mem_keywords_iff`, `startsAlphabetic_map_identifierChar`: replacing characters makes no
  keyword, and takes no letter away.
* `NeedsMark`: the texts that get an underscore in front.
* `UsableName`: how a text and its identifier belong together.
* `identifierOf_usable`: they do, and so the package names that paths suggest can be used.
-/

namespace GoStubs.Go

open GoStubs.Unicode

/-! ## Replaced characters -/

theorem isAlphanumeric_underscore : isAlphanumeric '_' = false := by
  rw [isAlphanumeric_of_isAscii rfl]
  rfl

theorem isAlphabetic_underscore : isAlphabetic '_' = false := by
  rw [isAlphabetic_of_isAscii rfl]
  rfl

/-- A character is kept exactly if an identifier may hold it. -/
theorem identifierChar_eq_self_iff {c : Char} : identifierChar c = c ↔ isIdentifierChar c = true := by
  unfold identifierChar isIdentifierChar
  cases h : isAlphanumeric c <;> simp [eq_comm]

theorem isAlphabetic_identifierChar (c : Char) :
    isAlphabetic (identifierChar c) = isAlphabetic c := by
  unfold identifierChar
  split
  · rfl
  · next h =>
    have hc : isAlphabetic c = false := (Bool.or_eq_false_iff.mp (Bool.eq_false_iff.mpr h)).1
    rw [hc, isAlphabetic_underscore]

theorem map_identifierChar_eq_self_iff {cs : List Char} :
    cs.map identifierChar = cs ↔ ∀ c ∈ cs, isIdentifierChar c = true := by
  simp only [← identifierChar_eq_self_iff]
  conv_lhs => rhs; rw [← List.map_id cs]
  exact List.map_inj_left

theorem startsAlphabetic_map_identifierChar (cs : List Char) :
    startsAlphabetic (cs.map identifierChar) = startsAlphabetic cs := by
  cases cs with
  | nil => rfl
  | cons c cs => exact isAlphabetic_identifierChar c

/-- No underscore stands in a keyword, so that none of its characters can be a replacement. -/
theorem ofList_map_mem_keywords_iff {s : String} :
    String.ofList (s.toList.map identifierChar) ∈ keywords ↔ s ∈ keywords := by
  have hletters : ∀ k ∈ keywords, (k.toList.all fun c => c.isAlpha && isAscii c) = true := by decide
  have hkeyword : ∀ k ∈ keywords, ∀ c ∈ k.toList, isAlphanumeric c = true := fun k hk c hc => by
    have hletter := List.all_eq_true.mp (hletters k hk) c hc
    obtain ⟨halpha, hascii⟩ := Bool.and_eq_true_iff.mp hletter
    rw [isAlphanumeric_of_isAscii hascii, Char.isAlphanum, halpha, Bool.true_or]
  have hkept : (∀ c ∈ s.toList, isAlphanumeric c = true) →
      String.ofList (s.toList.map identifierChar) = s := fun h => by
    rw [map_identifierChar_eq_self_iff.mpr fun c hc => by simp [isIdentifierChar, h c hc],
      String.ofList_toList]
  constructor
  · intro h
    have hchars : ∀ c ∈ s.toList, isAlphanumeric c = true := fun c hc => by
      have hreplaced := hkeyword _ h (identifierChar c)
        (by rw [String.toList_ofList]; exact List.mem_map_of_mem hc)
      by_contra hne
      rw [identifierChar, if_neg hne, isAlphanumeric_underscore] at hreplaced
      cases hreplaced
    rwa [hkept hchars] at h
  · intro h
    rwa [hkept (hkeyword s h)]

/-! ## The mark in front -/

/-- Whether a text is no identifier for another reason than the characters in it. -/
def NeedsMark (s : String) : Prop := s ∈ keywords ∨ startsAlphabetic s.toList = false

theorem toList_identifierOf_of_needsMark {s : String} (h : NeedsMark s) :
    (identifierOf s).toList = '_' :: s.toList.map identifierChar := by
  rw [identifierOf, if_pos, String.toList_ofList]
  rw [Bool.or_eq_true, List.contains_iff_mem, ofList_map_mem_keywords_iff, Bool.not_eq_true',
    startsAlphabetic_map_identifierChar]
  exact h

theorem toList_identifierOf_of_not_needsMark {s : String} (h : ¬ NeedsMark s) :
    (identifierOf s).toList = s.toList.map identifierChar := by
  rw [identifierOf, if_neg, String.toList_ofList]
  rw [Bool.or_eq_true, List.contains_iff_mem, ofList_map_mem_keywords_iff, Bool.not_eq_true',
    startsAlphabetic_map_identifierChar]
  exact h

theorem exists_head?_identifierOf (s : String) : ∃ c, (identifierOf s).toList.head? = some c ∧
    (isAlphabetic c = true ∨ c = '_') := by
  by_cases hmark : NeedsMark s
  · rw [toList_identifierOf_of_needsMark hmark]
    exact ⟨'_', rfl, Or.inr rfl⟩
  · have hstarts : startsAlphabetic s.toList = true := by
      rw [← Bool.not_eq_false]
      exact fun h => hmark (Or.inr h)
    rw [toList_identifierOf_of_not_needsMark hmark]
    rw [← startsAlphabetic_map_identifierChar] at hstarts
    cases hmapped : s.toList.map identifierChar with
    | nil =>
      rw [hmapped] at hstarts
      cases hstarts
    | cons c cs =>
      rw [hmapped] at hstarts
      exact ⟨c, rfl, Or.inl hstarts⟩

theorem identifierOf_ne_empty (s : String) : identifierOf s ≠ "" := by
  obtain ⟨c, hc, -⟩ := exists_head?_identifierOf s
  intro h
  rw [h] at hc
  cases hc

theorem identifierOf_eq_self_iff {s : String} : identifierOf s = s ↔
    s ≠ "" ∧ startsAlphabetic s.toList = true ∧ (∀ c ∈ s.toList, isIdentifierChar c = true) ∧
      s ∉ keywords := by
  have hneeds : ¬ NeedsMark s ↔ startsAlphabetic s.toList = true ∧ s ∉ keywords := by
    rw [NeedsMark, not_or, Bool.not_eq_false, and_comm]
  have hne : startsAlphabetic s.toList = true → s ≠ "" := by
    rintro h rfl
    cases h
  rw [← String.toList_inj]
  by_cases hmark : NeedsMark s
  · -- With the mark the text has become longer.
    rw [toList_identifierOf_of_needsMark hmark]
    constructor
    · intro h
      have hlength := congrArg List.length h
      rw [List.length_cons, List.length_map] at hlength
      omega
    · rintro ⟨-, hstarts, -, hkeyword⟩
      exact absurd hmark (hneeds.mpr ⟨hstarts, hkeyword⟩)
  · obtain ⟨hstarts, hkeyword⟩ := hneeds.mp hmark
    rw [toList_identifierOf_of_not_needsMark hmark, map_identifierChar_eq_self_iff]
    exact ⟨fun h => ⟨hne hstarts, hstarts, h, hkeyword⟩, fun h => h.2.2.1⟩

/-! ## Usable names -/

/-- Whether one text is another one with an underscore in place of each character that is neither a
letter nor a digit. -/
structure Keeps (cs kept : List Char) : Prop where
  length_eq : kept.length = cs.length
  getElem? : ∀ (i : Nat) (c : Char), cs[i]? = some c → isAlphanumeric c = true → kept[i]? = some c
  replaced : ∀ (i : Nat) (c : Char), cs[i]? = some c → isAlphanumeric c = false →
    kept[i]? = some '_'

theorem keeps_map_identifierChar (cs : List Char) : Keeps cs (cs.map identifierChar) where
  length_eq := List.length_map identifierChar
  getElem? i c hc h := by
    rw [List.getElem?_map, hc, Option.map_some, identifierChar, if_pos h]
  replaced i c hc h := by
    rw [List.getElem?_map, hc, Option.map_some, identifierChar, if_neg (by simp [h])]

/-- How a text and its identifier belong together. -/
structure UsableName (s : String) : Prop where
  ne_empty : identifierOf s ≠ ""
  starts : ∃ c, (identifierOf s).toList.head? = some c ∧ (isAlphabetic c = true ∨ c = '_')
  chars : ∀ c ∈ (identifierOf s).toList, isIdentifierChar c = true
  not_mem_keywords : identifierOf s ∉ keywords
  eq_blank_iff : identifierOf s = "_" ↔ s = ""
  /-- Behind the mark, if there is one, the text is found again. -/
  kept : ∃ kept, Keeps s.toList kept ∧
    (NeedsMark s ∧ (identifierOf s).toList = '_' :: kept ∨
      ¬ NeedsMark s ∧ (identifierOf s).toList = kept)
  /-- A text is left alone exactly if it is an identifier that starts with a letter. -/
  eq_self_iff : identifierOf s = s ↔
    s ≠ "" ∧ startsAlphabetic s.toList = true ∧ (∀ c ∈ s.toList, isIdentifierChar c = true) ∧
      s ∉ keywords

/-- **Usable names.** Every text becomes a usable identifier, and every import path suggests one that
is not blank. -/
theorem identifierOf_usable : (∀ s, UsableName s) ∧
    ∀ path, suggestedName path ≠ "_" ∧ suggestedName path ∉ keywords ∧ suggestedName path ≠ "" := by
  refine ⟨fun s => ?_, fun path => ?_⟩
  · refine ⟨identifierOf_ne_empty s, exists_head?_identifierOf s,
      fun c hc => isIdentifierChar_of_mem_identifierOf hc, identifierOf_not_mem_keywords s,
      ⟨?_, ?_⟩, ⟨_, keeps_map_identifierChar s.toList, ?_⟩, identifierOf_eq_self_iff⟩
    · intro hblank
      by_contra hs
      exact identifierOf_ne_blank hs hblank
    · rintro rfl
      rfl
    · by_cases hmark : NeedsMark s
      · exact Or.inl ⟨hmark, toList_identifierOf_of_needsMark hmark⟩
      · exact Or.inr ⟨hmark, toList_identifierOf_of_not_needsMark hmark⟩
  · exact ⟨suggestedName_ne_blank path, identifierOf_not_mem_keywords _, identifierOf_ne_empty _⟩

/-- A digit is kept inside a name, but not alone in front. -/
example : identifierOf "v1.2" = "v1_2" ∧ identifierOf "2fa" = "_2fa" ∧ identifierOf "type" = "_type" :=
  by decide +kernel

end GoStubs.Go
