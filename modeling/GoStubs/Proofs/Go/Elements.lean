import GoStubs.Go.LastElement
import GoStubs.Proofs.Text.LastPiece
/-!
# The elements of a path

A path has as elements the pieces between its slashes that are not empty, and its last element is the
last one of them. A path of slashes alone has none, nor has the empty one; these two have a last
element of their own, each of which is a path with the same last element again.

* `lastElement_of_isLastPiece`, `lastElement_of_forall_eq`: paths with elements and without.
* `lastElement_append`: slashes at the end of a path do not count.
-/

namespace GoStubs.Go

open GoStubs.Text

/-- The elements of a path, which are what stands between its slashes where anything does. -/
def pathElements (path : String) : List String := (split '/' path).filter (· ≠ "")

section

variable {path path' slashes : String} {last : List Char}

theorem pathElements_eq (path : String) :
    pathElements path = ((splitChars '/' path.toList).filter (· ≠ [])).map String.ofList := by
  rw [pathElements, split, List.filter_map]
  congr 2
  funext piece
  simp

theorem getLast?_pathElements (h : IsLastPiece '/' path.toList last) :
    (pathElements path).getLast? = some (String.ofList last) := by
  rw [pathElements_eq, List.getLast?_map, h.getLast?_filter_splitChars, Option.map_some]

theorem pathElements_eq_nil (h : ∀ c ∈ path.toList, c = '/') : pathElements path = [] := by
  rw [pathElements_eq, filter_splitChars_eq_nil h, List.map_nil]

theorem lastElement_of_isLastPiece (h : IsLastPiece '/' path.toList last) :
    lastElement path = String.ofList last := by
  have hlast := h.lastPiece_eq
  rw [lastPiece] at hlast
  rw [lastElement, lastElementChars]
  split
  · next hnil =>
    rw [hnil] at hlast
    exact absurd hlast.symm h.ne_nil
  · rw [hlast]

/-- A path without elements is the root, or nothing at all. -/
theorem lastElement_of_forall_eq (h : ∀ c ∈ path.toList, c = '/') :
    lastElement path = if path = "" then "." else "/" := by
  have hnil := lastPiece_eq_nil h
  rw [lastPiece, List.reverse_eq_nil_iff] at hnil
  rw [lastElement, lastElementChars, hnil]
  by_cases hpath : path = ""
  · subst hpath
    rfl
  · simp [hpath]

/-- Either there are only slashes in a path, or it has a last element. -/
theorem forall_eq_or_isLastPiece (path : String) :
    (∀ c ∈ path.toList, c = '/') ∨ ∃ last, IsLastPiece '/' path.toList last := by
  by_cases h : ∃ c ∈ path.toList, c ≠ '/'
  · exact Or.inr (exists_isLastPiece h)
  · push Not at h
    exact Or.inl h

theorem lastElement_lastElement (path : String) :
    lastElement (lastElement path) = lastElement path := by
  rcases forall_eq_or_isLastPiece path with h | ⟨last, h⟩
  · rw [lastElement_of_forall_eq h]
    split_ifs <;> rfl
  · have hwhole : IsLastPiece '/' (String.ofList last).toList last := by
      rw [String.toList_ofList]
      exact .whole h.ne_nil h.sep_not_mem
    rw [lastElement_of_isLastPiece h, lastElement_of_isLastPiece hwhole]

theorem lastElement_append (hpath : path ≠ "") (hslashes : ∀ c ∈ slashes.toList, c = '/') :
    lastElement (path ++ slashes) = lastElement path := by
  rcases forall_eq_or_isLastPiece path with h | ⟨last, h⟩
  · have hall : ∀ c ∈ (path ++ slashes).toList, c = '/' := by
      rw [String.toList_append]
      exact List.forall_mem_append.mpr ⟨h, hslashes⟩
    rw [lastElement_of_forall_eq h, lastElement_of_forall_eq hall, if_neg hpath,
      if_neg fun hnil => hpath (String.append_eq_empty_iff.mp hnil).1]
  · have happended : IsLastPiece '/' (path ++ slashes).toList last := by
      rw [String.toList_append]
      exact h.append hslashes
    rw [lastElement_of_isLastPiece h, lastElement_of_isLastPiece happended]

theorem lastElement_ne_empty (path : String) : lastElement path ≠ "" := by
  rcases forall_eq_or_isLastPiece path with h | ⟨last, h⟩
  · rw [lastElement_of_forall_eq h]
    split_ifs <;> decide
  · rw [lastElement_of_isLastPiece h, ne_eq, String.ofList_eq_empty_iff]
    exact h.ne_nil

/-- There is no slash in a last element, unless it is that of a path of slashes alone. -/
theorem slash_not_mem_lastElement (hroot : lastElement path ≠ "/") :
    '/' ∉ (lastElement path).toList := by
  rcases forall_eq_or_isLastPiece path with h | ⟨last, h⟩
  · rw [lastElement_of_forall_eq h] at hroot ⊢
    split_ifs at hroot ⊢
    · decide
    · exact absurd rfl hroot
  · rw [lastElement_of_isLastPiece h, String.toList_ofList]
    exact h.sep_not_mem

end

end GoStubs.Go
