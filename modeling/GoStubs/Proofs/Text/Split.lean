import GoStubs.Text.Split
import Mathlib.Data.List.Basic
import Mathlib.Data.List.Induction
import Mathlib.Data.List.TakeWhile
/-!
# Cutting and trimming texts

What cutting a text at a separator makes of two texts put together, and of a text without the
separator; and which texts trimming leaves alone.

* `split_append`, `split_of_not_mem`: the pieces of a text.
* `split_intercalate`: pieces with separators between them are cut apart again.
* `splitOnce_append`, `splitOnce_eq_some_iff`: the first separator is the one that counts.
* `append_eq_cut_iff`: a cut before an ending without separators.
* `trim_eq_self`: a text without blanks at its ends.
* `trimEnd_append_dropped`: what is trimmed off the end of a text.
-/

namespace GoStubs.Text

open GoStubs.Unicode

variable {sep : Char} {s t : String}

/-! ## Pieces -/

/-- What the readers test of each character, for a list without the separator. -/
theorem forall_mem_ne {α : Type} [DecidableEq α] {x : α} {xs : List α} (h : x ∉ xs) :
    ∀ y ∈ xs, decide (y ≠ x) = true := by
  intro y hy
  exact decide_eq_true fun heq => h (heq ▸ hy)

theorem splitChars_of_not_mem {cs : List Char} (h : sep ∉ cs) : splitChars sep cs = [cs] := by
  induction cs with
  | nil => rfl
  | cons c cs ih =>
    obtain ⟨hc, hcs⟩ := List.ne_and_not_mem_of_not_mem_cons h
    rw [splitChars, if_neg (Ne.symm hc), ih hcs]
    rfl

/-- A separator cuts a text into the pieces before it and those after it. -/
theorem split_append (sep : Char) (s t : String) :
    split sep (s ++ String.singleton sep ++ t) = split sep s ++ split sep t := by
  have hcs : (s ++ String.singleton sep ++ t).toList = s.toList ++ sep :: t.toList := by simp
  rw [split, hcs, splitChars_append, List.map_append]
  rfl

theorem split_of_not_mem (h : sep ∉ s.toList) : split sep s = [s] := by
  rw [split, splitChars_of_not_mem h, List.map_singleton, String.ofList_toList]

theorem split_intercalate {ss : List String} (hne : ss ≠ []) (h : ∀ s ∈ ss, sep ∉ s.toList) :
    split sep ((String.singleton sep).intercalate ss) = ss := by
  induction ss with
  | nil => exact absurd rfl hne
  | cons s ss ih =>
    obtain ⟨hs, hss⟩ := List.forall_mem_cons.mp h
    cases ss with
    | nil => rw [String.intercalate_singleton, split_of_not_mem hs]
    | cons t ss =>
      rw [String.intercalate_cons_cons, split_append, split_of_not_mem hs,
        ih (List.cons_ne_nil t ss) hss, List.singleton_append]

theorem split_ne_nil (sep : Char) (s : String) : split sep s ≠ [] := by
  rw [split, ne_eq, List.map_eq_nil_iff]
  exact splitChars_ne_nil sep s.toList

/-- The last piece stands behind the last separator. -/
theorem getLast?_split_append (sep : Char) (s t : String) :
    (split sep (s ++ String.singleton sep ++ t)).getLast? = (split sep t).getLast? := by
  rw [split_append, List.getLast?_append_of_ne_nil _ (split_ne_nil sep t)]

/-- The first separator is the one that counts. -/
theorem splitOnce_append (h : sep ∉ s.toList) (t : String) :
    splitOnce sep (s ++ String.singleton sep ++ t) = some (s, t) := by
  have hcs : (s ++ String.singleton sep ++ t).toList = s.toList ++ sep :: t.toList := by simp
  have hne := forall_mem_ne h
  rw [splitOnce, hcs, List.dropWhile_append_of_pos hne, List.takeWhile_append_of_pos hne]
  simp

theorem splitOnce_of_not_mem (h : sep ∉ s.toList) : splitOnce sep s = none := by
  have hdrop : s.toList.dropWhile (· ≠ sep) = [] :=
    List.dropWhile_eq_nil_iff.mpr (forall_mem_ne h)
  rw [splitOnce, hdrop]

/-- A text with a separator is cut at the first one. -/
theorem exists_eq_append_of_mem (h : sep ∈ s.toList) : ∃ before after,
    s = before ++ String.singleton sep ++ after ∧ sep ∉ before.toList := by
  obtain ⟨cs, ds, hs, hcs⟩ := List.eq_append_cons_of_mem h
  refine ⟨String.ofList cs, String.ofList ds, ?_, by rwa [String.toList_ofList]⟩
  rw [← String.toList_inj, hs]
  simp

theorem splitOnce_eq_some_iff {before after : String} : splitOnce sep s = some (before, after) ↔
    s = before ++ String.singleton sep ++ after ∧ sep ∉ before.toList := by
  constructor
  · intro h
    by_cases hsep : sep ∈ s.toList
    · obtain ⟨first, rest, hs, hfirst⟩ := exists_eq_append_of_mem hsep
      rw [hs, splitOnce_append hfirst] at h
      obtain ⟨rfl, rfl⟩ := Prod.mk.inj (Option.some.inj h)
      exact ⟨hs, hfirst⟩
    · rw [splitOnce_of_not_mem hsep] at h
      cases h
  · intro ⟨hs, hbefore⟩
    rw [hs, splitOnce_append hbefore]

theorem splitOnce_eq_none_iff : splitOnce sep s = none ↔ sep ∉ s.toList := by
  constructor
  · intro h hsep
    obtain ⟨before, after, hs, hbefore⟩ := exists_eq_append_of_mem hsep
    rw [hs, splitOnce_append hbefore] at h
    cases h
  · exact splitOnce_of_not_mem

/-- A cut at a separator lies before an ending in which there is none. -/
theorem append_eq_cut_iff {a b : String} (hsep : sep ∉ t.toList) :
    s ++ t = a ++ String.singleton sep ++ b ↔
      ∃ rest, s = a ++ String.singleton sep ++ rest ∧ b = rest ++ t := by
  constructor
  · intro h
    have hlist := congrArg String.toList h
    simp only [String.toList_append, String.toList_singleton] at hlist
    rcases List.append_eq_append_iff.mp hlist with ⟨u, hu, ht⟩ | ⟨u, hs, hb⟩
    · -- The separator would be the last character of what the ending starts with.
      cases u using List.reverseRecOn with
      | nil =>
        refine ⟨"", ?_, ?_⟩
        · rw [← String.toList_inj]
          simpa using hu.symm
        · rw [← String.toList_inj]
          simpa using ht.symm
      | append_singleton u c =>
        rw [← List.append_assoc] at hu
        obtain ⟨-, hc⟩ := List.append_inj' hu rfl
        obtain rfl := List.singleton_inj.mp hc
        rw [ht] at hsep
        simp at hsep
    · refine ⟨String.ofList u, ?_, ?_⟩
      · rw [← String.toList_inj]
        simpa using hs
      · rw [← String.toList_inj]
        simpa using hb
  · rintro ⟨rest, rfl, rfl⟩
    rw [String.append_assoc]

/-! ## Blanks -/

theorem dropWhile_eq_self {α : Type} {p : α → Bool} {xs : List α}
    (h : ∀ x ∈ xs.head?, p x = false) : xs.dropWhile p = xs := by
  cases xs with
  | nil => rfl
  | cons x xs => exact List.dropWhile_cons_of_neg (by simp [h x rfl])

/-- A text without blanks at its ends is left alone. -/
theorem trim_eq_self (hfirst : ∀ c ∈ s.toList.head?, isBlank c = false)
    (hlast : ∀ c ∈ s.toList.getLast?, isBlank c = false) : trim s = s := by
  have hreversed : ∀ c ∈ s.toList.reverse.head?, isBlank c = false := fun c hc =>
    hlast c (by rwa [List.head?_reverse] at hc)
  rw [trim, dropWhile_eq_self hfirst, trimEnd, dropWhile_eq_self hreversed, List.reverse_reverse,
    String.ofList_toList]

/-! ## Trimmed ends -/

section

variable {p : Char → Bool}

theorem trimEnd_append_dropped (p : Char → Bool) (cs : List Char) :
    trimEnd p cs ++ (cs.reverse.takeWhile p).reverse = cs := by
  rw [trimEnd, ← List.reverse_append, List.takeWhile_append_dropWhile, List.reverse_reverse]

theorem of_mem_getLast?_trimEnd {cs : List Char} : ∀ c ∈ (trimEnd p cs).getLast?, p c = false := by
  intro c hc
  have hhead := List.head?_dropWhile_not p cs.reverse
  rw [trimEnd, List.getLast?_reverse] at hc
  rw [Option.mem_def.mp hc] at hhead
  simpa using hhead

theorem trimEnd_eq_nil_iff {cs : List Char} : trimEnd p cs = [] ↔ ∀ c ∈ cs, p c = true := by
  rw [trimEnd, List.reverse_eq_nil_iff, List.dropWhile_eq_nil_iff]
  simp only [List.mem_reverse]

end

end GoStubs.Text
