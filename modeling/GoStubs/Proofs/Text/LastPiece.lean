import GoStubs.Proofs.Text.Split
/-!
# The last piece of a list

Cut at its separators, a list has pieces of which some can be empty. The last one that is not can be
looked for from the end: first the separators there are taken off, and then all up to the separator
before. A separator at the end only adds an empty piece, so that both ways lead to the same piece, if
there is one, which is whenever the list has anything else than separators in it.

* `IsLastPiece`: this piece, by induction over the separators behind it.
* `IsLastPiece.lastPiece_eq`: it is found from the end.
* `IsLastPiece.getLast?_filter_splitChars`: it is found among all pieces of a text.
-/

namespace GoStubs.Text

/-- What is left of a list without the separators at its end and without all up to the last separator
before them. -/
def lastPiece {α : Type} [DecidableEq α] (sep : α) (xs : List α) : List α :=
  ((xs.reverse.dropWhile (· = sep)).takeWhile (· ≠ sep)).reverse

/-- Whether the second list is the last piece of the first one that is not empty. -/
inductive IsLastPiece {α : Type} (sep : α) : List α → List α → Prop where
  /-- There is no separator. -/
  | whole {last : List α} (hne : last ≠ []) (hsep : sep ∉ last) : IsLastPiece sep last last
  /-- The piece stands behind a separator. -/
  | behind {last : List α} (front : List α) (hne : last ≠ []) (hsep : sep ∉ last) :
      IsLastPiece sep (front ++ sep :: last) last
  /-- A separator at the end does not count. -/
  | trailing {xs last : List α} (h : IsLastPiece sep xs last) : IsLastPiece sep (xs ++ [sep]) last

section

variable {α : Type} {sep : α} {xs last : List α}

theorem IsLastPiece.ne_nil (h : IsLastPiece sep xs last) : last ≠ [] := by
  induction h with
  | whole hne => exact hne
  | behind _ hne => exact hne
  | trailing _ ih => exact ih

theorem IsLastPiece.sep_not_mem (h : IsLastPiece sep xs last) : sep ∉ last := by
  induction h with
  | whole _ hsep => exact hsep
  | behind _ _ hsep => exact hsep
  | trailing _ ih => exact ih

theorem IsLastPiece.append (h : IsLastPiece sep xs last) {seps : List α}
    (hseps : ∀ x ∈ seps, x = sep) : IsLastPiece sep (xs ++ seps) last := by
  induction seps using List.reverseRecOn with
  | nil => rwa [List.append_nil]
  | append_singleton seps x ih =>
    obtain ⟨hfirst, hx⟩ := List.forall_mem_append.mp hseps
    obtain rfl : x = sep := hx x List.mem_cons_self
    rw [← List.append_assoc]
    exact (ih hfirst).trailing

/-- A list with a separator is cut at the last one. -/
theorem exists_eq_append_cons (h : sep ∈ xs) :
    ∃ front rest, xs = front ++ sep :: rest ∧ sep ∉ rest := by
  obtain ⟨back, front, hxs, hback⟩ := List.eq_append_cons_of_mem (List.mem_reverse.mpr h)
  refine ⟨front.reverse, back.reverse, ?_, mt List.mem_reverse.mp hback⟩
  rw [← List.reverse_reverse xs, hxs]
  simp

/-- A list has such a piece unless there are only separators in it. -/
theorem exists_isLastPiece (h : ∃ x ∈ xs, x ≠ sep) : ∃ last, IsLastPiece sep xs last := by
  induction xs using List.reverseRecOn with
  | nil =>
    obtain ⟨x, hx, -⟩ := h
    cases hx
  | append_singleton xs x ih =>
    by_cases hx : x = sep
    · subst hx
      obtain ⟨y, hy, hne⟩ := h
      rcases List.mem_append.mp hy with hy | hy
      · obtain ⟨last, hlast⟩ := ih ⟨y, hy, hne⟩
        exact ⟨last, hlast.trailing⟩
      · exact absurd (List.mem_singleton.mp hy) hne
    · -- The piece ends here, and starts behind the last separator.
      by_cases hsep : sep ∈ xs
      · obtain ⟨front, rest, rfl, hrest⟩ := exists_eq_append_cons hsep
        rw [List.append_assoc, List.cons_append]
        exact ⟨_, .behind front (by simp) (by simp [hrest, Ne.symm hx])⟩
      · exact ⟨_, .whole (by simp) (by simp [hsep, Ne.symm hx])⟩

theorem forall_mem_reverse_ne [DecidableEq α] (hsep : sep ∉ xs) :
    ∀ x ∈ xs.reverse, decide (x ≠ sep) = true :=
  forall_mem_ne (mt List.mem_reverse.mp hsep)

/-- Read from its end, a list without separators has none to be taken off. -/
theorem dropWhile_reverse_append [DecidableEq α] (hne : xs ≠ []) (hsep : sep ∉ xs) (ys : List α) :
    (xs.reverse ++ ys).dropWhile (· = sep) = xs.reverse ++ ys := by
  refine dropWhile_eq_self fun x hx => ?_
  rw [List.head?_append_of_ne_nil _ (by simpa using hne)] at hx
  have hkept := forall_mem_reverse_ne hsep x (List.mem_of_mem_head? hx)
  simpa using hkept

theorem IsLastPiece.lastPiece_eq [DecidableEq α] (h : IsLastPiece sep xs last) :
    lastPiece sep xs = last := by
  induction h with
  | whole hne hsep =>
    have hdrop := dropWhile_reverse_append hne hsep []
    rw [List.append_nil] at hdrop
    rw [lastPiece, hdrop, List.takeWhile_eq_self_iff.mpr (forall_mem_reverse_ne hsep),
      List.reverse_reverse]
  | behind front hne hsep =>
    rw [lastPiece, List.reverse_append, List.reverse_cons, List.append_assoc,
      dropWhile_reverse_append hne hsep, List.takeWhile_append_of_pos (forall_mem_reverse_ne hsep)]
    simp
  | trailing _ ih =>
    rw [lastPiece, List.reverse_append, List.reverse_singleton, List.singleton_append,
      List.dropWhile_cons_of_pos (by simp)]
    exact ih

theorem lastPiece_eq_nil [DecidableEq α] (h : ∀ x ∈ xs, x = sep) : lastPiece sep xs = [] := by
  have hdrop : xs.reverse.dropWhile (· = sep) = [] := by
    rw [List.dropWhile_eq_nil_iff]
    intro x hx
    exact decide_eq_true (h x (List.mem_reverse.mp hx))
  rw [lastPiece, hdrop]
  rfl

end

section

variable {sep : Char} {cs last : List Char}

/-- Among all pieces, it is the last one that is not empty. -/
theorem IsLastPiece.getLast?_filter_splitChars (h : IsLastPiece sep cs last) :
    ((splitChars sep cs).filter (· ≠ [])).getLast? = some last := by
  induction h with
  | whole hne hsep => simp [splitChars_of_not_mem hsep, hne]
  | behind front hne hsep => simp [splitChars_append, splitChars_of_not_mem hsep, hne]
  | trailing _ ih =>
    rw [splitChars_append, List.filter_append]
    simpa [splitChars] using ih

theorem filter_splitChars_eq_nil (h : ∀ c ∈ cs, c = sep) :
    (splitChars sep cs).filter (· ≠ []) = [] := by
  induction cs with
  | nil => rfl
  | cons c cs ih =>
    obtain ⟨hc, hcs⟩ := List.forall_mem_cons.mp h
    rw [splitChars, if_pos hc]
    exact ih hcs

end

end GoStubs.Text
