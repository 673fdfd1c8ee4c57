import Mathlib.Data.List.Forall2
/-!
# Sequences of steps that can fail

A run goes through lists of parts and stops at the first one that fails. If it gets through, its
results are those of the parts, one for one; if not, its error is the first one in the order of the
parts, however deep the lists are nested.

* `mapM_eq_ok_iff`, `mapM_eq_error_iff`: both outcomes of a sequence of steps.
* `failure?`: why a step fails, and `failure?_mapM`, why a sequence of steps does.
-/

namespace GoStubs

variable {ε α β : Type}

/-! ## Results -/

theorem ok_bind (a : α) (f : α → Except ε β) : (.ok a : Except ε α) >>= f = f a := rfl

theorem bind_eq_ok_iff {x : Except ε α} {f : α → Except ε β} {b : β} :
    x >>= f = .ok b ↔ ∃ a, x = .ok a ∧ f a = .ok b := by
  cases x with
  | error e => simp [bind, Except.bind]
  | ok a => simp [ok_bind]

theorem pure_eq_ok_iff {a b : α} : (pure a : Except ε α) = .ok b ↔ a = b :=
  ⟨Except.ok.inj, congrArg Except.ok⟩

theorem map_eq_ok_iff {x : Except ε α} {f : α → β} {b : β} :
    x.map f = .ok b ↔ ∃ a, x = .ok a ∧ f a = b := by
  cases x <;> simp [Except.map]

/-- A sequence of steps leaves the results of the steps, in their order. -/
theorem mapM_eq_ok_iff {f : α → Except ε β} {xs : List α} :
    ∀ {ys : List β}, xs.mapM f = .ok ys ↔ List.Forall₂ (fun x y => f x = .ok y) xs ys := by
  induction xs with
  | nil =>
    intro ys
    rw [List.mapM_nil, List.forall₂_nil_left_iff, pure_eq_ok_iff, eq_comm]
  | cons x xs ih =>
    intro ys
    rw [List.mapM_cons, List.forall₂_cons_left_iff, bind_eq_ok_iff]
    refine exists_congr fun y => ?_
    simp only [bind_eq_ok_iff, pure_eq_ok_iff, ih]
    constructor
    · rintro ⟨hy, ys', hys', rfl⟩
      exact ⟨ys', hy, hys', rfl⟩
    · rintro ⟨ys', hy, hys', rfl⟩
      exact ⟨hy, ys', hys', rfl⟩

/-- Steps that agree on all parts agree on their sequence. -/
theorem mapM_congr {f g : α → Except ε β} {xs : List α}
    (h : ∀ x ∈ xs, f x = g x) : xs.mapM f = xs.mapM g := by
  induction xs with
  | nil => rfl
  | cons x xs ih =>
    rw [List.mapM_cons, List.mapM_cons, h x List.mem_cons_self,
      ih fun y hy => h y (List.mem_cons_of_mem _ hy)]

/-- What a sequence of steps leaves comes from one of its steps. -/
theorem exists_of_mem_forall₂ {R : α → β → Prop} {xs : List α} {ys : List β}
    (h : List.Forall₂ R xs ys) {y : β} (hy : y ∈ ys) : ∃ x ∈ xs, R x y := by
  induction h with
  | nil => cases hy
  | cons hxy _ ih =>
    rcases List.mem_cons.mp hy with rfl | hy
    · exact ⟨_, List.mem_cons_self, hxy⟩
    · obtain ⟨x, hx, hxy⟩ := ih hy
      exact ⟨x, List.mem_cons_of_mem _ hx, hxy⟩

/-! ## Failures -/

theorem map_eq_error_iff {x : Except ε α} {f : α → β} {e : ε} :
    x.map f = .error e ↔ x = .error e := by
  cases x <;> simp [Except.map]

theorem bind_eq_error_iff {x : Except ε α} {f : α → Except ε β} {e : ε} :
    x >>= f = .error e ↔ x = .error e ∨ ∃ a, x = .ok a ∧ f a = .error e := by
  cases x with
  | error e' => simp [bind, Except.bind]
  | ok a => simp [ok_bind]

/-- Why a step fails, if it does. -/
def failure? : Except ε α → Option ε
  | .ok _ => none
  | .error e => some e

@[simp] theorem failure?_eq_some_iff {x : Except ε α} {e : ε} :
    failure? x = some e ↔ x = .error e := by
  cases x <;> simp [failure?]

theorem failure?_eq_none_iff {x : Except ε α} : failure? x = none ↔ ∃ a, x = .ok a := by
  cases x <;> simp [failure?]

theorem failure?_map (f : α → β) (x : Except ε α) : failure? (x.map f) = failure? x := by
  cases x <;> rfl

/-- Two steps fail for the reason of the first, or else for that of the second. -/
theorem failure?_bind {x : Except ε α} {f : α → Except ε β} {r : Option ε}
    (h : ∀ a, failure? (f a) = r) : failure? (x >>= f) = (failure? x).or r := by
  cases x with
  | error e => rfl
  | ok a => exact h a

/-- A sequence of steps fails for the reason of the first step that does. -/
theorem failure?_mapM (f : α → Except ε β) (xs : List α) :
    failure? (xs.mapM f) = xs.findSome? fun x => failure? (f x) := by
  induction xs with
  | nil => rfl
  | cons x xs ih =>
    have htail : ∀ y, failure? (xs.mapM f >>= fun ys => (pure (y :: ys) : Except ε (List β))) =
        xs.findSome? fun x => failure? (f x) := fun y => by
      rw [failure?_bind (r := none) fun _ => rfl, ih, Option.or_none]
    rw [List.mapM_cons, failure?_bind htail, List.findSome?_cons]
    cases failure? (f x) <;> rfl

/-- What is found in a list stands behind entries where nothing is found. -/
theorem findSome?_eq_some_iff_first {h : β → Option ε} {xs : List β} {e : ε} :
    xs.findSome? h = some e ↔ ∃ before x after, xs = before ++ x :: after ∧
      (∀ y ∈ before, h y = none) ∧ h x = some e := by
  rw [List.findSome?_eq_some_iff]
  constructor
  · rintro ⟨before, x, after, hsplit, hx, hbefore⟩
    exact ⟨before, x, after, hsplit, hbefore, hx⟩
  · rintro ⟨before, x, after, hsplit, hbefore, hx⟩
    exact ⟨before, x, after, hsplit, hx, hbefore⟩

/-- A sequence of steps succeeds if all of them do. -/
theorem exists_mapM_eq_ok_iff {f : α → Except ε β} {xs : List α} :
    (∃ ys, xs.mapM f = .ok ys) ↔ ∀ x ∈ xs, ∃ y, f x = .ok y := by
  simp only [← failure?_eq_none_iff, failure?_mapM, List.findSome?_eq_none_iff]

/-- Otherwise it fails with the first step that does. -/
theorem mapM_eq_error_iff {f : α → Except ε β} {xs : List α} {e : ε} :
    xs.mapM f = .error e ↔ ∃ before x after, xs = before ++ x :: after ∧
      (∀ y ∈ before, ∃ b, f y = .ok b) ∧ f x = .error e := by
  rw [← failure?_eq_some_iff, failure?_mapM, findSome?_eq_some_iff_first]
  simp only [failure?_eq_some_iff, failure?_eq_none_iff]

theorem findSome?_flatMap (g : α → List β) (h : β → Option ε) (xs : List α) :
    (xs.flatMap g).findSome? h = xs.findSome? fun x => (g x).findSome? h := by
  induction xs with
  | nil => rfl
  | cons x xs ih =>
    rw [List.flatMap_cons, List.findSome?_append, ih, List.findSome?_cons]
    cases (g x).findSome? h <;> rfl

end GoStubs
