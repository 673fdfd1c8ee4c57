import GoStubs.Plugin.Log
/-!
# Results and logs

What a computation reports while it goes on has no part in its result. The results of a run can
therefore be followed by themselves, as those of steps that may fail. The log of a run is that of
its steps, one after the other, up to the first that fails.

* `Logged.result_bind`: the result of two steps.
* `Logged.result_mapM`: the results of a sequence of steps.
* `Logged.events_mapM_of_ok`, `Logged.events_mapM_of_error`: the log of a sequence of steps.
-/

namespace GoStubs.Plugin.Logged

variable {α β : Type}

instance : LawfulMonad Logged := LawfulMonad.mk' Logged
  (fun x => by
    obtain ⟨events, result⟩ := x
    change andThen ⟨events, result⟩ (fun a => ofExcept (.ok a)) = _
    cases result <;> simp [andThen, ofExcept])
  (fun a f => by
    change andThen (ofExcept (.ok a)) f = f a
    simp [andThen, ofExcept])
  (fun x f g => by
    change (x.andThen f).andThen g = x.andThen fun a => (f a).andThen g
    unfold andThen
    cases x.result with
    | error e => rfl
    | ok a => cases hf : (f a).result <;> simp [hf])

/-- Only the result of a computation counts for what comes after it. -/
theorem bind_congr_of_result {x : Logged α} {f g : α → Logged β}
    (h : ∀ a, x.result = .ok a → f a = g a) : x >>= f = x >>= g := by
  change x.andThen f = x.andThen g
  unfold andThen
  split
  · next a hresult => rw [h a hresult]
  · rfl

theorem result_bind (x : Logged α) (f : α → Logged β) :
    (x >>= f).result = x.result >>= fun a => (f a).result := by
  change (x.andThen f).result = _
  unfold andThen
  cases x.result <;> rfl

theorem result_pure (a : α) : (pure a : Logged α).result = .ok a := rfl

theorem result_ofExcept (x : Except Error α) : (ofExcept x).result = x := rfl

/-- A report never stops a run. -/
theorem result_report (event : Event) : (report event).result = .ok () := rfl

theorem result_mapM (f : α → Logged β) (xs : List α) :
    (xs.mapM f).result = xs.mapM fun x => (f x).result := by
  induction xs with
  | nil => rfl
  | cons x xs ih =>
    simp only [List.mapM_cons, result_bind, ih, result_pure]
    rfl

/-! ## Logs -/

theorem events_bind_of_ok {x : Logged α} {a : α} (h : x.result = .ok a) (f : α → Logged β) :
    (x >>= f).events = x.events ++ (f a).events := by
  change (x.andThen f).events = _
  simp only [andThen, h]

/-- A computation that is stopped reports no more. -/
theorem events_bind_of_error {x : Logged α} {e : Error} (h : x.result = .error e)
    (f : α → Logged β) : (x >>= f).events = x.events := by
  change (x.andThen f).events = _
  simp only [andThen, h]

theorem events_bind_pure (x : Logged α) (g : α → β) :
    (x >>= fun a => pure (g a)).events = x.events := by
  cases h : x.result with
  | ok a => exact (events_bind_of_ok h _).trans (List.append_nil _)
  | error e => exact events_bind_of_error h _

theorem events_mapM_cons {f : α → Logged β} {x : α} {b : β} (h : (f x).result = .ok b)
    (xs : List α) : ((x :: xs).mapM f).events = (f x).events ++ (xs.mapM f).events := by
  rw [List.mapM_cons, events_bind_of_ok h, events_bind_pure]

/-- Steps that all succeed report one after the other. -/
theorem events_mapM_of_ok {f : α → Logged β} {xs : List α}
    (h : ∀ x ∈ xs, ∃ b, (f x).result = .ok b) :
    (xs.mapM f).events = xs.flatMap fun x => (f x).events := by
  induction xs with
  | nil => rfl
  | cons x xs ih =>
    obtain ⟨b, hb⟩ := h x List.mem_cons_self
    rw [events_mapM_cons hb, ih fun y hy => h y (List.mem_cons_of_mem _ hy), List.flatMap_cons]

/-- Steps up to one that fails report up to it. -/
theorem events_mapM_of_error {f : α → Logged β} {before : List α} {x : α} {e : Error}
    (h : ∀ y ∈ before, ∃ b, (f y).result = .ok b) (hx : (f x).result = .error e)
    (after : List α) : ((before ++ x :: after).mapM f).events =
      (before.flatMap fun y => (f y).events) ++ (f x).events := by
  induction before with
  | nil => rw [List.nil_append, List.mapM_cons, events_bind_of_error hx, List.flatMap_nil,
      List.nil_append]
  | cons y before ih =>
    obtain ⟨b, hb⟩ := h y List.mem_cons_self
    rw [List.cons_append, events_mapM_cons hb, ih fun z hz => h z (List.mem_cons_of_mem _ hz),
      List.flatMap_cons, List.append_assoc]

end GoStubs.Plugin.Logged
