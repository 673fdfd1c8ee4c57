import GoStubs.Proofs.Writer.Steps
/-!
# Writing with little room

A sink with room for a number of characters loses what no longer fits and nothing else. Up to the
text that does not fit, a program runs over it as over a sink that takes everything. From then on
the two runs have nothing to do with one another: bodies are cut short, frames stay open, and lines
start where they would not. But there is no room left, so that none of this can be seen.

* `Shortened`: a step with and without a limit.
* `spending`, `truncating`, `filling`: what steps have in common.
* `run_truncated`: all programs.
-/

namespace GoStubs.Writer

/-- The first characters of a text. -/
def beginning (n : Nat) (text : String) : String := String.ofList (text.toList.take n)

variable {n m : Nat} {a b : String}

theorem length_beginning_of_le (h : n ≤ a.length) : (beginning n a).length = n := by
  rw [← String.length_toList] at h
  rw [beginning, String.length_ofList, List.length_take, Nat.min_eq_left h]

theorem beginning_of_length_le (h : a.length ≤ n) : beginning n a = a := by
  rw [← String.length_toList] at h
  rw [beginning, List.take_of_length_le h, String.ofList_toList]

theorem beginning_append_of_le (h : n ≤ a.length) (b : String) :
    beginning n (a ++ b) = beginning n a := by
  rw [← String.length_toList] at h
  rw [beginning, String.toList_append, List.take_append_of_le_length h, beginning]

theorem beginning_append (h : a.length + m = n) (b : String) :
    beginning n (a ++ b) = a ++ beginning m b := by
  rw [← h, ← String.length_toList, beginning, String.toList_append, List.take_length_add_append,
    String.ofList_append, String.ofList_toList, beginning]

/-! ## Spending room -/

/-- Whether a step takes as much room as it delivers. -/
def Spends (x : Step Room) : Prop :=
  ∀ s n, s.sink = some n → ∃ m, (x s).state.sink = some m ∧ (x s).out.length + m = n

theorem spends_failure : Spends .failure := fun _ n hs => ⟨n, hs, Nat.zero_add n⟩

theorem spends_deliver (text : String) : Spends (deliver text) := by
  intro s n hs
  simp only [deliver, Sink.receive, hs]
  split
  case isTrue hfits => exact ⟨n - text.length, rfl, Nat.add_sub_cancel' hfits⟩
  case isFalse hfits =>
    exact ⟨0, rfl, length_beginning_of_le (Nat.le_of_not_le hfits)⟩

theorem Spends.follow {x y : Step Room} (hx : Spends x) (hy : Spends y) (halting : Bool) :
    Spends (x.follow halting y) := by
  intro s n hs
  obtain ⟨m, hm, hout⟩ := hx s n hs
  cases hends : halting && !(x s).ok with
  | true =>
    rw [Step.follow_of_ends hends]
    exact ⟨m, hm, hout⟩
  | false =>
    obtain ⟨l, hl, hout'⟩ := hy _ m hm
    rw [Step.follow_of_goes_on hends]
    refine ⟨l, hl, ?_⟩
    rw [String.length_append]
    omega

/-- No room is made or lost. -/
theorem spending : Compositional Spends where
  deliver := spends_deliver
  update hf s n hs := by
    have hsink := congrArg State.sink (hf s s.sink)
    exact ⟨n, hsink.trans hs, Nat.zero_add n⟩
  choose _ h s n hs := h s s n hs
  follow halting hx hy := hx.follow hy halting
  within hx s n hs := hx s.deeper n hs

/-- Without room, nothing more is delivered. -/
theorem Spends.of_full {x : Step Room} (hx : Spends x) {s : State Room} (hs : s.sink = some 0) :
    (x s).out = "" ∧ (x s).state.sink = some 0 := by
  obtain ⟨m, hm, hout⟩ := hx s 0 hs
  obtain ⟨hlength, rfl⟩ := Nat.add_eq_zero_iff.mp hout
  exact ⟨String.length_eq_zero_iff.mp hlength, hm⟩

/-! ## Runs with and without a limit -/

/-- What comes of a step over a sink with room for `n` characters, if `a` comes of it over a sink
without limit. -/
inductive Shortened (n : Nat) (a : Outcome Room) : Outcome Room → Prop where
  /-- There is room for everything, and the step goes the same way. -/
  | whole {m : Nat} (h : a.out.length + m = n) :
      Shortened n a ⟨a.out, a.ok, a.state.over (some m)⟩
  /-- There is not, and the step fails where the room ends. -/
  | cut {t : State Room} (h : n < a.out.length) (ht : t.sink = some 0) :
      Shortened n a ⟨beginning n a.out, false, t⟩

theorem Shortened.out_eq {a b : Outcome Room} (h : Shortened n a b) :
    b.out = beginning n a.out := by
  cases h with
  | whole h => exact (beginning_of_length_le (Nat.le_of_add_right_le (Nat.le_of_eq h))).symm
  | cut => rfl

/-- Whether all that a limit does to a step is to cut its text. -/
structure Truncates (x : Step Room) : Prop where
  spends : Spends x
  /-- A sink without limit stays so. -/
  unlimited (s : State Room) : (x (s.over none)).state.sink = none
  shortened (s : State Room) (n : Nat) : Shortened n (x (s.over none)) (x (s.over (some n)))

theorem truncates_failure : Truncates .failure where
  spends := spends_failure
  unlimited _ := rfl
  shortened _ n := .whole (Nat.zero_add n)

theorem truncates_deliver (text : String) : Truncates (deliver text) where
  spends := spends_deliver text
  unlimited _ := rfl
  shortened s n := by
    have hall : deliver text (s.over none) = ⟨text, true, s.over none⟩ := rfl
    rw [hall]
    by_cases hfits : text.length ≤ n
    · have hshort : deliver text (s.over (some n)) =
          ⟨text, true, s.over (some (n - text.length))⟩ := by
        simp [deliver, Sink.receive, State.over, hfits]
      rw [hshort]
      exact .whole (a := ⟨text, true, s.over none⟩) (Nat.add_sub_cancel' hfits)
    · have hshort : deliver text (s.over (some n)) =
          ⟨beginning n text, false, s.over (some 0)⟩ := by
        simp [deliver, Sink.receive, State.over, hfits, beginning]
      rw [hshort]
      exact .cut (a := ⟨text, true, s.over none⟩) (Nat.lt_of_not_le hfits) rfl

section

variable {x y : Step Room}

theorem Truncates.state_over (hx : Truncates x) (s : State Room) :
    (x (s.over none)).state.over none = (x (s.over none)).state :=
  State.over_of_sink_eq (hx.unlimited s)

theorem Truncates.unlimited_follow (hx : Truncates x) (hy : Truncates y) (halting : Bool)
    (s : State Room) : (x.follow halting y (s.over none)).state.sink = none := by
  cases hends : halting && !(x (s.over none)).ok with
  | true =>
    rw [Step.follow_of_ends hends]
    exact hx.unlimited s
  | false =>
    rw [Step.follow_of_goes_on hends, ← hx.state_over]
    exact hy.unlimited _

/-- A step that follows only adds to the text. -/
theorem exists_out_follow (x y : Step Room) (halting : Bool) (s : State Room) :
    ∃ rest, (x.follow halting y s).out = (x s).out ++ rest := by
  cases hends : halting && !(x s).ok with
  | true => exact ⟨"", by rw [Step.follow_of_ends hends, String.append_empty]⟩
  | false => exact ⟨_, by rw [Step.follow_of_goes_on hends]⟩

/-- A first step that is cut leaves no room for the second one, whether or not this runs. -/
theorem Truncates.follow_of_cut (hy : Truncates y) {halting : Bool} {s t : State Room} {n : Nat}
    (h : n < (x (s.over none)).out.length) (ht : t.sink = some 0)
    (hshort : x (s.over (some n)) = ⟨beginning n (x (s.over none)).out, false, t⟩) :
    Shortened n (x.follow halting y (s.over none)) (x.follow halting y (s.over (some n))) := by
  obtain ⟨rest, hrest⟩ := exists_out_follow x y halting (s.over none)
  obtain ⟨hout, hsink⟩ := hy.spends.of_full ht
  have hbeginning : beginning n (x (s.over none)).out =
      beginning n (x.follow halting y (s.over none)).out := by
    rw [hrest, beginning_append_of_le (Nat.le_of_lt h)]
  have hlonger : n < (x.follow halting y (s.over none)).out.length := by
    rw [hrest, String.length_append]
    omega
  cases halting with
  | true =>
    have hends : x.follow true y (s.over (some n)) = x (s.over (some n)) :=
      Step.follow_of_ends (by rw [hshort]; rfl) y
    rw [hends, hshort, hbeginning]
    exact .cut hlonger ht
  | false =>
    rw [Step.follow_false x y (s.over (some n)), hshort, hout,
      String.append_empty, Bool.false_and, hbeginning]
    exact .cut hlonger hsink

/-- After a first step that is not cut, the second one has the room that is left. -/
theorem Truncates.follow_of_whole (hx : Truncates x) (hy : Truncates y) {halting : Bool}
    {s : State Room} {n m : Nat} (h : (x (s.over none)).out.length + m = n)
    (hshort : x (s.over (some n)) =
      ⟨(x (s.over none)).out, (x (s.over none)).ok, (x (s.over none)).state.over (some m)⟩) :
    Shortened n (x.follow halting y (s.over none)) (x.follow halting y (s.over (some n))) := by
  cases hends : halting && !(x (s.over none)).ok with
  | true =>
    rw [Step.follow_of_ends hends, Step.follow_of_ends (by rw [hshort]; exact hends), hshort]
    exact .whole h
  | false =>
    rw [Step.follow_of_goes_on hends,
      Step.follow_of_goes_on (by rw [hshort]; exact hends), hshort]
    have hnext := hy.shortened (x (s.over none)).state m
    rw [hx.state_over] at hnext
    generalize y ((x (s.over none)).state.over (some m)) = next at hnext
    cases hnext with
    | whole h' =>
      refine .whole (a := ⟨_, _, _⟩) ?_
      rw [String.length_append]
      omega
    | cut h' ht =>
      rw [← beginning_append h, Bool.and_false]
      refine .cut (a := ⟨_, _, _⟩) ?_ ht
      rw [String.length_append]
      omega

theorem Truncates.follow (hx : Truncates x) (hy : Truncates y) (halting : Bool) :
    Truncates (x.follow halting y) where
  spends := hx.spends.follow hy.spends halting
  unlimited := hx.unlimited_follow hy halting
  shortened s n := by
    have hshort := hx.shortened s n
    generalize hxn : x (s.over (some n)) = short at hshort
    cases hshort with
    | whole h => exact hx.follow_of_whole hy h hxn
    | cut h ht => exact hy.follow_of_cut h ht hxn

end

/-- A limit cuts the text of a step, and nothing else can be seen of it. -/
theorem truncating : Compositional Truncates where
  deliver := truncates_deliver
  update {f} hf := {
    spends := spending.update hf
    unlimited := fun s => congrArg State.sink (hf s none)
    shortened := fun s n => by
      have hshort : Step.update f (s.over (some n)) =
          ⟨"", true, (f (s.over none)).over (some n)⟩ := by
        rw [hf]
        exact congrArg (Outcome.mk "" true) (hf s (some n))
      rw [hshort]
      exact .whole (a := ⟨"", true, f (s.over none)⟩) (Nat.zero_add n) }
  choose {f} hf h := {
    spends := spending.choose hf fun s => (h s).spends
    unlimited := fun s => by
      simp only [hf]
      exact (h s).unlimited s
    shortened := fun s n => by
      simp only [hf]
      exact (h s).shortened s n }
  follow halting hx hy := hx.follow hy halting
  within {x} hx := {
    spends := spending.within hx.spends
    unlimited := fun s => hx.unlimited s.deeper
    shortened := fun s n => by
      have hshort := hx.shortened s.deeper n
      simp only [Step.within]
      change Shortened n _ ⟨(x (s.deeper.over (some n))).out, (x (s.deeper.over (some n))).ok,
        (x (s.deeper.over (some n))).state.shallower⟩
      generalize x (s.deeper.over (some n)) = short at hshort
      cases hshort with
      | whole h => exact .whole (a := ⟨_, _, _⟩) h
      | cut h ht => exact .cut (a := ⟨_, _, _⟩) h ht }

/-! ## Failures for want of room -/

/-- Whether a step only fails when there is no room left. -/
structure Fills (x : Step Room) : Prop where
  spends : Spends x
  fills (s : State Room) (n : Nat) (hs : s.sink = some n) (hfails : (x s).ok = false) :
    (x s).out.length = n

theorem fills_deliver (text : String) : Fills (deliver text) where
  spends := spends_deliver text
  fills s n hs hfails := by
    simp only [deliver, Sink.receive, hs] at hfails ⊢
    by_cases hfits : text.length ≤ n
    · simp [hfits] at hfails
    · rw [if_neg hfits]
      exact length_beginning_of_le (Nat.le_of_not_le hfits)

/-- Steps that are not made to fail only fail for want of room. -/
theorem filling : Compositional Fills where
  deliver := fills_deliver
  update hf := ⟨spending.update hf, fun _ _ _ hfails => nomatch hfails⟩
  choose hf h := ⟨spending.choose hf fun s => (h s).spends, fun s n hs => (h s).fills s n hs⟩
  follow {x y} halting hx hy := by
    refine ⟨hx.spends.follow hy.spends halting, fun s n hs hfails => ?_⟩
    obtain ⟨m, hm, hout⟩ := hx.spends s n hs
    cases hends : halting && !(x s).ok with
    | true =>
      rw [Step.follow_of_ends hends] at hfails ⊢
      exact hx.fills s n hs hfails
    | false =>
      rw [Step.follow_of_goes_on hends] at hfails ⊢
      rw [String.length_append]
      -- If the first step fails, the second one has no room.
      cases hok : (x s).ok with
      | false =>
        obtain rfl : m = 0 := by
          have hfull := hx.fills s n hs hok
          omega
        rw [(hy.spends.of_full hm).1]
        exact hout
      | true =>
        have hfull := hy.fills _ m hm (by simpa [hok] using hfails)
        omega
  within {x} hx := ⟨spending.within hx.spends, fun s n hs => hx.fills s.deeper n hs⟩

/-! ## Programs -/

/-- **Truncation.** Over a sink with room for `n` characters, every program delivers exactly the
first `n` characters of what it delivers over a sink without limit, whatever fails and is run after
a failure. And whenever, after some of its moves, a step fails that is not made to fail, in no body
of it either, then the sink has received exactly `n` characters. -/
theorem run_truncated (indentText : String) (n : Nat) (p : Program String) (halting : Bool) :
    (p.run indentText halting (.initial (some n : Room))).trace.out =
        beginning n (p.run indentText halting (.initial (none : Room))).trace.out ∧
      ∀ before after, p.moves indentText halting (.initial (some n : Room)) = before ++ after →
        ∀ q : Program String, q.WithoutFailure → ∀ halting',
          let sofar := perform indentText before (.initial (some n : Room))
          let r := q.run indentText halting' sofar.state
          r.trace.ok = false → (sofar.out ++ r.trace.out).length = n := by
  constructor
  · have htruncates := truncating.program indentText (p := p)
      (fun _ => truncates_failure) halting
    exact (htruncates.shortened (.initial none) n).out_eq
  · intro before after _ q hq halting' sofar r hfails
    have hspends := spending.perform indentText spends_failure before
    obtain ⟨m, hm, hout⟩ := hspends (.initial (some n)) n rfl
    have hfills := filling.program indentText (fun h => absurd hq h) halting'
    rw [String.length_append, ← hout]
    exact congrArg _ (hfills.fills sofar.state m hm hfails)

end GoStubs.Writer
