import GoStubs.Proofs.Writer.Steps
import Mathlib.Data.Finset.Card
/-!
# Guards

An indent lasts as long as its guard, and a guard is made by an action or by a frame. A frame drops
its guard when its body is over, however that ends. The guards of actions are in the hands of the
program, which drops them in any order, inside of bodies or outside. The writer does not know its
guards: it has one number, which goes up and down. Here the guards are followed one by one, and the
number is shown to be how many there are.

* `Guards`: the guards that are live, with numbers in the order in which they are made.
* `Guards.Follow`: what moves do to guards; which one is dropped is left open.
* `Counts`: the level is the number of live guards, at any time of a run.
* `run_counts`: all programs, over all sinks.
-/

namespace GoStubs.Writer

/-- The guards of a writer, each with the number of guards that were made before it. -/
structure Guards where
  /-- How many have been made. -/
  made : Nat
  /-- Those that have been made and not yet dropped. -/
  live : Finset Nat
  /-- The guards of the frames whose bodies are running, the innermost one first. -/
  own : List Nat
  lt_made : ∀ g ∈ live, g < made
  own_subset : ∀ g ∈ own, g ∈ live
  own_nodup : own.Nodup

namespace Guards

/-- No guard has been made. -/
def none : Guards := ⟨0, ∅, [], by simp, by simp, List.nodup_nil⟩

theorem made_notMem_live (g : Guards) : g.made ∉ g.live := fun h => Nat.lt_irrefl _ (g.lt_made _ h)

/-- A guard is made by an action. -/
def make (g : Guards) : Guards where
  made := g.made + 1
  live := insert g.made g.live
  own := g.own
  lt_made x hx := by
    rcases Finset.mem_insert.mp hx with rfl | hx
    · exact Nat.lt_succ_self _
    · exact Nat.lt_succ_of_lt (g.lt_made x hx)
  own_subset x hx := Finset.mem_insert_of_mem (g.own_subset x hx)
  own_nodup := g.own_nodup

/-- A guard that no frame has made is dropped. -/
def drop (g : Guards) (x : Nat) (hx : x ∉ g.own) : Guards where
  made := g.made
  live := g.live.erase x
  own := g.own
  lt_made y hy := g.lt_made y (Finset.mem_of_mem_erase hy)
  own_subset y hy := Finset.mem_erase.mpr ⟨fun h => hx (h ▸ hy), g.own_subset y hy⟩
  own_nodup := g.own_nodup

/-- A guard is made by a frame. -/
def enter (g : Guards) : Guards where
  made := g.made + 1
  live := insert g.made g.live
  own := g.made :: g.own
  lt_made := g.make.lt_made
  own_subset x hx := by
    rcases List.mem_cons.mp hx with rfl | hx
    · exact Finset.mem_insert_self _ _
    · exact Finset.mem_insert_of_mem (g.own_subset x hx)
  own_nodup := List.nodup_cons.mpr
    ⟨fun h => g.made_notMem_live (g.own_subset _ h), g.own_nodup⟩

/-- A frame drops its guard. -/
def leave (g : Guards) (x : Nat) (own : List Nat) (h : g.own = x :: own) : Guards where
  made := g.made
  live := g.live.erase x
  own := own
  lt_made y hy := g.lt_made y (Finset.mem_of_mem_erase hy)
  own_subset y hy := by
    have hnodup := List.nodup_cons.mp (h ▸ g.own_nodup)
    exact Finset.mem_erase.mpr
      ⟨fun heq => hnodup.1 (heq ▸ hy), g.own_subset y (h ▸ List.mem_cons_of_mem x hy)⟩
  own_nodup := (List.nodup_cons.mp (h ▸ g.own_nodup)).2

@[simp] theorem card_make (g : Guards) : g.make.live.card = g.live.card + 1 :=
  Finset.card_insert_of_notMem g.made_notMem_live

@[simp] theorem card_enter (g : Guards) : g.enter.live.card = g.live.card + 1 :=
  Finset.card_insert_of_notMem g.made_notMem_live

theorem card_drop {g : Guards} {x : Nat} (hlive : x ∈ g.live) (hx : x ∉ g.own) :
    (g.drop x hx).live.card + 1 = g.live.card := Finset.card_erase_add_one hlive

theorem card_leave {g : Guards} {x : Nat} {own : List Nat} (h : g.own = x :: own) :
    (g.leave x own h).live.card + 1 = g.live.card :=
  Finset.card_erase_add_one (g.own_subset x (h ▸ List.mem_cons_self))

/-- What a move does to the guards. -/
inductive Moved : Move → Guards → Guards → Prop where
  | make (g : Guards) : Moved (.act .indent) g g.make
  /-- The program drops any of the guards that are its own to drop, -/
  | drop {g : Guards} {x : Nat} (hlive : x ∈ g.live) (hx : x ∉ g.own) :
      Moved (.act .dedent) g (g.drop x hx)
  /-- if it has one. -/
  | idle {g : Guards} (h : ∀ x ∈ g.live, x ∈ g.own) : Moved (.act .dedent) g g
  | enter (g : Guards) : Moved .enter g g.enter
  | leave {g : Guards} {x : Nat} {own : List Nat} (h : g.own = x :: own) :
      Moved .leave g (g.leave x own h)
  | act {a : Action String} (g : Guards) (hindent : a ≠ .indent) (hdedent : a ≠ .dedent) :
      Moved (.act a) g g
  | opening (f : Frame String) (g : Guards) : Moved (.opening f) g g
  | closing (f : Frame String) (g : Guards) : Moved (.closing f) g g

/-- What moves do to the guards, one after the other. -/
inductive Follow : List Move → Guards → Guards → Prop where
  | nil (g : Guards) : Follow [] g g
  | cons {m : Move} {ms : List Move} {g g' g'' : Guards} (h : Moved m g g')
      (hs : Follow ms g' g'') : Follow (m :: ms) g g''

theorem Follow.append {ms ns : List Move} {g g' g'' : Guards} (h : Follow ms g g')
    (h' : Follow ns g' g'') : Follow (ms ++ ns) g g'' := by
  induction h with
  | nil => exact h'
  | cons hm _ ih => exact .cons hm (ih h')

theorem Follow.exists_of_append {ms ns : List Move} {g g'' : Guards}
    (h : Follow (ms ++ ns) g g'') : ∃ g', Follow ms g g' ∧ Follow ns g' g'' := by
  induction ms generalizing g with
  | nil => exact ⟨g, .nil g, h⟩
  | cons m ms ih =>
    cases h with
    | cons hm hs =>
      obtain ⟨g', hms, hns⟩ := ih hs
      exact ⟨g', .cons hm hms, hns⟩

/-! ## Guards of programs -/

theorem exists_moved_act (a : Action String) (g : Guards) :
    ∃ g', Moved (.act a) g g' ∧ g'.own = g.own := by
  cases a with
  | indent => exact ⟨g.make, .make g, rfl⟩
  | dedent =>
    by_cases h : ∃ x ∈ g.live, x ∉ g.own
    · obtain ⟨x, hlive, hx⟩ := h
      exact ⟨g.drop x hx, .drop hlive hx, rfl⟩
    · exact ⟨g, .idle (by simpa using h), rfl⟩
  | _ => exact ⟨g, .act g (by simp) (by simp), rfl⟩

section

variable {κ : Type} [Sink κ] {indentText : String}

/-- Whatever the body of a frame does with guards, the one of the frame is there to be dropped at
its end. -/
theorem exists_follow_frame {body : Writer.Step κ} {inner : State κ → List Move}
    (h : ∀ t g, ∃ g', Follow (inner t) g g' ∧ g'.own = g.own) (f : Frame String) (s : State κ)
    (g : Guards) : ∃ g', Follow (f.moves indentText body inner s) g g' ∧ g'.own = g.own := by
  simp only [Frame.moves]
  split
  case isFalse => exact ⟨g, .cons (.opening f g) (.nil g), rfl⟩
  case isTrue =>
    obtain ⟨g', hinner, hown⟩ := h (f.opening indentText s).state.deeper g.enter
    have hopen : Follow [.opening f, .enter] g g.enter :=
      .cons (.opening f g) (.cons (.enter g) (.nil _))
    refine ⟨g'.leave g.made g.own hown, hopen.append (hinner.append (.cons (.leave hown) ?_)), rfl⟩
    split
    · exact .cons (.closing f _) (.nil _)
    · exact .nil _

/-- The guards can be followed through every run. A program drops as many of those that it was given
as it likes, but it leaves those of the frames around it alone. -/
theorem exists_follow (indentText : String) (p : Program String) (halting : Bool) (s : State κ)
    (g : Guards) : ∃ g', Follow (p.moves indentText halting s) g g' ∧ g'.own = g.own := by
  induction p generalizing halting s g with
  | done => exact ⟨g, .nil g, rfl⟩
  | act a rest ih =>
    obtain ⟨g', ha, hown⟩ := exists_moved_act a g
    rw [Program.moves]
    split
    · exact ⟨g', .cons ha (.nil g'), hown⟩
    · obtain ⟨g'', hrest, hown'⟩ := ih halting (a.step indentText s).state g'
      exact ⟨g'', .cons ha hrest, hown'.trans hown⟩
  | nest f body rest ihb ih =>
    obtain ⟨g', hf, hown⟩ := exists_follow_frame (ihb true) f s g
    simp only [Program.moves]
    split
    · exact ⟨g', by simpa using hf, hown⟩
    · obtain ⟨g'', hrest, hown'⟩ := ih halting _ g'
      exact ⟨g'', hf.append hrest, hown'.trans hown⟩

end

end Guards

/-! ## Counting guards -/

/-- Whether the numbers that a writer has are those of its guards. -/
structure Counts {κ : Type} (s : State κ) (g : Guards) : Prop where
  level : s.level = g.live.card
  /-- The guards of frames are not held by the program. -/
  held : s.held + g.own.length = g.live.card

/-- The program holds a guard exactly if there is a live one that no frame has made. -/
theorem Counts.held_eq_zero_iff {κ : Type} {s : State κ} {g : Guards} (h : Counts s g) :
    s.held = 0 ↔ ∀ x ∈ g.live, x ∈ g.own := by
  have hcard : g.own.toFinset.card = g.own.length := List.toFinset_card_of_nodup g.own_nodup
  have hsubset : g.own.toFinset ⊆ g.live := fun x hx => g.own_subset x (List.mem_toFinset.mp hx)
  have hheld := h.held
  constructor
  · intro hzero x hx
    have heq := Finset.eq_of_subset_of_card_le hsubset (by omega)
    exact List.mem_toFinset.mp (heq ▸ hx)
  · intro hall
    have hle := Finset.card_le_card fun x hx => List.mem_toFinset.mpr (hall x hx)
    omega

section

variable {κ : Type} [Sink κ] {indentText : String}

/-- Whether a step leaves the level of the writer alone. -/
def KeepsLevel (x : Step κ) : Prop :=
  ∀ s, (x s).state.level = s.level ∧ (x s).state.held = s.held

/-- Writing has no influence on the level, whether or not the sink takes the text. -/
theorem writing_keepsLevel : OfWriting (KeepsLevel : Step κ → Prop) where
  pass _ := ⟨rfl, rfl⟩
  deliver _ _ := ⟨rfl, rfl⟩
  lineStart _ _ := ⟨rfl, rfl⟩
  choose _ h s := h s s
  follow {x y} halting hx hy s := by
    cases hends : halting && !(x s).ok with
    | true =>
      rw [Step.follow_of_ends hends]
      exact hx s
    | false =>
      rw [Step.follow_of_goes_on hends]
      exact ⟨(hy _).1.trans (hx s).1, (hy _).2.trans (hx s).2⟩

/-- The step lemma: a writer that counts its guards does so after every move. -/
theorem Counts.move {s : State κ} {g g' : Guards} {m : Move} (h : Counts s g)
    (hm : Guards.Moved m g g') : Counts (m.step indentText s).state g' := by
  obtain ⟨hlevel, hheld⟩ := h
  have hwrites : ∀ x : Step κ, KeepsLevel x → Counts (x s).state g := fun x hx =>
    ⟨(hx s).1.trans hlevel, by rw [(hx s).2, hheld]⟩
  cases hm with
  | make =>
    refine ⟨?_, ?_⟩
    · show s.level + 1 = g.make.live.card
      rw [Guards.card_make, hlevel]
    · show s.held + 1 + g.own.length = g.make.live.card
      rw [Guards.card_make]
      omega
  | enter =>
    refine ⟨?_, ?_⟩
    · show s.level + 1 = g.enter.live.card
      rw [Guards.card_enter, hlevel]
    · show s.held + (g.own.length + 1) = g.enter.live.card
      rw [Guards.card_enter]
      omega
  | @leave _ x own hown =>
    have hcard := Guards.card_leave hown
    rw [hown, List.length_cons] at hheld
    refine ⟨?_, ?_⟩
    · show s.level - 1 = _
      omega
    · show s.held + own.length = _
      omega
  | drop hlive hx =>
    have hcard := Guards.card_drop hlive hx
    have hne : s.held ≠ 0 := fun hzero =>
      hx (Counts.held_eq_zero_iff ⟨hlevel, hheld⟩ |>.mp hzero _ hlive)
    have hstep : ((Move.act .dedent).step indentText s).state =
        { s.shallower with held := s.held - 1 } := if_neg hne
    rw [hstep]
    refine ⟨?_, ?_⟩
    · show s.level - 1 = _
      omega
    · show s.held - 1 + g.own.length = _
      omega
  | idle hall =>
    have hzero : s.held = 0 := (Counts.held_eq_zero_iff ⟨hlevel, hheld⟩).mpr hall
    have hstep : ((Move.act .dedent).step indentText s).state = s := if_pos hzero
    rw [hstep]
    exact ⟨hlevel, hheld⟩
  | act _ hindent hdedent =>
    exact hwrites _ (writing_keepsLevel.action (fun ha => absurd ha hindent)
      (fun ha => absurd ha hdedent) fun _ _ => ⟨rfl, rfl⟩)
  | opening f => exact hwrites _ (writing_keepsLevel.opening indentText f)
  | closing f => exact hwrites _ (writing_keepsLevel.closing indentText f)

/-- The run lemma: it does so after any moves. -/
theorem Counts.perform {s : State κ} {g g' : Guards} (h : Counts s g) (indentText : String)
    {ms : List Move} (hms : Guards.Follow ms g g') :
    Counts (perform indentText ms s).state g' := by
  induction hms generalizing s with
  | nil => exact h
  | cons hm _ ih => exact ih (h.move hm)

omit [Sink κ] in
theorem counts_initial (sink : κ) : Counts (.initial sink) .none := ⟨rfl, rfl⟩

/-- Whether a move drops a guard: a frame its own one, or the program one that it holds. -/
def Move.Drops (s : State κ) : Move → Prop
  | leave => True
  | act .dedent => s.held ≠ 0
  | _ => False

/-- A move that drops a guard takes the level back, which is not zero then. -/
theorem Counts.level_of_drops {s : State κ} {g g' : Guards} {m : Move} (h : Counts s g)
    (hm : Guards.Moved m g g') (hdrops : m.Drops s) :
    (m.step indentText s).state.level + 1 = s.level := by
  rw [(h.move hm).level, h.level]
  cases hm with
  | leave hown => exact Guards.card_leave hown
  | drop hlive hx => exact Guards.card_drop hlive hx
  | idle hall => exact absurd (h.held_eq_zero_iff.mpr hall) hdrops
  | @act a _ hindent hdedent =>
    cases a with
    | dedent => exact absurd rfl hdedent
    | _ => exact hdrops.elim
  | _ => exact hdrops.elim

/-! ## Runs -/

/-- What the level of a writer is while a program runs. A time of the run is after some of its
moves, and the guards are followed up to there, in whichever order the program drops them. -/
structure CountsGuards (indentText : String) (p : Program String) (halting : Bool) (sink : κ) :
    Prop where
  /-- The moves lead from the first state of the run to the last one, -/
  ends : (perform indentText (p.moves indentText halting (.initial sink)) (.initial sink)).state =
    (p.run indentText halting (.initial sink)).state
  /-- and there is a way to follow the guards. -/
  exists_follow : ∃ g, Guards.Follow (p.moves indentText halting (.initial sink)) .none g
  /-- The level is the number of the live guards at any time, -/
  level {before after : List Move} {g : Guards}
    (hmoves : p.moves indentText halting (.initial sink) = before ++ after)
    (hg : Guards.Follow before .none g) :
    (perform indentText before (.initial sink)).state.level = g.live.card
  /-- it is not zero when a guard is dropped, -/
  drops {before after : List Move} {m : Move}
    (hmoves : p.moves indentText halting (.initial sink) = before ++ m :: after)
    (hdrops : m.Drops (perform indentText before (.initial sink)).state) :
    (perform indentText (before ++ [m]) (.initial sink)).state.level + 1 =
      (perform indentText before (.initial sink)).state.level
  /-- and a frame adds to it the live guards that its body has made and takes from it those that its
  body has dropped, however the frame ends. -/
  frame {before after : List Move} {g g' : Guards} (f : Frame String) (body : Program String)
    (hmoves : p.moves indentText halting (.initial sink) = before ++ after)
    (hg : Guards.Follow before .none g)
    (hg' : Guards.Follow ((Program.nest f body .done).moves indentText false
      (perform indentText before (.initial sink)).state) g g') :
    ((Program.nest f body .done).run indentText false
        (perform indentText before (.initial sink)).state).state.level +
        (g.live \ g'.live).card =
      (perform indentText before (.initial sink)).state.level + (g'.live \ g.live).card

/-- **Guards.** For every program and every sink, whatever texts this refuses, the level is at any
time of the run the number of guards that have been made and not yet dropped. -/
theorem run_counts (indentText : String) (p : Program String) (halting : Bool) (sink : κ) :
    CountsGuards indentText p halting sink where
  ends := congrArg Outcome.state (perform_moves p halting (.initial sink))
  exists_follow := by
    obtain ⟨g, hg, -⟩ := Guards.exists_follow indentText p halting (.initial sink) .none
    exact ⟨g, hg⟩
  level _ hg := ((counts_initial sink).perform indentText hg).level
  drops {before after m} hmoves hdrops := by
    obtain ⟨g, hg, -⟩ := Guards.exists_follow indentText p halting (.initial sink) .none
    rw [hmoves] at hg
    obtain ⟨g₁, hbefore, hafter⟩ := hg.exists_of_append
    have hcounts := (counts_initial sink).perform indentText hbefore
    have hstate : (perform indentText (before ++ [m]) (.initial sink)).state =
        (m.step indentText (perform indentText before (.initial sink)).state).state := by
      rw [perform_append, Step.follow_false]
      rfl
    cases hafter with
    | cons hm _ =>
      rw [hstate]
      exact hcounts.level_of_drops hm hdrops
  frame {before after g g'} f body _ hg hg' := by
    have hcounts := (counts_initial sink).perform indentText hg
    have hafter := hcounts.perform indentText hg'
    rw [perform_moves] at hafter
    -- Both sides count the guards that are live before the frame or after it.
    rw [hcounts.level]
    refine (congrArg (· + _) hafter.level).trans ?_
    rw [Nat.add_comm, Finset.card_sdiff_add_card, Nat.add_comm, Finset.card_sdiff_add_card,
      Finset.union_comm]

end

end GoStubs.Writer
