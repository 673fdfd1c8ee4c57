import GoStubs.Proofs.Go.ExportedName
/-!
# Names with one Go name

Different names can have the same Go name: `say_hello`, `sayHello` and `SayHello` are all exported
as `SayHello`. Which names these are is said here without the reader of names, by a few ways in
which a name can be spelled closer to its exported form: two names have one Go name exactly if both
can be respelled into one.

* `Respelling`: the ways to spell a name anew.
* `exportedFrom_start_of_respelling`: none of them changes the Go name.
* `respellings_exportedFrom`: together they lead to the Go name.
* `exportedName_eq_iff`: names with one Go name.
-/

namespace GoStubs.Go

open Relation

/-- A way to spell a name closer to its exported form. -/
inductive Respelling : List Char → List Char → Prop where
  /-- The first letter is raised. -/
  | first {c : Char} {cs : List Char} (hc : c.isLower = true) :
      Respelling (c :: cs) (c.toUpper :: cs)
  /-- A letter after a digit is raised. -/
  | afterDigit {u : List Char} {d c : Char} {cs : List Char} (hd : d.isDigit = true)
      (hc : c.isLower = true) : Respelling (u ++ d :: c :: cs) (u ++ d :: c.toUpper :: cs)
  /-- A letter after an underscore in front is raised. -/
  | afterMark {c : Char} {cs : List Char} (hc : c.isLower = true) :
      Respelling ('_' :: c :: cs) ('_' :: c.toUpper :: cs)
  /-- An underscore in front becomes `X`, once no lower-case letter follows. -/
  | mark {cs : List Char} (hcs : startsLower cs = false) : Respelling ('_' :: cs) ('X' :: cs)
  /-- Behind the first character an underscore is dropped if the letter after it is raised. -/
  | contract {u : List Char} {c : Char} {cs : List Char} (hu : u ≠ []) (hc : c.isLower = true) :
      Respelling (u ++ '_' :: c :: cs) (u ++ c.toUpper :: cs)

/-- Whether two names can be respelled into one. -/
def Alike (a b : String) : Prop := Join (ReflTransGen Respelling) a.toList b.toList

/-! ## Respelling keeps the Go name -/

section

variable {c : Char} {cs u x y : List Char} {p : WordPosition}

theorem ne_of_isLower {d : Char} (hd : d.isLower = false) (hc : c.isLower = true) : c ≠ d :=
  fun h => absurd hc (by rw [h, hd]; decide)

/-- A character that has no other part in a name starts a word. -/
theorem exportedFrom_of_wordStart (hp : p = .word → c.isLower = false) (hdot : c ≠ '.')
    (hunderscore : c ≠ '_') (hdigit : c.isDigit = false) :
    exportedFrom p (c :: cs) = c.toUpper :: exportedFrom .word cs := by
  have hinside : ¬ (p = .word && c.isLower) := by
    simpa only [Bool.and_eq_true, decide_eq_true_eq, not_and, Bool.not_eq_true] using hp
  rw [exportedFrom, if_neg hinside, if_neg hdot, if_neg hunderscore, hdigit]
  rfl

/-- A lower-case letter that does not continue a word is raised. -/
theorem exportedFrom_of_isLower (hc : c.isLower = true) (hp : p ≠ .word) :
    exportedFrom p (c :: cs) = c.toUpper :: exportedFrom .word cs :=
  exportedFrom_of_wordStart (fun h => absurd h hp) (ne_of_isLower (by decide) hc)
    (ne_of_isLower (by decide) hc) (isDigit_eq_false_of_isLower hc)

/-- A raised letter stays, wherever it stands. -/
theorem exportedFrom_toUpper (hc : c.isLower = true) :
    exportedFrom p (c.toUpper :: cs) = c.toUpper :: exportedFrom .word cs := by
  have hlower : c.toUpper.isLower = false := Char.isLower_toUpper_eq_false c
  rw [exportedFrom_of_wordStart (fun _ => hlower)
    (toUpper_ne (by decide) (ne_of_isLower (by decide) hc))
    (toUpper_ne (by decide) (ne_of_isLower (by decide) hc))
    (isDigit_toUpper (isDigit_eq_false_of_isLower hc)),
    Char.toUpper_eq_of_not_isLower (c := c.toUpper) (by simp)]

theorem exportedFrom_of_isDigit (hc : c.isDigit = true) :
    exportedFrom p (c :: cs) = c :: exportedFrom .boundary cs := by
  have hlower : c.isLower = false := isLower_eq_false_of_isDigit hc
  have hne : ∀ {d : Char}, d.isDigit = false → c ≠ d := fun hd h => by rw [h, hd] at hc; cases hc
  rw [exportedFrom, if_neg (by simp [hlower]), if_neg (hne (by decide)), if_neg (hne (by decide)),
    if_pos hc]

/-- Behind a text without dots two endings can be exchanged that read the same inside a name. -/
theorem exportedFrom_append_congr (hstarts : startsLower x = startsLower y)
    (h : ∀ p ≠ .start, exportedFrom p x = exportedFrom p y) (hu : '.' ∉ u) :
    ∀ {p}, (u = [] → exportedFrom p x = exportedFrom p y) →
      exportedFrom p (u ++ x) = exportedFrom p (u ++ y) := by
  induction u with
  | nil => exact fun hp => hp rfl
  | cons c u ih =>
    intro p _
    obtain ⟨hdot, hu⟩ : c ≠ '.' ∧ '.' ∉ u := by simpa [eq_comm] using hu
    have htail : ∀ p ≠ .start, exportedFrom p (u ++ x) = exportedFrom p (u ++ y) :=
      fun p hp => ih hu fun _ => h p hp
    have hhead : startsLower (u ++ x) = startsLower (u ++ y) := by
      cases u with
      | nil => exact hstarts
      | cons d u => rfl
    simp only [List.cons_append, exportedFrom, if_neg hdot, hhead, htail .word (by decide),
      htail .boundary (by decide)]

/-- A dot becomes an underscore, or is dropped before a lower-case letter, wherever it stands. -/
theorem exportedFrom_dot (p : WordPosition) (cs : List Char) : exportedFrom p ('.' :: cs) =
    if startsLower cs then exportedFrom .start cs else '_' :: exportedFrom .start cs := by
  simp [exportedFrom]

/-- An underscore in front of a name becomes `X`. -/
theorem exportedFrom_start_underscore :
    exportedFrom .start ('_' :: cs) = 'X' :: exportedFrom .boundary cs := by
  simp [exportedFrom]

/-- Inside a name an underscore is dropped before a lower-case letter. -/
theorem exportedFrom_underscore (hp : p ≠ .start) : exportedFrom p ('_' :: cs) =
    if startsLower cs then exportedFrom .boundary cs else '_' :: exportedFrom .boundary cs := by
  simp [exportedFrom, hp]

/-- Where no lower-case letter follows, a word is not continued. -/
theorem exportedFrom_word_eq (hcs : startsLower cs = false) :
    exportedFrom .word cs = exportedFrom .boundary cs := by
  cases cs with
  | nil => rfl
  | cons c cs =>
    have hc : c.isLower = false := hcs
    simp [exportedFrom, hc]

theorem exportedFrom_start_of_respelling {as bs : List Char} (h : Respelling as bs)
    (hdot : '.' ∉ as) : exportedFrom .start as = exportedFrom .start bs := by
  cases h with
  | first hc => rw [exportedFrom_of_isLower hc (by decide), exportedFrom_toUpper hc]
  | @afterDigit u d c cs hd hc =>
    have hread : ∀ p, exportedFrom p (d :: c :: cs) = exportedFrom p (d :: c.toUpper :: cs) :=
      fun p => by
        rw [exportedFrom_of_isDigit hd, exportedFrom_of_isDigit hd,
          exportedFrom_of_isLower hc (by decide), exportedFrom_toUpper hc]
    have hstarts : startsLower (d :: c :: cs) = startsLower (d :: c.toUpper :: cs) := rfl
    have hu : '.' ∉ u := fun hmem => hdot (List.mem_append_left _ hmem)
    exact exportedFrom_append_congr hstarts (fun p _ => hread p) hu fun _ => hread .start
  | afterMark hc =>
    rw [exportedFrom_start_underscore, exportedFrom_start_underscore,
      exportedFrom_of_isLower hc (by decide), exportedFrom_toUpper hc]
  | @mark cs hcs =>
    rw [exportedFrom_start_underscore, exportedFrom_of_wordStart (by decide) (by decide)
      (by decide) (by decide), exportedFrom_word_eq hcs]
    rfl
  | @contract u c cs hu hc =>
    have hread : ∀ p ≠ .start, exportedFrom p ('_' :: c :: cs) = exportedFrom p (c.toUpper :: cs) :=
      fun p hp => by
        have hstarts : startsLower (c :: cs) = true := hc
        rw [exportedFrom_underscore hp, if_pos hstarts, exportedFrom_of_isLower hc (by decide),
          exportedFrom_toUpper hc]
    have hstarts : startsLower ('_' :: c :: cs) = startsLower (c.toUpper :: cs) :=
      (Char.isLower_toUpper_eq_false c).symm
    have hu' : '.' ∉ u := fun hmem => hdot (List.mem_append_left _ hmem)
    exact exportedFrom_append_congr hstarts hread hu' fun hnil => absurd hnil hu

/-- Respelling puts no dot into a name. -/
theorem dot_not_mem_of_respelling {as bs : List Char} (h : Respelling as bs) (hdot : '.' ∉ as) :
    '.' ∉ bs := by
  have hupper : ∀ {c : Char}, c.isLower = true → '.' ≠ c.toUpper := fun hc heq =>
    toUpper_ne (by decide) (ne_of_isLower (by decide) hc) heq.symm
  cases h with
  | first hc | afterMark hc | afterDigit _ hc | contract _ hc => simp_all
  | mark => simpa using hdot

theorem exportedFrom_start_of_respellings {as bs : List Char} (h : ReflTransGen Respelling as bs)
    (hdot : '.' ∉ as) : '.' ∉ bs ∧ exportedFrom .start as = exportedFrom .start bs := by
  induction h with
  | refl => exact ⟨hdot, rfl⟩
  | tail _ hstep ih =>
    obtain ⟨hbs, heq⟩ := ih
    exact ⟨dot_not_mem_of_respelling hstep hbs,
      heq.trans (exportedFrom_start_of_respelling hstep hbs)⟩

end

/-! ## Respelling leads to the Go name -/

/-- What the reader of names knows at a position, with `u` behind it: it stands at the start of a
name only before the first character, and inside a name, but outside a word, it meets a lower-case
letter only after a digit. -/
structure ReadTo (u : List Char) (p : WordPosition) (cs : List Char) : Prop where
  start_iff : p = .start ↔ u = []
  digit : p = .boundary → startsLower cs = true → ∃ v d, u = v ++ [d] ∧ d.isDigit = true

section

variable {c : Char} {u cs : List Char} {p : WordPosition}

theorem ReadTo.of_word (c : Char) : ReadTo (u ++ [c]) .word cs := ⟨by simp, nofun⟩

theorem ReadTo.of_digit (hc : c.isDigit = true) : ReadTo (u ++ [c]) .boundary cs :=
  ⟨by simp, fun _ _ => ⟨u, c, rfl, hc⟩⟩

theorem ReadTo.of_not_startsLower (hcs : startsLower cs = false) :
    ReadTo (u ++ [c]) .boundary cs :=
  ⟨by simp, fun _ h => absurd h (by simp [hcs])⟩

/-- Where the reader of names raises a letter, the letter can be raised. -/
theorem ReadTo.raise (h : ReadTo u p (c :: cs)) (hp : p ≠ .word) (hc : c.isLower = true) :
    Respelling (u ++ c :: cs) (u ++ c.toUpper :: cs) := by
  cases p with
  | start =>
    obtain rfl : u = [] := h.start_iff.mp rfl
    exact .first hc
  | boundary =>
    obtain ⟨v, d, rfl, hd⟩ := h.digit rfl hc
    rw [List.append_assoc, List.append_assoc]
    exact .afterDigit hd hc
  | word => exact absurd rfl hp

/-- What one step of the reader does: it turns some characters of a name, behind `u`, into others,
which can be done by respelling the name, and goes on with what follows them. -/
structure Reads (u : List Char) (p : WordPosition) (cs : List Char) (out : List Char)
    (q : WordPosition) (rest : List Char) : Prop where
  exported : exportedFrom p cs = out ++ exportedFrom q rest
  respelled : ReflTransGen Respelling (u ++ cs) (u ++ out ++ rest)
  readTo : ReadTo (u ++ out) q rest

theorem exists_of_startsLower (h : startsLower cs = true) :
    ∃ d ds, cs = d :: ds ∧ d.isLower = true := by
  cases cs with
  | nil => cases h
  | cons d ds => exact ⟨d, ds, rfl, h⟩

/-- A step at an underscore takes the lower-case letter behind it as well. -/
theorem ReadTo.exists_reads_underscore (h : ReadTo u p ('_' :: cs)) :
    ∃ out q rest, rest <:+ cs ∧ Reads u p ('_' :: cs) out q rest := by
  cases hstarts : startsLower cs with
  | true =>
    obtain ⟨d, ds, rfl, hd⟩ := exists_of_startsLower hstarts
    have hraised : startsLower (d.toUpper :: ds) = false := Char.isLower_toUpper_eq_false d
    by_cases hp : p = .start
    · obtain rfl : u = [] := h.start_iff.mp hp
      subst hp
      refine ⟨['X', d.toUpper], .word, ds, List.suffix_cons d ds, ?_, ?_, .of_word (u := ['X']) _⟩
      · rw [exportedFrom_start_underscore, exportedFrom_of_isLower hd (by decide)]
        rfl
      · exact .head (.afterMark hd) (.single (.mark hraised))
    · have hu : u ≠ [] := fun hnil => hp (h.start_iff.mpr hnil)
      refine ⟨[d.toUpper], .word, ds, List.suffix_cons d ds, ?_, ?_, .of_word _⟩
      · rw [exportedFrom_underscore hp, if_pos hstarts, exportedFrom_of_isLower hd (by decide)]
        rfl
      · rw [List.append_assoc]
        exact .single (.contract hu hd)
  | false =>
    by_cases hp : p = .start
    · obtain rfl : u = [] := h.start_iff.mp hp
      subst hp
      exact ⟨['X'], .boundary, cs, List.suffix_rfl, exportedFrom_start_underscore,
        .single (.mark hstarts), .of_not_startsLower (u := []) hstarts⟩
    · refine ⟨['_'], .boundary, cs, List.suffix_rfl, ?_, ?_, .of_not_startsLower hstarts⟩
      · rw [exportedFrom_underscore hp, if_neg (by simp [hstarts])]
        rfl
      · rw [List.append_assoc]
        exact .refl

theorem ReadTo.exists_reads (h : ReadTo u p (c :: cs)) (hdot : c ≠ '.') :
    ∃ out q rest, rest <:+ cs ∧ Reads u p (c :: cs) out q rest := by
  by_cases hunderscore : c = '_'
  · subst hunderscore
    exact h.exists_reads_underscore
  by_cases hinside : p = .word ∧ c.isLower = true
  · refine ⟨[c], .word, cs, List.suffix_rfl, ?_, ?_, .of_word c⟩
    · simp [exportedFrom, hinside]
    · rw [List.append_assoc]
      exact .refl
  cases hdigit : c.isDigit with
  | true =>
    refine ⟨[c], .boundary, cs, List.suffix_rfl, exportedFrom_of_isDigit hdigit, ?_,
      .of_digit hdigit⟩
    rw [List.append_assoc]
    exact .refl
  | false =>
    have hword : p = .word → c.isLower = false := by simpa using hinside
    refine ⟨[c.toUpper], .word, cs, List.suffix_rfl,
      exportedFrom_of_wordStart hword hdot hunderscore hdigit, ?_, .of_word _⟩
    rw [List.append_assoc]
    cases hc : c.isLower with
    | true => exact .single (h.raise (fun hp => hinside ⟨hp, hc⟩) hc)
    | false =>
      rw [Char.toUpper_eq_of_not_isLower (by simp [hc])]
      exact .refl

/-- A name can be respelled as it is exported, step by step. -/
theorem respellings_exportedFrom (n : Nat) : ∀ {u p cs}, cs.length ≤ n → '.' ∉ cs →
    ReadTo u p cs → ReflTransGen Respelling (u ++ cs) (u ++ exportedFrom p cs) := by
  -- The induction is on the length of what is left, of which a step may take two characters.
  induction n with
  | zero =>
    intro u p cs hn _ _
    obtain rfl : cs = [] := List.eq_nil_of_length_eq_zero (Nat.le_zero.mp hn)
    exact .refl
  | succ n ih =>
    intro u p cs hn hdot h
    cases cs with
    | nil => exact .refl
    | cons c cs =>
      obtain ⟨hc, hcs⟩ : c ≠ '.' ∧ '.' ∉ cs := by simpa [eq_comm] using hdot
      obtain ⟨out, q, rest, hrest, hreads⟩ := h.exists_reads hc
      have hlength : rest.length ≤ n :=
        hrest.length_le.trans (Nat.le_of_succ_le_succ hn)
      have htail := ih hlength (fun hmem => hcs (hrest.subset hmem)) hreads.readTo
      rw [hreads.exported, ← List.append_assoc]
      exact hreads.respelled.trans htail

end

/-! ## Names with one Go name -/

/-- Names have one Go name exactly if they can be respelled into one. -/
theorem exportedName_eq_iff {a b : String} (ha : '.' ∉ a.toList) (hb : '.' ∉ b.toList) :
    exportedName a = exportedName b ↔ Alike a b := by
  have hreach : ∀ {s : String}, '.' ∉ s.toList →
      ReflTransGen Respelling s.toList (exportedFrom .start s.toList) := fun hs =>
    respellings_exportedFrom (u := []) (p := .start) _ le_rfl hs ⟨by simp, nofun⟩
  rw [exportedName, exportedName, String.ofList_inj]
  constructor
  · intro h
    exact ⟨_, hreach ha, h ▸ hreach hb⟩
  · rintro ⟨cs, hac, hbc⟩
    exact (exportedFrom_start_of_respellings hac ha).2.trans
      (exportedFrom_start_of_respellings hbc hb).2.symm

end GoStubs.Go
