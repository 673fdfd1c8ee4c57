import GoStubs.Go.ExportedName
import GoStubs.Unicode.CharSet
import Mathlib
/-!
# Exported names are settled

The Go name of a name is its own Go name. The reader of names leaves behind no dot, no lower-case
letter where a word starts and no underscore in front of one, and of such a text it changes
nothing.

* `Exported`: the texts that the reader leaves as they are.
* `exportedName_exportedName`: exporting a name twice is exporting it once.
* `isExportedIdentifier_exportedName`: the Go name of an identifier is one that Go exports.
-/

namespace GoStubs.Go

open GoStubs.Unicode

/-! ## Characters -/

theorem isDigit_eq_false_of_isAlpha {c : Char} (h : c.isAlpha = true) : c.isDigit = false := by
  simp only [Char.isAlpha, Char.isDigit, Char.isLower, Char.isUpper, Bool.and_eq_true,
    Bool.or_eq_true, decide_eq_true_eq, ge_iff_le, Bool.and_eq_false_iff, decide_eq_false_iff_not,
    UInt32.le_iff_toNat_le] at h ⊢
  have hnine : '9'.val.toNat = 57 := rfl
  have ha : 'a'.val.toNat = 97 := rfl
  have hA : 'A'.val.toNat = 65 := rfl
  omega

theorem isDigit_eq_false_of_isLower {c : Char} (h : c.isLower = true) : c.isDigit = false :=
  isDigit_eq_false_of_isAlpha (by simp [Char.isAlpha, h])

theorem isLower_eq_false_of_isDigit {c : Char} (h : c.isDigit = true) : c.isLower = false := by
  by_contra hc
  rw [isDigit_eq_false_of_isLower (by simpa using hc)] at h
  exact absurd h (by decide)

/-- Raising a letter makes no character without a case. -/
theorem toUpper_ne {c d : Char} (hd : d.isUpper = false) (h : c ≠ d) : c.toUpper ≠ d := by
  intro heq
  by_cases hc : c.isLower
  · have hupper : c.toUpper.isUpper = true := by simp [Char.isAlpha, hc]
    rw [heq, hd] at hupper
    exact absurd hupper (by decide)
  · exact h (Char.toUpper_eq_of_not_isLower hc ▸ heq)

theorem isDigit_toUpper {c : Char} (h : c.isDigit = false) : c.toUpper.isDigit = false := by
  by_cases hc : c.isLower
  · exact isDigit_eq_false_of_isAlpha (by simp [Char.isAlpha, hc])
  · rwa [Char.toUpper_eq_of_not_isLower hc]

/-! ## Settled texts -/

/-- Where the reader stands after a character that it has kept. -/
def WordPosition.after (c : Char) : WordPosition := if c = '_' || c.isDigit then boundary else word

theorem after_of_isLower {c : Char} (h : c.isLower = true) : WordPosition.after c = .word := by
  have hne : c ≠ '_' := fun hc => absurd h (by rw [hc]; decide)
  rw [WordPosition.after, if_neg (by simp [hne, isDigit_eq_false_of_isLower h])]

/-- Whether the reader leaves a text as it is. -/
def Exported (position : WordPosition) : List Char → Prop
  | [] => True
  | c :: cs =>
    c ≠ '.' ∧ (c.isLower = true → position = .word) ∧
      (c = '_' → position ≠ .start ∧ startsLower cs = false) ∧ Exported (.after c) cs

theorem Exported.underscore {position : WordPosition} {cs : List Char} (hposition : position ≠ .start)
    (hstart : startsLower cs = false) (h : Exported .boundary cs) :
    Exported position ('_' :: cs) :=
  ⟨by decide, fun hlower => absurd hlower (by decide), fun _ => ⟨hposition, hstart⟩, h⟩

theorem Exported.cons {position : WordPosition} {c : Char} {cs : List Char} (hdot : c ≠ '.')
    (hunderscore : c ≠ '_') (hlower : c.isLower = false) (h : Exported (.after c) cs) :
    Exported position (c :: cs) :=
  ⟨hdot, by simp [hlower], fun hc => absurd hc hunderscore, h⟩

/-- A text without anything to change is not changed. -/
theorem exportedFrom_of_exported {cs : List Char} :
    ∀ {position : WordPosition}, Exported position cs → exportedFrom position cs = cs := by
  induction cs with
  | nil => exact fun _ => rfl
  | cons c cs ih =>
    rintro position ⟨hdot, hlower, hunderscore, hrest⟩
    have htail := ih hrest
    rw [exportedFrom]
    by_cases hc : c.isLower = true
    · rw [after_of_isLower hc] at htail
      simpa [hc, hlower hc] using htail
    · by_cases hu : c = '_'
      · subst hu
        obtain ⟨hposition, hstart⟩ := hunderscore rfl
        simpa [hposition, hstart, WordPosition.after] using htail
      · unfold WordPosition.after at htail
        cases hd : c.isDigit with
        | true => simpa [hc, hdot, hu, hd] using htail
        | false =>
          simpa [hc, hdot, hu, hd, Char.toUpper_eq_of_not_isLower hc] using htail

/-! ## What the reader leaves -/

/-- A word never starts in lower case. -/
theorem startsLower_exportedFrom (cs : List Char) :
    ∀ {position : WordPosition}, position ≠ .word →
      startsLower (exportedFrom position cs) = false := by
  induction cs with
  | nil => exact fun _ => rfl
  | cons c cs ih =>
    intro position hposition
    rw [exportedFrom, if_neg (by simp [hposition])]
    split
    · split
      · exact ih (by decide)
      · rfl
    · split
      · split
        · rfl
        · split
          · exact ih (by decide)
          · rfl
      · split
        · exact isLower_eq_false_of_isDigit ‹_›
        · exact Char.isLower_toUpper_eq_false c

/-- The reader leaves a text that it would not change, wherever it stands when it reads the text
again: only the start of a name counts, where an underscore is lost, and the inside of a word,
where a lower-case letter is not raised. -/
theorem exported_exportedFrom (cs : List Char) :
    ∀ {position again : WordPosition}, (position = .word → again = .word) →
      (again = .start → position = .start ∧ cs.head? ≠ some '.') →
      Exported again (exportedFrom position cs) := by
  induction cs with
  | nil => exact fun _ _ => trivial
  | cons c cs ih =>
    intro position again hword hstart
    rw [exportedFrom]
    split
    case isTrue hinside =>
      -- A lower-case letter inside a word stays, and so does the reader in the word.
      obtain ⟨hposition, hc⟩ : position = .word ∧ c.isLower = true := by simpa using hinside
      have hagain : again = .word := hword hposition
      have hne : c ≠ '_' := fun h => absurd hc (by rw [h]; decide)
      have hdot : c ≠ '.' := fun h => absurd hc (by rw [h]; decide)
      refine ⟨hdot, fun _ => hagain, fun h => absurd h hne, ?_⟩
      exact ih (fun _ => after_of_isLower hc) fun h => absurd (after_of_isLower hc) (by simp [h])
    case isFalse =>
      split
      case isTrue hdot =>
        -- A dot is dropped before a lower-case letter, which is raised next, or else it becomes an
        -- underscore.
        have hagain : again ≠ .start := fun h => (hstart h).2 (by simp [hdot])
        split
        · exact ih nofun fun h => absurd h hagain
        · exact .underscore hagain (startsLower_exportedFrom cs nofun) (ih nofun nofun)
      case isFalse hdot =>
        split
        case isTrue =>
          -- An underscore becomes `X` where a name starts, and is dropped before a lower-case letter.
          split
          · exact .cons (by decide) (by decide) (by decide) (ih nofun nofun)
          case isFalse hposition =>
            have hagain : again ≠ .start := fun h => hposition (hstart h).1
            split
            · exact ih nofun fun h => absurd h hagain
            · exact .underscore hagain (startsLower_exportedFrom cs nofun) (ih nofun nofun)
        case isFalse hunderscore =>
          split
          case isTrue hdigit =>
            have hafter : WordPosition.after c = .boundary := if_pos (by simp [hdigit])
            refine .cons hdot hunderscore (isLower_eq_false_of_isDigit hdigit) ?_
            exact ih nofun fun h => absurd (hafter ▸ h) nofun
          case isFalse hdigit =>
            have hupper : c.toUpper ≠ '_' := toUpper_ne (by decide) hunderscore
            have hnodigit := isDigit_toUpper (by simpa using hdigit)
            have hafter : WordPosition.after c.toUpper = .word :=
              if_neg (by simp [hupper, hnodigit])
            refine .cons (toUpper_ne (by decide) hdot) hupper (Char.isLower_toUpper_eq_false c) ?_
            exact ih (fun _ => hafter) fun h => absurd (hafter ▸ h) nofun

/-- A name that does not start with a dot is exported only once. -/
theorem exportedName_exportedName {name : String} (h : name.toList.head? ≠ some '.') :
    exportedName (exportedName name) = exportedName name := by
  have hexported : Exported .start (exportedFrom .start name.toList) :=
    exported_exportedFrom name.toList (by decide) fun _ => ⟨rfl, h⟩
  rw [exportedName, exportedName, String.toList_ofList, exportedFrom_of_exported hexported]

/-! ## Identifiers -/

/-- Whether a name is an identifier of a description: a letter or an underscore, and then letters,
digits and underscores. -/
def isProtoIdentifier (name : String) : Bool :=
  match name.toList with
  | [] => false
  | c :: cs => (c.isAlpha || c = '_') && cs.all fun d => d.isAlphanum || d = '_'

theorem dot_not_mem_of_isProtoIdentifier {name : String} (h : isProtoIdentifier name = true) :
    '.' ∉ name.toList := by
  unfold isProtoIdentifier at h
  cases hcs : name.toList with
  | nil => exact List.not_mem_nil
  | cons c cs =>
    simp only [hcs, Bool.and_eq_true, List.all_eq_true] at h
    intro hdot
    rcases List.mem_cons.mp hdot with rfl | hdot
    · exact absurd h.1 (by decide)
    · exact absurd (h.2 _ hdot) (by decide)

theorem head?_ne_dot_of_isProtoIdentifier {name : String} (h : isProtoIdentifier name = true) :
    name.toList.head? ≠ some '.' := fun hdot =>
  dot_not_mem_of_isProtoIdentifier h (List.mem_of_head? hdot)

/-- Whether a character can stand in an identifier of a description. -/
def isNameChar (c : Char) : Bool := c.isAlphanum || c = '_'

theorem isAscii_of_isNameChar {c : Char} (h : isNameChar c = true) : isAscii c = true := by
  simp only [isNameChar, Char.isAlphanum, Char.isAlpha, Char.isDigit, Char.isLower, Char.isUpper,
    Bool.and_eq_true, Bool.or_eq_true, decide_eq_true_eq, ge_iff_le, UInt32.le_iff_toNat_le] at h
  rw [isAscii, decide_eq_true_eq]
  have hnine : '9'.val.toNat = 57 := rfl
  have hz : 'z'.val.toNat = 122 := rfl
  have hZ : 'Z'.val.toNat = 90 := rfl
  have hval : c.toNat = c.val.toNat := rfl
  rcases h with h | rfl
  · omega
  · decide

theorem isNameChar_toUpper {c : Char} (h : isNameChar c = true) : isNameChar c.toUpper = true := by
  by_cases hc : c.isLower = true
  · simp [isNameChar, Char.isAlphanum, Char.isAlpha, hc]
  · rwa [Char.toUpper_eq_of_not_isLower hc]

/-- The reader puts nothing but such characters into a dotted name of them. -/
theorem isNameChar_of_mem_exportedFrom (cs : List Char) :
    ∀ {position : WordPosition}, (∀ c ∈ cs, isNameChar c = true ∨ c = '.') →
      ∀ d ∈ exportedFrom position cs, isNameChar d = true := by
  induction cs with
  | nil => simp [exportedFrom]
  | cons c cs ih =>
    intro position h
    obtain ⟨hc, hcs⟩ := List.forall_mem_cons.mp h
    have hdropped : ∀ {p}, ∀ d ∈ exportedFrom p cs, isNameChar d = true := ih hcs
    have hkept : ∀ {x p}, isNameChar x = true →
        ∀ d ∈ x :: exportedFrom p cs, isNameChar d = true := fun hx =>
      List.forall_mem_cons.mpr ⟨hx, hdropped⟩
    have hunderscore : isNameChar '_' = true := by decide
    rw [exportedFrom]
    split
    case isTrue hinside =>
      have hlower : c.isLower = true := (Bool.and_eq_true_iff.mp hinside).2
      exact hkept (hc.resolve_right fun hdot => absurd hlower (by rw [hdot]; decide))
    case isFalse =>
      split
      case isTrue =>
        split
        · exact hdropped
        · exact hkept hunderscore
      case isFalse hdot =>
        have hname := hc.resolve_right hdot
        split
        case isTrue =>
          split
          · exact hkept (by decide)
          · split
            · exact hdropped
            · exact hkept hunderscore
        case isFalse =>
          split
          · exact hkept hname
          · exact hkept (isNameChar_toUpper hname)

/-- Whether a name is an identifier that Go exports: an upper-case letter, and then letters, digits
and underscores. -/
def isExportedIdentifier (name : String) : Bool :=
  match name.toList with
  | [] => false
  | c :: cs => c.isUpper && cs.all isNameChar

theorem isExportedIdentifier_iff {name : String} : isExportedIdentifier name = true ↔
    ∃ c cs, name.toList = c :: cs ∧ c.isUpper = true ∧ ∀ d ∈ cs, isNameChar d = true := by
  unfold isExportedIdentifier
  cases name.toList with
  | nil => simp
  | cons c cs => simp

/-- The Go name of an identifier is an exported one. -/
theorem isExportedIdentifier_exportedName {name : String} (h : isProtoIdentifier name = true) :
    isExportedIdentifier (exportedName name) = true := by
  unfold isProtoIdentifier at h
  cases hcs : name.toList with
  | nil => simp [hcs] at h
  | cons c cs =>
    simp only [hcs, Bool.and_eq_true, Bool.or_eq_true, decide_eq_true_eq, List.all_eq_true] at h
    obtain ⟨hfirst, hrest⟩ := h
    have htail : ∀ {p}, ∀ d ∈ exportedFrom p cs, isNameChar d = true :=
      isNameChar_of_mem_exportedFrom cs fun d hd =>
        Or.inl (by simpa [isNameChar] using hrest d hd)
    refine isExportedIdentifier_iff.mpr ?_
    rw [exportedName, String.toList_ofList, hcs, exportedFrom, if_neg (by simp)]
    rcases hfirst with hletter | rfl
    · have hdot : c ≠ '.' := fun hdot => absurd hletter (by rw [hdot]; decide)
      have hunderscore : c ≠ '_' := fun hu => absurd hletter (by rw [hu]; decide)
      rw [if_neg hdot, if_neg hunderscore, isDigit_eq_false_of_isAlpha hletter]
      exact ⟨c.toUpper, _, rfl, by simp [hletter], htail⟩
    · exact ⟨'X', _, rfl, by decide, htail⟩

end GoStubs.Go
