import GoStubs.Go.ExportedBytes
import GoStubs.Proofs.Go.Respelling
import GoStubs.Unicode.CharSet
/-!
# Exporting a name by its bytes

What the bytes of a name are turned into are the bytes of its Go name. The reader of bytes decides by
ASCII bytes alone, and no byte of another character is one: such a character is read as the start of a
word, byte by byte, and passes as it is. So what comes out is a text again, whatever would be done with
bytes that are none, and the characters beyond ASCII in it are those of the name.

* `Agrees`: the two readers on the rest of a name, outside of words and inside.
* `agrees`: they agree, by one step for each character.
* `exportedBytes_intact`: exporting a name damages no text.
-/

namespace GoStubs.Go

open GoStubs.Unicode GoStubs.Wire

/-! ## Characters as bytes -/

/-- The bytes of characters. -/
def charBytes (cs : List Char) : List UInt8 := cs.flatMap String.utf8EncodeChar

theorem utf8Bytes_eq (s : String) : utf8Bytes s = charBytes s.toList := by
  rw [utf8Bytes, String.toUTF8_eq_toByteArray, ← String.utf8Encode_toList, List.utf8Encode,
    List.toList_data_toByteArray, charBytes]

section

variable {c : Char} {cs : List Char} {b : UInt8} {bs us : List UInt8}

theorem charBytes_cons (c : Char) (cs : List Char) :
    charBytes (c :: cs) = String.utf8EncodeChar c ++ charBytes cs :=
  List.flatMap_cons

theorem charBytes_cons_of_isAscii (h : isAscii c = true) (cs : List Char) :
    charBytes (c :: cs) = c.toUInt8 :: charBytes cs := by
  have hsize : c.utf8Size = 1 := by
    rw [Char.utf8Size_eq_one_iff, UInt32.le_iff_toNat_le]
    have hlt : c.val.toNat < 128 := by simpa [isAscii] using h
    exact Nat.le_of_lt_succ hlt
  rw [charBytes_cons, String.utf8EncodeChar_eq_singleton hsize, Char.toUInt8_val]
  rfl

/-- Whether a byte is none of an ASCII character. -/
def IsHigh (b : UInt8) : Prop := 128 ≤ b.toNat

theorem isHigh_of_mem_utf8EncodeChar (h : isAscii c = false) :
    ∀ b ∈ String.utf8EncodeChar c, IsHigh b := by
  have hle : ¬ c.val.toNat ≤ 127 := by
    have hlt : ¬ c.val.toNat < 128 := by simpa [isAscii] using h
    omega
  unfold String.utf8EncodeChar IsHigh
  simp only [if_neg hle]
  split_ifs <;> simp only [List.forall_mem_cons, List.not_mem_nil, UInt8.toNat_ofNat',
    false_imp_iff, implies_true, and_true] <;> omega

theorem IsHigh.not_le (h : IsHigh b) {d : Char} (hd : isAscii d = true) : ¬ b ≤ d.toUInt8 := by
  have hlt : d.toUInt8.toNat < 128 :=
    of_isAscii (p := fun d => d.toUInt8.toNat < 128) (by decide +kernel) hd
  intro hle
  exact Nat.not_le_of_lt hlt (le_trans h (UInt8.le_iff_toNat_le.mp hle))

theorem IsHigh.ne (h : IsHigh b) {d : Char} (hd : isAscii d = true) : b ≠ d.toUInt8 := by
  intro heq
  exact h.not_le hd (UInt8.le_of_eq heq)

theorem IsHigh.isLowerByte (h : IsHigh b) : isLowerByte b = false := by
  rw [Go.isLowerByte, decide_eq_false (h.not_le (d := 'z') rfl), Bool.and_false]

theorem IsHigh.isDigitByte (h : IsHigh b) : isDigitByte b = false := by
  rw [Go.isDigitByte, decide_eq_false (h.not_le (d := '9') rfl), Bool.and_false]

theorem toUInt8_inj {d : Char} (hc : isAscii c = true) (hd : isAscii d = true) :
    c.toUInt8 = d.toUInt8 ↔ c = d := by
  have hnat : ∀ {e : Char}, isAscii e = true → e.toUInt8.toNat = e.toNat := fun he =>
    of_isAscii (p := fun e => e.toUInt8.toNat = e.toNat) (by decide +kernel) he
  rw [← UInt8.toNat_inj, hnat hc, hnat hd, Char.toNat_inj]

theorem isLowerByte_toUInt8 (h : isAscii c = true) : isLowerByte c.toUInt8 = c.isLower :=
  of_isAscii (p := fun c => isLowerByte c.toUInt8 = c.isLower) (by decide +kernel) h

theorem isDigitByte_toUInt8 (h : isAscii c = true) : isDigitByte c.toUInt8 = c.isDigit :=
  of_isAscii (p := fun c => isDigitByte c.toUInt8 = c.isDigit) (by decide +kernel) h

theorem upperByte_toUInt8 (h : isAscii c = true) : upperByte c.toUInt8 = c.toUpper.toUInt8 :=
  of_isAscii (p := fun c => upperByte c.toUInt8 = c.toUpper.toUInt8) (by decide +kernel) h

theorem isAscii_toUpper (h : isAscii c = true) : isAscii c.toUpper = true :=
  of_isAscii (p := fun c => isAscii c.toUpper = true) (by decide +kernel) h

/-! ## Characters beyond ASCII -/

theorem ne_of_isAscii_eq_false (h : isAscii c = false) {d : Char} (hd : isAscii d = true) : c ≠ d :=
  fun heq => absurd (heq ▸ hd) (by simp [h])

/-- No letter beyond ASCII has a case, and no digit counts as one. -/
theorem isAlphanum_eq_false_of_isAscii_eq_false (h : isAscii c = false) : c.isAlphanum = false := by
  rw [Bool.eq_false_iff]
  intro hc
  rw [isAscii_of_isNameChar (by simp [isNameChar, hc])] at h
  cases h

theorem isLower_eq_false_of_isAscii_eq_false (h : isAscii c = false) : c.isLower = false := by
  have hname := isAlphanum_eq_false_of_isAscii_eq_false h
  simp only [Char.isAlphanum, Char.isAlpha, Bool.or_eq_false_iff] at hname
  exact hname.1.2

/-- A character beyond ASCII is kept, as the start of a word. -/
theorem exportedFrom_of_isAscii_eq_false (h : isAscii c = false) (p : WordPosition) :
    exportedFrom p (c :: cs) = c :: exportedFrom .word cs := by
  have hlower := isLower_eq_false_of_isAscii_eq_false h
  have hdigit : c.isDigit = false :=
    (Bool.or_eq_false_iff.mp (isAlphanum_eq_false_of_isAscii_eq_false h)).2
  rw [exportedFrom_of_wordStart (fun _ => hlower) (ne_of_isAscii_eq_false h (by decide))
    (ne_of_isAscii_eq_false h (by decide)) hdigit,
    Char.toUpper_eq_of_not_isLower (by simp [hlower])]

theorem startsLowerByte_append (hus : us ≠ []) (h : ∀ b ∈ us, IsHigh b) :
    startsLowerByte (us ++ bs) = false := by
  cases us with
  | nil => exact absurd rfl hus
  | cons u us => exact (h u List.mem_cons_self).isLowerByte

theorem utf8EncodeChar_ne_nil (c : Char) : String.utf8EncodeChar c ≠ [] := by
  rw [← List.length_pos_iff, String.length_utf8EncodeChar]
  exact c.utf8Size_pos

theorem startsLowerByte_charBytes (cs : List Char) :
    startsLowerByte (charBytes cs) = startsLower cs := by
  cases cs with
  | nil => rfl
  | cons c cs =>
    cases h : isAscii c with
    | true =>
      rw [charBytes_cons_of_isAscii h]
      exact isLowerByte_toUInt8 h
    | false =>
      rw [charBytes_cons, startsLowerByte_append (utf8EncodeChar_ne_nil c)
        (isHigh_of_mem_utf8EncodeChar h)]
      exact (isLower_eq_false_of_isAscii_eq_false h).symm

/-! ## The reader of bytes -/

/-- What is made of the bytes that follow a byte in a word. -/
def wordBytes (b : UInt8) (bs : List UInt8) : List UInt8 :=
  bs.takeWhile isLowerByte ++
    exportedBytesFrom (b :: bs.takeWhile isLowerByte).getLast? (bs.dropWhile isLowerByte)

theorem wordBytes_cons {d : UInt8} (hd : isLowerByte d = true) :
    wordBytes b (d :: bs) = d :: wordBytes d bs := by
  rw [wordBytes, List.takeWhile_cons_of_pos hd, List.dropWhile_cons_of_pos hd,
    List.getLast?_cons_cons, List.cons_append, wordBytes]

theorem wordBytes_of_not_startsLowerByte (h : startsLowerByte bs = false) :
    wordBytes b bs = exportedBytesFrom (some b) bs := by
  cases bs with
  | nil => rfl
  | cons d ds =>
    have hd : ¬ isLowerByte d = true := by simpa [startsLowerByte] using h
    rw [wordBytes, List.takeWhile_cons_of_neg hd, List.dropWhile_cons_of_neg hd, List.nil_append,
      List.getLast?_singleton]

section

variable {before : Option UInt8}

theorem exportedBytesFrom_dot (before : Option UInt8) (bs : List UInt8) :
    exportedBytesFrom before ('.'.toUInt8 :: bs) =
      if startsLowerByte bs then exportedBytesFrom (some '.'.toUInt8) bs
      else '_'.toUInt8 :: exportedBytesFrom (some '.'.toUInt8) bs := by
  rw [exportedBytesFrom]
  simp

theorem exportedBytesFrom_underscore_start (h : before = none ∨ before = some '.'.toUInt8) :
    exportedBytesFrom before ('_'.toUInt8 :: bs) =
      'X'.toUInt8 :: exportedBytesFrom (some '_'.toUInt8) bs := by
  have hdot : ¬ '_'.toUInt8 = '.'.toUInt8 := by decide
  rw [exportedBytesFrom, if_neg (fun hb => hdot hb.1), if_neg hdot, if_pos ⟨rfl, h⟩]

/-- A byte that is read in no other way starts a word. -/
theorem exportedBytesFrom_word (hdot : b ≠ '.'.toUInt8) (hdigit : isDigitByte b = false)
    (hunderscore : b = '_'.toUInt8 →
      ¬ (before = none ∨ before = some '.'.toUInt8) ∧ startsLowerByte bs = false) :
    exportedBytesFrom before (b :: bs) = upperByte b :: wordBytes b bs := by
  rw [exportedBytesFrom, if_neg (fun h => hdot h.1), if_neg hdot,
    if_neg (fun h => (hunderscore h.1).1 h.2), if_neg (fun h => by simp [hunderscore h.1] at h),
    if_neg (by simp [hdigit])]
  rfl

theorem exportedBytesFrom_underscore (h : ¬ (before = none ∨ before = some '.'.toUInt8)) :
    exportedBytesFrom before ('_'.toUInt8 :: bs) =
      if startsLowerByte bs then exportedBytesFrom (some '_'.toUInt8) bs
      else '_'.toUInt8 :: exportedBytesFrom (some '_'.toUInt8) bs := by
  have hdot : ¬ '_'.toUInt8 = '.'.toUInt8 := by decide
  cases hbs : startsLowerByte bs with
  | true =>
    rw [exportedBytesFrom, if_neg (fun hb => hdot hb.1), if_neg hdot, if_neg (fun hb => h hb.2),
      if_pos ⟨rfl, hbs⟩]
    rfl
  | false =>
    -- The underscore is read as the start of a word, with which no letter goes on.
    rw [exportedBytesFrom_word hdot (by decide) (fun _ => ⟨h, hbs⟩),
      wordBytes_of_not_startsLowerByte hbs]
    rfl

theorem exportedBytesFrom_of_isDigitByte (h : isDigitByte b = true) :
    exportedBytesFrom before (b :: bs) = b :: exportedBytesFrom (some b) bs := by
  have hdot : b ≠ '.'.toUInt8 := by
    rintro rfl
    exact absurd h (by decide)
  have hunderscore : b ≠ '_'.toUInt8 := by
    rintro rfl
    exact absurd h (by decide)
  rw [exportedBytesFrom, if_neg (fun h => hdot h.1), if_neg hdot, if_neg (fun h => hunderscore h.1),
    if_neg (fun h => hunderscore h.1), if_pos h]

theorem exportedBytesFrom_of_isHigh (h : IsHigh b) :
    exportedBytesFrom before (b :: bs) = b :: wordBytes b bs := by
  rw [exportedBytesFrom_word (h.ne (by decide)) h.isDigitByte
    (fun hb => absurd hb (h.ne (by decide))), upperByte, h.isLowerByte]
  rfl

/-- The bytes of a character beyond ASCII are kept, and the reader is in a word behind them. -/
theorem exists_exportedBytesFrom_append (bs : List UInt8) (hus : us ≠ []) (h : ∀ b ∈ us, IsHigh b) :
    ∀ before, ∃ b, IsHigh b ∧ exportedBytesFrom before (us ++ bs) = us ++ wordBytes b bs := by
  induction us with
  | nil => exact absurd rfl hus
  | cons u us ih =>
    intro before
    obtain ⟨hu, hrest⟩ := List.forall_mem_cons.mp h
    rw [List.cons_append, exportedBytesFrom_of_isHigh hu]
    by_cases hnil : us = []
    · subst hnil
      exact ⟨u, hu, rfl⟩
    · obtain ⟨b, hb, heq⟩ := ih hnil hrest (some u)
      refine ⟨b, hb, ?_⟩
      rw [wordBytes_of_not_startsLowerByte (startsLowerByte_append hnil hrest), heq,
        List.cons_append]

end

end

/-! ## Both readers -/

/-- Whether the reader of names stands at the start of a part where the reader of bytes does. -/
def Stands (p : WordPosition) (before : Option UInt8) : Prop :=
  p = .start ↔ before = none ∨ before = some '.'.toUInt8

theorem stands_boundary {b : UInt8} (h : b ≠ '.'.toUInt8) : Stands .boundary (some b) :=
  iff_of_false (by decide) (by simpa using h)

/-- Whether both readers make the same of characters, outside of words and inside. -/
structure Agrees (cs : List Char) : Prop where
  outside : ∀ {p before}, p ≠ .word → Stands p before →
    exportedBytesFrom before (charBytes cs) = charBytes (exportedFrom p cs)
  inside : ∀ {b}, b ≠ '.'.toUInt8 → wordBytes b (charBytes cs) = charBytes (exportedFrom .word cs)

section

variable {c : Char} {cs : List Char} {p : WordPosition} {before : Option UInt8}

theorem Agrees.outside_dot (h : Agrees cs) :
    exportedBytesFrom before (charBytes ('.' :: cs)) = charBytes (exportedFrom p ('.' :: cs)) := by
  have hrest : exportedBytesFrom (some '.'.toUInt8) (charBytes cs) =
      charBytes (exportedFrom .start cs) :=
    h.outside (by decide) (iff_of_true rfl (Or.inr rfl))
  rw [charBytes_cons_of_isAscii rfl, exportedBytesFrom_dot, startsLowerByte_charBytes, hrest,
    exportedFrom_dot]
  split
  · rfl
  · rw [charBytes_cons_of_isAscii rfl]

theorem Agrees.outside_underscore (h : Agrees cs) (hp : p ≠ .word) (hstands : Stands p before) :
    exportedBytesFrom before (charBytes ('_' :: cs)) = charBytes (exportedFrom p ('_' :: cs)) := by
  have hrest : exportedBytesFrom (some '_'.toUInt8) (charBytes cs) =
      charBytes (exportedFrom .boundary cs) :=
    h.outside (by decide) (stands_boundary (by decide))
  rw [charBytes_cons_of_isAscii rfl]
  by_cases hstart : p = .start
  · subst hstart
    rw [exportedBytesFrom_underscore_start (hstands.mp rfl), hrest, exportedFrom_start_underscore,
      charBytes_cons_of_isAscii rfl]
  · rw [exportedBytesFrom_underscore (fun hb => hstart (hstands.mpr hb)),
      startsLowerByte_charBytes, hrest, exportedFrom_underscore hstart]
    split
    · rfl
    · rw [charBytes_cons_of_isAscii rfl]

/-- Both readers make the same of the other ASCII characters. -/
theorem Agrees.outside_of_isAscii (h : Agrees cs) (hp : p ≠ .word) (hc : isAscii c = true)
    (hdot : c ≠ '.') (hunderscore : c ≠ '_') :
    exportedBytesFrom before (charBytes (c :: cs)) = charBytes (exportedFrom p (c :: cs)) := by
  have hne : ∀ {d : Char}, isAscii d = true → c ≠ d → c.toUInt8 ≠ d.toUInt8 := fun hd hcd heq =>
    hcd ((toUInt8_inj hc hd).mp heq)
  have hdot' := hne (by decide) hdot
  rw [charBytes_cons_of_isAscii hc]
  cases hdigit : c.isDigit with
  | true =>
    rw [exportedBytesFrom_of_isDigitByte (by rw [isDigitByte_toUInt8 hc, hdigit]),
      h.outside (p := .boundary) (by decide) (stands_boundary hdot'),
      exportedFrom_of_isDigit hdigit, charBytes_cons_of_isAscii hc]
  | false =>
    rw [exportedBytesFrom_word hdot' (by rw [isDigitByte_toUInt8 hc, hdigit])
        (fun heq => absurd heq (hne (by decide) hunderscore)),
      upperByte_toUInt8 hc, h.inside hdot',
      exportedFrom_of_wordStart (fun hword => absurd hword hp) hdot hunderscore hdigit,
      charBytes_cons_of_isAscii (isAscii_toUpper hc)]

theorem Agrees.outside_of_isAscii_eq_false (h : Agrees cs) (hc : isAscii c = false) :
    exportedBytesFrom before (charBytes (c :: cs)) = charBytes (exportedFrom p (c :: cs)) := by
  obtain ⟨b, hb, heq⟩ := exists_exportedBytesFrom_append (charBytes cs) (utf8EncodeChar_ne_nil c)
    (isHigh_of_mem_utf8EncodeChar hc) before
  rw [charBytes_cons, heq, h.inside (hb.ne (by decide)), exportedFrom_of_isAscii_eq_false hc,
    charBytes_cons]

theorem Agrees.outside_cons (h : Agrees cs) (hp : p ≠ .word) (hstands : Stands p before) :
    exportedBytesFrom before (charBytes (c :: cs)) = charBytes (exportedFrom p (c :: cs)) := by
  cases hc : isAscii c with
  | false => exact h.outside_of_isAscii_eq_false hc
  | true =>
    by_cases hdot : c = '.'
    · subst hdot
      exact h.outside_dot
    by_cases hunderscore : c = '_'
    · subst hunderscore
      exact h.outside_underscore hp hstands
    exact h.outside_of_isAscii hp hc hdot hunderscore

/-- In a word both readers keep the lower-case letters, and no other character is different there from
what it is behind a word. -/
theorem Agrees.cons (h : Agrees cs) (c : Char) : Agrees (c :: cs) where
  outside hp hstands := h.outside_cons hp hstands
  inside {b} hb := by
    cases hlower : c.isLower with
    | true =>
      have hc : isAscii c = true :=
        isAscii_of_isNameChar (by simp [isNameChar, Char.isAlphanum, Char.isAlpha, hlower])
      have hne : c.toUInt8 ≠ '.'.toUInt8 := fun heq =>
        ne_of_isLower (by decide) hlower ((toUInt8_inj hc (by decide)).mp heq)
      have hword : exportedFrom .word (c :: cs) = c :: exportedFrom .word cs := by
        simp [exportedFrom, hlower]
      rw [charBytes_cons_of_isAscii hc, wordBytes_cons (by rw [isLowerByte_toUInt8 hc, hlower]),
        h.inside hne, hword, charBytes_cons_of_isAscii hc]
    | false =>
      have hstarts : startsLower (c :: cs) = false := hlower
      rw [wordBytes_of_not_startsLowerByte (by rw [startsLowerByte_charBytes, hstarts]),
        exportedFrom_word_eq hstarts]
      exact h.outside_cons (by decide) (stands_boundary hb)

end

theorem agrees (cs : List Char) : Agrees cs := by
  induction cs with
  | nil =>
    have hnil : ∀ before, exportedBytesFrom before [] = [] := fun _ => by rw [exportedBytesFrom]
    exact ⟨fun _ _ => hnil _, fun _ => hnil _⟩
  | cons c cs ih => exact ih.cons c

/-! ## Exported names -/

/-- The characters beyond ASCII. -/
def beyondAscii (cs : List Char) : List Char := cs.filter fun c => !isAscii c

/-- No character beyond ASCII is lost in a name or comes into it. -/
theorem beyondAscii_exportedFrom (cs : List Char) : ∀ p : WordPosition,
    beyondAscii (exportedFrom p cs) = beyondAscii cs := by
  induction cs with
  | nil => exact fun _ => rfl
  | cons c cs ih =>
    intro p
    cases hc : isAscii c with
    | false =>
      rw [exportedFrom_of_isAscii_eq_false hc, beyondAscii, List.filter_cons_of_pos (by simp [hc]),
        beyondAscii, List.filter_cons_of_pos (by simp [hc])]
      exact congrArg _ (ih .word)
    | true =>
      -- Whatever becomes of an ASCII character, it is one or none.
      have hdrop : ∀ {d : Char} {ds : List Char}, isAscii d = true →
          beyondAscii (d :: ds) = beyondAscii ds := fun hd =>
        List.filter_cons_of_neg (by simp [hd])
      have hmark : isAscii '_' = true := rfl
      have hfirst : isAscii 'X' = true := rfl
      have hupper := isAscii_toUpper hc
      rw [hdrop hc, exportedFrom]
      split_ifs <;> simp only [hdrop hc, hdrop hmark, hdrop hfirst, hdrop hupper, ih]

theorem exportedBytes_utf8Bytes (name : String) :
    exportedBytes (utf8Bytes name) = utf8Bytes (exportedName name) := by
  rw [exportedBytes, utf8Bytes_eq, utf8Bytes_eq, exportedName, String.toList_ofList]
  exact (agrees name.toList).outside (by decide) (iff_of_true rfl (Or.inl rfl))

theorem exportedText_eq (repair : List UInt8 → String) (name : String) :
    exportedText repair name = exportedName name := by
  rw [exportedText, exportedBytes_utf8Bytes, utf8Text?_utf8Bytes]
  rfl

/-- Whether exporting a name by its bytes damages no text. -/
structure Intact (name : String) : Prop where
  /-- The bytes that are left are those of a text. -/
  isValidUTF8 : ByteArray.IsValidUTF8 ⟨(exportedBytes (utf8Bytes name)).toArray⟩
  /-- They can be read, so that there is nothing to repair. -/
  read : utf8Text? (exportedBytes (utf8Bytes name)) = some (exportedName name)
  exported : ∀ repair, exportedText repair name = exportedName name
  /-- The characters beyond ASCII stay, in their order. -/
  beyondAscii : ∀ repair, beyondAscii (exportedText repair name).toList = beyondAscii name.toList

/-- **Intact texts.** The bytes of every name become the bytes of its Go name, with all characters
beyond ASCII in them. -/
theorem exportedBytes_intact (name : String) : Intact name where
  isValidUTF8 := by
    rw [exportedBytes_utf8Bytes, toArray_utf8Bytes]
    exact (exportedName name).isValidUTF8
  read := by rw [exportedBytes_utf8Bytes, utf8Text?_utf8Bytes]
  exported repair := exportedText_eq repair name
  beyondAscii repair := by
    rw [exportedText_eq, exportedName, String.toList_ofList]
    exact beyondAscii_exportedFrom name.toList .start

/-- A character of two bytes between two dots, and one at the end of a word. -/
example : exportedText (fun _ => "") "straße.é._x" = "Straße_é_XX" := by
  decide +kernel

end GoStubs.Go
