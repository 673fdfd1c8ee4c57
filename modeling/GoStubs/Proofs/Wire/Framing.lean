import GoStubs.Proofs.Wire.Reading
import GoStubs.Wire.Decode
/-!
# What records look like

The records of a message, as a grammar of its bytes: a key and a value, of one of four kinds, or a
group, which is a key that opens it, any records, and a key of the same number that closes it. The
reader keeps a stack of the open groups instead; it accepts exactly what the grammar describes, and
sees in it the same records. That no record can be mistaken for the beginning of another one
follows: bytes are records in at most one way, and of their beginnings only those are records that
end where a record ends.

* `Framed`: bytes as a sequence of records.
* `records_eq_some_iff`: the reader follows the grammar.
* `Framed.records_append`: the records of two byte strings, one after the other.
* `IsSplit`: the byte strings of the records, one by one; there is only one way to split bytes so.
* `IsSplit.framed_iff`: which beginnings of a sequence of records are such sequences themselves.
-/

namespace GoStubs.Wire

/-! ## The grammar -/

/-- The bytes of a number, from the first to the last. -/
def IsVarint (n : Nat) (bytes : List UInt8) : Prop := readVarint bytes = some (n, [])

/-- The bytes of a key, from the first to the last. -/
def IsKey (number wireType : Nat) (bytes : List UInt8) : Prop :=
  readKey bytes = some ((number, wireType), [])

/-- The bytes of a value without groups, and the way in which its key announces it. -/
inductive IsValue : (wireType : Nat) → Payload → List UInt8 → Prop where
  | varint {n : Nat} {bytes : List UInt8} (h : IsVarint n bytes) : IsValue 0 (.varint n) bytes
  | fixed64 {bytes : List UInt8} (h : bytes.length = 8) : IsValue 1 (.fixed64 bytes) bytes
  | delimited {content length : List UInt8} (h : IsVarint content.length length) :
      IsValue 2 (.delimited content) (length ++ content)
  | fixed32 {bytes : List UInt8} (h : bytes.length = 4) : IsValue 5 (.fixed32 bytes) bytes

/-- How many levels of nesting a reader goes through to skip records. -/
def levels : List Record → Nat
  | [] => 0
  | r :: rs => max r.payload.height (levels rs)

/-- Bytes as records, one after the other. -/
inductive Framed : List Record → List UInt8 → Prop where
  | nil : Framed [] []
  /-- A key and its value. -/
  | plain {number wireType : Nat} {payload : Payload} {key value : List UInt8}
      {rs : List Record} {rest : List UInt8} (hkey : IsKey number wireType key)
      (hvalue : IsValue wireType payload value) (hrest : Framed rs rest) :
      Framed (⟨number, payload⟩ :: rs) (key ++ value ++ rest)
  /-- Records between two keys of one number. -/
  | group {number : Nat} {start body stop : List UInt8} {inner rs : List Record}
      {rest : List UInt8} (hstart : IsKey number 3 start) (hbody : Framed inner body)
      (hstop : IsKey number 4 stop) (hrest : Framed rs rest) :
      Framed (⟨number, .group (levels inner + 1)⟩ :: rs) (start ++ body ++ stop ++ rest)

@[simp] theorem levels_nil : levels [] = 0 := rfl

@[simp] theorem levels_cons (r : Record) (rs : List Record) :
    levels (r :: rs) = max r.payload.height (levels rs) := rfl

section

variable {bytes rest key value : List UInt8} {number wireType : Nat} {payload : Payload}
variable {t : Token} {rs ss : List Record}

/-! ## Tokens of the grammar -/

theorem ReadsFront.eq_append {α : Type} {read : List UInt8 → Option (α × List UInt8)}
    (hread : ReadsFront read) {value : α} (h : read bytes = some (value, rest)) :
    ∃ front, bytes = front ++ rest ∧ read front = some (value, []) := by
  obtain ⟨front, hbytes, hfront⟩ := hread h
  have hexact := hfront []
  rw [List.append_nil] at hexact
  exact ⟨front, hbytes, hexact⟩

theorem IsKey.read (h : IsKey number wireType key) (rest : List UInt8) :
    readKey (key ++ rest) = some ((number, wireType), rest) := readsFront_readKey.append h rest

/-- Bytes of a fixed number are taken to the last if they are that many. -/
theorem takeExactly_eq_some_nil_iff {n : Nat} {taken : List UInt8} :
    takeExactly n bytes = some (taken, []) ↔ taken = bytes ∧ bytes.length = n := by
  rw [takeExactly_eq_some_iff, List.append_nil]
  constructor
  · rintro ⟨rfl, hlength⟩
    exact ⟨rfl, hlength⟩
  · rintro ⟨rfl, hlength⟩
    exact ⟨rfl, hlength⟩

/-- Bytes after their number are read to the last if they are as many as it says. -/
theorem readDelimited_eq_some_nil_iff {content : List UInt8} :
    readDelimited bytes = some (content, []) ↔
      ∃ length, bytes = length ++ content ∧ IsVarint content.length length := by
  constructor
  · intro h
    rw [readDelimited] at h
    split at h
    · next n rest hnumber =>
      obtain ⟨length, rfl, hlength⟩ := readsFront_readVarint.eq_append hnumber
      obtain ⟨rfl, rfl⟩ := takeExactly_eq_some_nil_iff.mp h
      exact ⟨length, rfl, hlength⟩
    · cases h
  · rintro ⟨length, rfl, hlength⟩
    rw [readDelimited, readsFront_readVarint.append hlength]
    exact takeExactly_eq_some_nil_iff.mpr ⟨rfl, rfl⟩

/-- A value without groups is what its token holds. -/
theorem isValue_iff : IsValue wireType payload value ↔
    ∃ tokenValue : TokenValue, TokenValue.read wireType value = some (tokenValue, []) ∧
      tokenValue.payload? = some payload := by
  constructor
  · intro h
    cases h with
    | varint h => exact ⟨_, by rw [TokenValue.read, h]; rfl, rfl⟩
    | fixed64 h | fixed32 h =>
      have htake := takeExactly_eq_some_nil_iff.mpr ⟨rfl, h⟩
      exact ⟨_, by rw [TokenValue.read, htake]; rfl, rfl⟩
    | delimited h =>
      have hread := readDelimited_eq_some_nil_iff.mpr ⟨_, rfl, h⟩
      exact ⟨_, by rw [TokenValue.read, hread]; rfl, rfl⟩
  · rintro ⟨tokenValue, hread, hpayload⟩
    unfold TokenValue.read at hread
    split at hread
    case h_4 | h_5 =>
      -- The marks of groups are no values.
      obtain ⟨rfl, -⟩ := Prod.mk.inj (Option.some.inj hread)
      cases hpayload
    case h_7 => cases hread
    all_goals
      obtain ⟨⟨content, rest⟩, hcontent, hpair⟩ := Option.map_eq_some_iff.mp hread
      obtain ⟨rfl, rfl⟩ := Prod.mk.inj hpair
      obtain rfl := Option.some.inj hpayload
    case h_1 => exact .varint hcontent
    case h_2 =>
      obtain ⟨rfl, hlength⟩ := takeExactly_eq_some_nil_iff.mp hcontent
      exact .fixed64 hlength
    case h_3 =>
      obtain ⟨length, rfl, hlength⟩ := readDelimited_eq_some_nil_iff.mp hcontent
      exact .delimited hlength
    case h_6 =>
      obtain ⟨rfl, hlength⟩ := takeExactly_eq_some_nil_iff.mp hcontent
      exact .fixed32 hlength

/-- A key with a value that belongs to no group is read as a token. -/
theorem exists_read_plain_iff : (∃ t, Token.read bytes = some (t, rest) ∧ t.number = number ∧
      t.value.payload? = some payload) ↔
    ∃ wireType key value, bytes = key ++ value ++ rest ∧ IsKey number wireType key ∧
      IsValue wireType payload value := by
  constructor
  · rintro ⟨t, hread, rfl, hpayload⟩
    obtain ⟨wireType, mid, hkey, hvalue⟩ := read_eq_some_iff.mp hread
    obtain ⟨key, rfl, hkeyExact⟩ := readsFront_readKey.eq_append hkey
    obtain ⟨value, rfl, hvalueExact⟩ := (readsFront_readValue wireType).eq_append hvalue
    exact ⟨wireType, key, value, (List.append_assoc ..).symm, hkeyExact,
      isValue_iff.mpr ⟨_, hvalueExact, hpayload⟩⟩
  · rintro ⟨wireType, key, value, rfl, hkey, hvalue⟩
    obtain ⟨tokenValue, hread, hpayload⟩ := isValue_iff.mp hvalue
    refine ⟨⟨number, tokenValue⟩, read_eq_some_iff.mpr ⟨wireType, value ++ rest, ?_, ?_⟩, rfl,
      hpayload⟩
    · rw [List.append_assoc]
      exact hkey.read _
    · exact (readsFront_readValue wireType).append hread rest

/-- The marks of a group are keys with nothing behind them. -/
theorem read_mark_iff {mark : TokenValue}
    (hmark : ∀ bytes, TokenValue.read wireType bytes = some (mark, bytes))
    (hother : ∀ w bytes rest, TokenValue.read w bytes = some (mark, rest) → w = wireType) :
    Token.read bytes = some (⟨number, mark⟩, rest) ↔
      ∃ key, bytes = key ++ rest ∧ IsKey number wireType key := by
  constructor
  · intro h
    obtain ⟨w, mid, hkey, hvalue⟩ := read_eq_some_iff.mp h
    obtain rfl := hother w mid rest hvalue
    rw [hmark mid] at hvalue
    obtain ⟨-, rfl⟩ := Prod.mk.inj (Option.some.inj hvalue)
    exact readsFront_readKey.eq_append hkey
  · rintro ⟨key, rfl, hkey⟩
    exact read_eq_some_iff.mpr ⟨wireType, rest, hkey.read rest, hmark rest⟩

theorem wireType_of_read {w : Nat} {value : TokenValue}
    (h : TokenValue.read w bytes = some (value, rest)) : w = value.wireType := by
  unfold TokenValue.read at h
  split at h
  case h_7 => cases h
  case h_4 | h_5 =>
    obtain ⟨rfl, -⟩ := Prod.mk.inj (Option.some.inj h)
    rfl
  all_goals
    obtain ⟨_, -, hpair⟩ := Option.map_eq_some_iff.mp h
    obtain ⟨rfl, -⟩ := Prod.mk.inj hpair
    rfl

theorem read_groupStart_iff : Token.read bytes = some (⟨number, .groupStart⟩, rest) ↔
    ∃ key, bytes = key ++ rest ∧ IsKey number 3 key :=
  read_mark_iff (fun _ => rfl) fun _ _ _ h => wireType_of_read h

theorem read_groupEnd_iff : Token.read bytes = some (⟨number, .groupEnd⟩, rest) ↔
    ∃ key, bytes = key ++ rest ∧ IsKey number 4 key :=
  read_mark_iff (fun _ => rfl) fun _ _ _ h => wireType_of_read h

end

/-! ## Collecting records -/

/-- What collecting comes to when the innermost of the open groups is closed: the outermost group is
a record, and every other group has made that one higher. -/
def resume (g : Nat) (gs : List Nat) (height : Nat) (ts : List Token) : Option (List Record) :=
  if gs.isEmpty then (collect [] 0 ts).map (⟨g, .group height⟩ :: ·) else collect gs height ts

section

variable {g number height : Nat} {gs : List Nat} {t : Token} {ts : List Token}
variable {payload : Payload} {bytes : List UInt8} {rs : List Record}

/-- A token is the value of a record, or it opens or closes a group. -/
theorem TokenValue.cases (value : TokenValue) :
    (∃ payload, value.payload? = some payload) ∨ value = .groupStart ∨ value = .groupEnd := by
  cases value <;> simp [payload?]

/-- A value without groups takes one level. -/
theorem TokenValue.height_of_payload? {value : TokenValue} (h : value.payload? = some payload) :
    payload.height = 1 := by
  cases value <;> simp only [payload?, Option.some.injEq, reduceCtorEq] at h <;> subst h <;> rfl

/-! Collecting token by token, outside and inside groups. -/

theorem collect_start : collect [] 0 (⟨number, .groupStart⟩ :: ts) = collect [number] 1 ts := by
  rw [collect]

theorem collect_end : collect [] 0 (⟨number, .groupEnd⟩ :: ts) = none := by
  rw [collect]

theorem collect_plain_inside (hpayload : t.value.payload? = some payload) :
    collect (g :: gs) height (t :: ts) = collect (g :: gs) (max height (gs.length + 2)) ts := by
  rw [collect]
  cases hvalue : t.value with
  | groupStart | groupEnd => simp [hvalue, TokenValue.payload?] at hpayload
  | _ => rfl

theorem collect_start_inside : collect (g :: gs) height (⟨number, .groupStart⟩ :: ts) =
    collect (number :: g :: gs) (max height (gs.length + 2)) ts := by
  rw [collect]

theorem collect_end_inside : collect (g :: gs) height (⟨number, .groupEnd⟩ :: ts) =
    if number = g then resume g gs height ts else none := by
  rw [collect, resume]
  by_cases h : number = g <;> simp [h]

/-- The outermost group starts with a height of one and is one level higher than its records. -/
theorem resume_outermost {inner : List Record} :
    resume g [] (max 1 (([] : List Nat).length + 1 + levels inner)) ts =
      (collect [] 0 ts).map (⟨g, .group (levels inner + 1)⟩ :: ·) := by
  have hmax : max 1 (([] : List Nat).length + 1 + levels inner) = levels inner + 1 := by
    rw [List.length_nil]
    omega
  rw [resume, List.isEmpty_nil, if_pos rfl, hmax]

/-- What tokens come to if they are those of records: outside of groups they are collected as these,
and inside they only make the outermost group higher. -/
structure Collects (rs : List Record) (ts : List Token) : Prop where
  outside (us : List Token) : collect [] 0 (ts ++ us) = (collect [] 0 us).map (rs ++ ·)
  inside {g : Nat} {gs : List Nat} {height : Nat} (hheight : gs.length + 1 ≤ height)
    (us : List Token) : collect (g :: gs) height (ts ++ us) =
      collect (g :: gs) (max height (gs.length + 1 + levels rs)) us

theorem Collects.nil : Collects [] [] where
  outside us := by simp
  inside {g gs height} hheight us := by
    have hmax : max height (gs.length + 1 + levels []) = height := by simp [hheight]
    rw [hmax, List.nil_append]

theorem Collects.plain (hpayload : t.value.payload? = some payload) (h : Collects rs ts) :
    Collects (⟨t.number, payload⟩ :: rs) (t :: ts) where
  outside us := by
    rw [List.cons_append, collect_plain hpayload, h.outside, Option.map_map]
    rfl
  inside {g gs height} hheight us := by
    have hmax : max (max height (gs.length + 2)) (gs.length + 1 + levels rs) =
        max height (gs.length + 1 + levels (⟨t.number, payload⟩ :: rs)) := by
      rw [levels_cons, TokenValue.height_of_payload? hpayload]
      omega
    rw [List.cons_append, collect_plain_inside hpayload, h.inside (by omega), hmax]

theorem Collects.group {inner : List Record} {us : List Token} (hinner : Collects inner ts)
    (h : Collects rs us) : Collects (⟨number, .group (levels inner + 1)⟩ :: rs)
      (⟨number, .groupStart⟩ :: ts ++ ⟨number, .groupEnd⟩ :: us) where
  outside vs := by
    -- The group is the only one that is open, and it starts with a height of one.
    have hheight : ([] : List Nat).length + 1 ≤ 1 := Nat.le_refl _
    rw [List.append_assoc, List.cons_append, List.cons_append, collect_start,
      hinner.inside hheight, collect_end_inside, if_pos rfl, resume_outermost, h.outside,
      Option.map_map]
    rfl
  inside {g gs height} hheight vs := by
    -- The outermost group has the height of this one and of the records after it.
    have hlength : (g :: gs).length + 1 ≤ max height (gs.length + 2) := by
      rw [List.length_cons]
      omega
    have hmax : max (max (max height (gs.length + 2)) ((g :: gs).length + 1 + levels inner))
          (gs.length + 1 + levels rs) =
        max height (gs.length + 1 +
          levels (⟨number, .group (levels inner + 1)⟩ :: rs)) := by
      rw [levels_cons, Payload.height, List.length_cons]
      omega
    rw [List.append_assoc, List.cons_append, List.cons_append, collect_start_inside,
      hinner.inside hlength, collect_end_inside, if_pos rfl, resume, List.isEmpty_cons,
      if_neg Bool.false_ne_true, h.inside (by omega), hmax]

/-- The tokens of framed bytes are those of their records. -/
theorem Framed.exists_collects (h : Framed rs bytes) :
    ∃ ts, tokens bytes = some ts ∧ Collects rs ts := by
  induction h with
  | nil => exact ⟨[], rfl, .nil⟩
  | @plain number wireType payload key value rs rest hkey hvalue _ ih =>
    obtain ⟨ts, hts, hcollects⟩ := ih
    obtain ⟨t, hread, rfl, hpayload⟩ :=
      exists_read_plain_iff.mpr ⟨wireType, key, value, rfl, hkey, hvalue⟩
    refine ⟨t :: ts, ?_, hcollects.plain hpayload⟩
    exact tokens_eq_some_cons_iff.mpr ⟨rest, hread, hts⟩
  | @group number start body stop inner rs rest hstart _ hstop _ ihbody ih =>
    obtain ⟨ts, hts, hinner⟩ := ihbody
    obtain ⟨us, hus, hcollects⟩ := ih
    refine ⟨_, ?_, hinner.group hcollects⟩
    have hend : tokens (stop ++ rest) = some (⟨number, .groupEnd⟩ :: us) :=
      tokens_eq_some_cons_iff.mpr ⟨rest, read_groupEnd_iff.mpr ⟨stop, rfl, hstop⟩, hus⟩
    have hbody : tokens (body ++ (stop ++ rest)) = some (ts ++ ⟨number, .groupEnd⟩ :: us) := by
      rw [tokens_append hts, hend, Option.map_some]
    rw [List.append_assoc, List.append_assoc]
    exact tokens_eq_some_cons_iff.mpr ⟨_, read_groupStart_iff.mpr ⟨start, rfl, hstart⟩, hbody⟩

/-- Bytes inside of a group: records, the key that closes the group, and what is left to collect
outside of it. -/
structure Closes (g : Nat) (gs : List Nat) (height : Nat) (rs inner : List Record)
    (bytes body stop rest : List UInt8) (us : List Token) : Prop where
  bytes_eq : bytes = body ++ stop ++ rest
  body : Framed inner body
  stop : IsKey g 4 stop
  rest : tokens rest = some us
  resumed : resume g gs (max height (gs.length + 1 + levels inner)) us = some rs

section

variable {inner : List Record} {body stop rest : List UInt8} {us : List Token}

/-- What is resumed after a group depends on the height that it has by then. -/
theorem Closes.of_max {below : Nat} {inner' : List Record} {body' : List UInt8}
    (h : Closes g gs (max height below) rs inner bytes body stop rest us)
    (hbody : Framed inner' body')
    (hlevels : max below (gs.length + 1 + levels inner) = gs.length + 1 + levels inner') :
    Closes g gs height rs inner' (body' ++ stop ++ rest) body' stop rest us := by
  refine ⟨rfl, hbody, h.stop, h.rest, ?_⟩
  rw [← hlevels, ← Nat.max_assoc]
  exact h.resumed

/-- A value in front of the rest of a group is one more of its records. -/
theorem Closes.plain {front : List UInt8}
    (h : Closes g gs (max height (gs.length + 2)) rs inner bytes body stop rest us)
    (hread : Token.read front = some (t, bytes)) (hpayload : t.value.payload? = some payload) :
    ∃ inner body, Closes g gs height rs inner front body stop rest us := by
  obtain ⟨w, key, value, rfl, hkey, hvalue⟩ :=
    exists_read_plain_iff.mp ⟨t, hread, rfl, hpayload⟩
  have hframed : Framed (⟨t.number, payload⟩ :: inner) (key ++ value ++ body) :=
    .plain hkey hvalue h.body
  have hlevels : max (gs.length + 2) (gs.length + 1 + levels inner) =
      gs.length + 1 + levels (⟨t.number, payload⟩ :: inner) := by
    rw [levels_cons, TokenValue.height_of_payload? hpayload]
    omega
  have hcloses := h.of_max hframed hlevels
  have hbytes : key ++ value ++ body ++ stop ++ rest = key ++ value ++ bytes := by
    simp only [h.bytes_eq, List.append_assoc]
  exact ⟨_, _, hbytes ▸ hcloses⟩

/-- So is a group in front of the rest of a group. -/
theorem Closes.group {front body' stop' bytes' : List UInt8} {inner' : List Record}
    {us' : List Token}
    (h' : Closes number (g :: gs) (max height (gs.length + 2)) rs inner' bytes' body' stop' bytes
      us')
    (h : Closes g gs (max (max height (gs.length + 2)) ((g :: gs).length + 1 + levels inner')) rs
      inner bytes body stop rest us)
    (hread : Token.read front = some (⟨number, .groupStart⟩, bytes')) :
    ∃ inner body, Closes g gs height rs inner front body stop rest us := by
  obtain ⟨start, rfl, hstart⟩ := read_groupStart_iff.mp hread
  have hframed : Framed (⟨number, .group (levels inner' + 1)⟩ :: inner)
      (start ++ body' ++ stop' ++ body) := .group hstart h'.body h'.stop h.body
  rw [Nat.max_assoc] at h
  have hlevels : max (max (gs.length + 2) ((g :: gs).length + 1 + levels inner'))
      (gs.length + 1 + levels inner) =
        gs.length + 1 + levels (⟨number, .group (levels inner' + 1)⟩ :: inner) := by
    rw [levels_cons, Payload.height, List.length_cons]
    omega
  have hcloses := h.of_max hframed hlevels
  have hbytes : start ++ body' ++ stop' ++ body ++ stop ++ rest = start ++ bytes' := by
    simp only [h'.bytes_eq, h.bytes_eq, List.append_assoc]
  exact ⟨_, _, hbytes ▸ hcloses⟩

end

/-- Inside of a group, tokens are collected up to the key that closes it, and from there on
outside. -/
theorem exists_closes_of_collect (hts : tokens bytes = some ts) (hheight : gs.length + 1 ≤ height)
    (h : collect (g :: gs) height ts = some rs) :
    ∃ inner body stop rest us, us.length < ts.length ∧
      Closes g gs height rs inner bytes body stop rest us := by
  -- A group inside of the group ends somewhere in the tokens, so the induction is on their number.
  induction hn : ts.length using Nat.strongRecOn generalizing ts bytes g gs height rs with
  | ind n ih =>
    subst hn
    cases ts with
    | nil => simp [collect] at h
    | cons t ts =>
      obtain ⟨bytes', hread, hts'⟩ := tokens_eq_some_cons_iff.mp hts
      have hlt : ts.length < (t :: ts).length := Nat.lt_succ_self _
      obtain ⟨number, value⟩ := t
      rcases value.cases with ⟨payload, hpayload⟩ | rfl | rfl
      · rw [collect_plain_inside hpayload] at h
        obtain ⟨inner, body, stop, rest, us, hus, hcloses⟩ := ih _ hlt hts' (by omega) h rfl
        obtain ⟨inner', body', hcloses'⟩ := hcloses.plain hread hpayload
        exact ⟨inner', body', stop, rest, us, Nat.lt_trans hus hlt, hcloses'⟩
      · -- What follows is first the rest of the inner group, and behind it that of the outer one.
        rw [collect_start_inside] at h
        have hlength : (g :: gs).length + 1 ≤ max height (gs.length + 2) := by
          rw [List.length_cons]
          omega
        obtain ⟨inner₁, body₁, stop₁, rest₁, us₁, hus₁, hcloses₁⟩ := ih _ hlt hts' hlength h rfl
        have hlt₁ : us₁.length < (⟨number, .groupStart⟩ :: ts).length := Nat.lt_trans hus₁ hlt
        have hresumed := hcloses₁.resumed
        rw [resume, List.isEmpty_cons, if_neg Bool.false_ne_true] at hresumed
        obtain ⟨inner, body, stop, rest, us, hus, hcloses⟩ :=
          ih _ hlt₁ hcloses₁.rest (by omega) hresumed rfl
        obtain ⟨inner', body', hcloses'⟩ := hcloses₁.group hcloses hread
        exact ⟨inner', body', stop, rest, us, Nat.lt_trans hus hlt₁, hcloses'⟩
      · rw [collect_end_inside] at h
        split at h
        · next hg =>
          subst hg
          obtain ⟨stop, rfl, hstop⟩ := read_groupEnd_iff.mp hread
          have hmax : max height (gs.length + 1 + levels []) = height := by simp [hheight]
          have hcloses : Closes number gs height rs [] (stop ++ bytes') [] stop bytes' ts :=
            ⟨rfl, .nil, hstop, hts', by rw [hmax, h]⟩
          exact ⟨[], [], stop, bytes', ts, hlt, hcloses⟩
        · cases h

/-- Bytes whose tokens are collected as records are framed as these. -/
theorem framed_of_collect (hts : tokens bytes = some ts) (h : collect [] 0 ts = some rs) :
    Framed rs bytes := by
  -- Behind a group, the tokens are any later ones.
  induction hn : ts.length using Nat.strongRecOn generalizing ts bytes rs with
  | ind n ih =>
    subst hn
    cases ts with
    | nil =>
      obtain rfl := tokens_eq_some_nil_iff.mp hts
      obtain rfl := Option.some.inj h
      exact .nil
    | cons t ts =>
      obtain ⟨bytes', hread, hts'⟩ := tokens_eq_some_cons_iff.mp hts
      have hlt : ts.length < (t :: ts).length := Nat.lt_succ_self _
      obtain ⟨number, value⟩ := t
      rcases value.cases with ⟨payload, hpayload⟩ | rfl | rfl
      · rw [collect_plain hpayload, Option.map_eq_some_iff] at h
        obtain ⟨rs', hrs', rfl⟩ := h
        obtain ⟨w, key, content, rfl, hkey, hvalue⟩ :=
          exists_read_plain_iff.mp ⟨_, hread, rfl, hpayload⟩
        exact .plain hkey hvalue (ih _ hlt hts' hrs' rfl)
      · rw [collect_start] at h
        obtain ⟨inner, body, stop, rest, us, hus, hcloses⟩ :=
          exists_closes_of_collect hts' (Nat.le_refl 1) h
        have hresumed := hcloses.resumed
        rw [resume_outermost, Option.map_eq_some_iff] at hresumed
        obtain ⟨rs', hrs', rfl⟩ := hresumed
        obtain ⟨start, rfl, hstart⟩ := read_groupStart_iff.mp hread
        have hrest := ih _ (Nat.lt_trans hus hlt) hcloses.rest hrs' rfl
        rw [hcloses.bytes_eq, ← List.append_assoc, ← List.append_assoc]
        exact .group hstart hcloses.body hcloses.stop hrest
      · rw [collect_end] at h
        cases h

end

/-! ## Records -/

section

variable {a b bytes more : List UInt8} {rs ss : List Record} {r : Record}

/-- The reader follows the grammar. -/
theorem records_eq_some_iff : records bytes = some rs ↔ Framed rs bytes := by
  constructor
  · intro h
    obtain ⟨ts, hts, hcollect⟩ := Option.bind_eq_some_iff.mp h
    exact framed_of_collect hts hcollect
  · intro h
    obtain ⟨ts, hts, hcollects⟩ := h.exists_collects
    have hcollect := hcollects.outside []
    rw [List.append_nil] at hcollect
    rw [records, hts, Option.bind_some, hcollect]
    simp [collect]

/-- The records of two byte strings, one after the other. -/
theorem Framed.records_append (h : Framed rs bytes) (more : List UInt8) :
    records (bytes ++ more) = (records more).map (rs ++ ·) := by
  obtain ⟨ts, hts, hcollects⟩ := h.exists_collects
  rw [records, tokens_append hts, records]
  cases tokens more with
  | none => rfl
  | some us => simp only [Option.map_some, Option.bind_some, hcollects.outside]

theorem Framed.append (h : Framed rs a) (h' : Framed ss b) : Framed (rs ++ ss) (a ++ b) := by
  rw [← records_eq_some_iff, h.records_append, records_eq_some_iff.mpr h', Option.map_some]

/-- Bytes are framed in one way only. -/
theorem Framed.unique (h : Framed rs bytes) (h' : Framed ss bytes) : rs = ss :=
  Option.some.inj ((records_eq_some_iff.mpr h).symm.trans (records_eq_some_iff.mpr h'))

/-- What stands behind records and makes more records together with them is framed by itself. -/
theorem Framed.exists_of_append (h : Framed rs a) (hall : Framed ss (a ++ b)) :
    ∃ us, Framed us b ∧ ss = rs ++ us := by
  rw [← records_eq_some_iff, h.records_append, Option.map_eq_some_iff] at hall
  obtain ⟨us, hus, rfl⟩ := hall
  exact ⟨us, records_eq_some_iff.mp hus, rfl⟩

theorem Framed.eq_nil (h : Framed [] bytes) : bytes = [] := by
  cases h
  rfl

theorem Framed.ne_nil (h : Framed [r] bytes) : bytes ≠ [] := by
  rintro rfl
  cases h.unique .nil

/-! ## The bytes of each record -/

/-- The byte strings of the records that bytes are, one by one. -/
def IsSplit (bytes : List UInt8) (parts : List (List UInt8)) : Prop :=
  parts.flatten = bytes ∧ ∀ part ∈ parts, ∃ r, Framed [r] part

theorem isSplit_nil : IsSplit [] [] := ⟨rfl, by simp⟩

/-- Framed bytes can be split. -/
theorem Framed.exists_isSplit (h : Framed rs bytes) : ∃ parts, IsSplit bytes parts := by
  induction h with
  | nil => exact ⟨[], isSplit_nil⟩
  | @plain number wireType payload key value rs rest hkey hvalue _ ih =>
    obtain ⟨parts, hflatten, hparts⟩ := ih
    have hfirst : Framed [⟨number, payload⟩] (key ++ value) := by
      simpa using Framed.plain hkey hvalue .nil
    refine ⟨(key ++ value) :: parts, by rw [List.flatten_cons, hflatten], ?_⟩
    exact List.forall_mem_cons.mpr ⟨⟨_, hfirst⟩, hparts⟩
  | @group number start body stop inner rs rest hstart hbody hstop _ _ ih =>
    obtain ⟨parts, hflatten, hparts⟩ := ih
    have hfirst : Framed [⟨number, .group (levels inner + 1)⟩] (start ++ body ++ stop) := by
      simpa using Framed.group hstart hbody hstop .nil
    refine ⟨(start ++ body ++ stop) :: parts, by rw [List.flatten_cons, hflatten], ?_⟩
    exact List.forall_mem_cons.mpr ⟨⟨_, hfirst⟩, hparts⟩

/-- Byte strings of records make records together. -/
theorem exists_framed_flatten {parts : List (List UInt8)}
    (h : ∀ part ∈ parts, ∃ r, Framed [r] part) :
    ∃ rs, Framed rs parts.flatten := by
  induction parts with
  | nil => exact ⟨[], .nil⟩
  | cons part parts ih =>
    obtain ⟨⟨r, hr⟩, htail⟩ := List.forall_mem_cons.mp h
    obtain ⟨rs, hrs⟩ := ih htail
    exact ⟨[r] ++ rs, hr.append hrs⟩

/-- Of the beginnings of a record, only the empty one and the whole record are records. -/
theorem Framed.eq_nil_or_eq (h : Framed [r] bytes) (ha : Framed rs a) (hfront : a <+: bytes) :
    a = [] ∨ a = bytes := by
  obtain ⟨rest, rfl⟩ := hfront
  obtain ⟨us, hrest, heq⟩ := ha.exists_of_append h
  cases rs with
  | nil => exact .inl ha.eq_nil
  | cons r' rs =>
    obtain ⟨-, htail⟩ := List.cons.inj heq
    obtain ⟨rfl, rfl⟩ := List.append_eq_nil_iff.mp htail.symm
    rw [hrest.eq_nil, List.append_nil]
    exact .inr rfl

/-- No record is the beginning of another one. -/
theorem Framed.eq_of_append_eq {r' : Record} {more' : List UInt8} (h : Framed [r] a)
    (h' : Framed [r'] b) (heq : a ++ more = b ++ more') : a = b := by
  have hfront : a <+: b ∨ b <+: a :=
    List.prefix_or_prefix_of_prefix (heq ▸ List.prefix_append a more) (List.prefix_append b more')
  rcases hfront with hab | hba
  · exact (h'.eq_nil_or_eq h hab).resolve_left h.ne_nil
  · exact ((h.eq_nil_or_eq h' hba).resolve_left h'.ne_nil).symm

/-- There is one way to split bytes into records. -/
theorem IsSplit.unique {parts parts' : List (List UInt8)} (h : IsSplit bytes parts)
    (h' : IsSplit bytes parts') : parts = parts' := by
  induction parts generalizing bytes parts' with
  | nil =>
    obtain ⟨rfl, -⟩ := h
    cases parts' with
    | nil => rfl
    | cons part' parts' =>
      obtain ⟨⟨r', hr'⟩, -⟩ := List.forall_mem_cons.mp h'.2
      exact absurd (List.append_eq_nil_iff.mp h'.1).1 hr'.ne_nil
  | cons part parts ih =>
    obtain ⟨⟨r, hr⟩, hparts⟩ := List.forall_mem_cons.mp h.2
    cases parts' with
    | nil =>
      rw [← h'.1] at h
      exact absurd (List.append_eq_nil_iff.mp h.1).1 hr.ne_nil
    | cons part' parts' =>
      obtain ⟨⟨r', hr'⟩, hparts'⟩ := List.forall_mem_cons.mp h'.2
      have heq : part ++ parts.flatten = part' ++ parts'.flatten := h.1.trans h'.1.symm
      obtain rfl := hr.eq_of_append_eq hr' heq
      rw [ih ⟨rfl, hparts⟩ ⟨(List.append_cancel_left heq).symm, hparts'⟩]

theorem IsSplit.append {parts parts' : List (List UInt8)} (h : IsSplit a parts)
    (h' : IsSplit b parts') : IsSplit (a ++ b) (parts ++ parts') := by
  refine ⟨by rw [List.flatten_append, h.1, h'.1], ?_⟩
  exact List.forall_mem_append.mpr ⟨h.2, h'.2⟩

/-- A beginning of a sequence of records is one itself exactly if it ends where a record ends. -/
theorem IsSplit.framed_iff {parts : List (List UInt8)} (h : IsSplit (a ++ b) parts) :
    (∃ rs, Framed rs a) ↔ ∃ k, a = (parts.take k).flatten := by
  constructor
  · intro ⟨rs, hrs⟩
    obtain ⟨ss, hss⟩ := exists_framed_flatten h.2
    rw [h.1] at hss
    obtain ⟨us, hus, -⟩ := hrs.exists_of_append hss
    obtain ⟨front, hfront⟩ := hrs.exists_isSplit
    obtain ⟨back, hback⟩ := hus.exists_isSplit
    obtain rfl := h.unique (hfront.append hback)
    exact ⟨front.length, by rw [List.take_left, hfront.1]⟩
  · rintro ⟨k, rfl⟩
    exact exists_framed_flatten fun part hpart => h.2 part (List.mem_of_mem_take hpart)

end

end GoStubs.Wire
