import GoStubs.Proofs.Plugin.CommandLine
import GoStubs.Proofs.Wire.Insertion
/-!
# The bytes of requests

A request is a sequence of records that do not depend on each other, and the program sees no more
of it than that. Requests that stand one after the other are merged; records that nobody knows are
passed over wherever they stand; and where the bytes break off, they are either the request of the
records that are left or no request at all.

* `Concatenation`, `concatenation`: two byte strings, one after the other.
* `execute_eq_of_inserts`: records that are not known to the message that they stand in.
* `Truncation`, `exists_truncation`: the beginnings of a request.
-/

namespace GoStubs.Plugin

open GoStubs.Proto
open GoStubs.Wire

variable {a b bytes bytes' : List UInt8} {request : Request}

/-! ## One after the other -/

/-- Fields that are the merge of others: repeated ones are listed for both, the last value of
another one is the second's if there is any, and single messages are merged in turn. That is how
they appear in each description, too. -/
structure IsMerge (fs gs hs : Fields) : Prop where
  scalars (number : Nat) : hs.scalars number = fs.scalars number ++ gs.scalars number
  messages (number : Nat) : hs.messages number = fs.messages number ++ gs.messages number
  scalar? (number : Nat) : hs.scalar? number = (gs.scalar? number).or (fs.scalar? number)
  merged? (number : Nat) :
    hs.merged? number = (fs.merged? number).merge (· ++ ·) (gs.merged? number)
  request : requestOf hs = (requestOf fs).merge (requestOf gs)
  file : fileOf hs = (fileOf fs).merge (fileOf gs)
  fileOptions : fileOptionsOf hs = (fileOptionsOf fs).merge (fileOptionsOf gs)
  message : messageOf hs = (messageOf fs).merge (messageOf gs)
  service : serviceOf hs = (serviceOf fs).merge (serviceOf gs)
  method : methodOf hs = (methodOf fs).merge (methodOf gs)

theorem isMerge_append (fs gs : Fields) : IsMerge fs gs (fs ++ gs) where
  scalars number := Fields.scalars_append number fs gs
  messages number := Fields.messages_append number fs gs
  scalar? number := Fields.scalar?_append number fs gs
  merged? number := Fields.merged?_append number fs gs
  request := requestOf_append fs gs
  file := fileOf_append fs gs
  fileOptions := fileOptionsOf_append fs gs
  message := messageOf_append fs gs
  service := serviceOf_append fs gs
  method := methodOf_append fs gs

/-- What becomes of two byte strings that stand one after the other. -/
structure Concatenation (a b : List UInt8) : Prop where
  /-- If both are requests, so are they together, and it is the merge of the two. -/
  accepted {ra rb : Request} (ha : readRequest a = .ok ra) (hb : readRequest b = .ok rb) :
    readRequest (a ++ b) = .ok (ra.merge rb)
  /-- If only the first is a request, they are none together. -/
  refused {ra : Request} {e : Error} (ha : readRequest a = .ok ra) (hb : readRequest b = .error e) :
    readRequest (a ++ b) = .error e
  /-- If both are messages of one kind within a budget, so are they together, and it is the merge of
  the two. -/
  bodyAccepted {budget : Nat} {kind : Kind} {fs gs : Fields}
    (ha : decodeWithin budget kind a = some fs) (hb : decodeWithin budget kind b = some gs) :
    decodeWithin budget kind (a ++ b) = some (fs ++ gs) ∧ IsMerge fs gs (fs ++ gs)
  /-- If only the first is a message, they are none together. -/
  bodyRefused {budget : Nat} {kind : Kind} {fs : Fields}
    (ha : decodeWithin budget kind a = some fs) (hb : decodeWithin budget kind b = none) :
    decodeWithin budget kind (a ++ b) = none
  /-- If they are the two occurrences of a field with a single message, that message is their
  merge. -/
  twice {budget number : Nat} {kind inner : Kind} {rs : List Record} {message : List UInt8}
    {hs : Fields} (hframed : Framed rs message) (hcontents : contents number rs = [a, b])
    (hfield : kind.field? number = some (.message inner))
    (h : decodeWithin (budget + 1) kind message = some hs) :
    ∃ fs gs, decodeWithin budget inner a = some fs ∧ decodeWithin budget inner b = some gs ∧
      hs.merged? number = some (fs ++ gs) ∧ IsMerge fs gs (fs ++ gs)

theorem readRequest_append (ha : readRequest a = .ok request) (b : List UInt8) :
    readRequest (a ++ b) = (readRequest b).map request.merge := by
  rw [readRequest, merges_decodeRequest (readRequest_eq_ok_iff.mp ha), readRequest]
  cases decodeRequest b <;> rfl

/-- **Concatenation.** Bytes that are put together are merged: those of requests, and those of
messages of every kind within every budget. -/
theorem concatenation (a b : List UInt8) : Concatenation a b where
  accepted ha hb := by
    rw [readRequest_append ha, hb]
    rfl
  refused ha hb := by
    rw [readRequest_append ha, hb]
    rfl
  bodyAccepted {budget kind fs gs} ha hb := by
    rw [merges_decodeWithin budget kind ha, hb]
    exact ⟨rfl, isMerge_append fs gs⟩
  bodyRefused {budget kind fs} ha hb := by
    rw [merges_decodeWithin budget kind ha, hb]
    rfl
  twice {budget number kind inner rs message hs} hframed hcontents hfield h := by
    obtain ⟨rs', hframed', hone⟩ := oneMessage_of_decodeWithin hfield h
    obtain rfl := hframed.unique hframed'
    have heach := hone.each
    rw [hcontents] at heach
    obtain ⟨fs, _, hfs, hrest, -⟩ := List.forall₂_cons_left_iff.mp heach
    obtain ⟨gs, _, hgs, -, -⟩ := List.forall₂_cons_left_iff.mp hrest
    refine ⟨fs, gs, hfs, hgs, ?_, isMerge_append fs gs⟩
    rw [hone.merged (by simp [hcontents]), hcontents, List.flatten_cons, List.flatten_singleton,
      merges_decodeWithin budget inner hfs, hgs]
    rfl

/-- A file with two sets of options, one after the other, has the Go package of the second. -/
theorem concatenation_options : ∃ fs gs,
    decodeWithin 98 .fileOptions [0x5a, 1, 0x61] = some fs ∧
      decodeWithin 98 .fileOptions [0x5a, 1, 0x62] = some gs ∧
        (decodeWithin 99 .file [0x42, 3, 0x5a, 1, 0x61, 0x42, 3, 0x5a, 1, 0x62]).map fileOf =
          some ⟨none, none, some ((fileOptionsOf fs).merge (fileOptionsOf gs)), [], []⟩ := by
  have hframed : Framed [⟨8, .delimited [0x5a, 1, 0x61]⟩, ⟨8, .delimited [0x5a, 1, 0x62]⟩]
      [0x42, 3, 0x5a, 1, 0x61, 0x42, 3, 0x5a, 1, 0x62] := records_eq_some_iff.mp rfl
  have hdecode : decodeWithin 99 .file [0x42, 3, 0x5a, 1, 0x61, 0x42, 3, 0x5a, 1, 0x62] =
      some (.message 8 (.scalar 11 (.text "a") .nil)
        (.message 8 (.scalar 11 (.text "b") .nil) .nil)) := rfl
  have hfield : Kind.file.field? 8 = some (.message .fileOptions) := rfl
  obtain ⟨fs, gs, hfs, hgs, hmerged, hmerge⟩ :=
    (concatenation [0x5a, 1, 0x61] [0x5a, 1, 0x62]).twice hframed rfl hfield hdecode
  refine ⟨fs, gs, hfs, hgs, ?_⟩
  rw [hdecode, Option.map_some, fileOf, hmerged, Option.map_some, hmerge.fileOptions]
  rfl

/-! ## Records that are not known -/

/-- **Unknown records.** A record that a message does not know, in a request or in any message
inside of it, changes neither the request that is read nor anything that the program does. -/
theorem execute_eq_of_inserts (h : Inserts nestingBudget .request bytes bytes') :
    readRequest bytes' = readRequest bytes ∧ execute [] bytes' = execute [] bytes := by
  have hdecode : decodeRequest bytes' = decodeRequest bytes := by
    rw [decodeRequest, decode, decodeWithin_eq_of_inserts h]
    rfl
  rw [readRequest, readRequest, execute_nil, execute_nil, hdecode]
  exact ⟨rfl, rfl⟩

/-- A group with another one inside, behind the name of a file. -/
theorem execute_eq_of_inserts_group :
    Inserts nestingBudget .request [0x7a, 3, 0x0a, 1, 0x61]
        [0x7a, 9, 0x0a, 1, 0x61, 0x6b, 0x73, 0x08, 5, 0x74, 0x6c] ∧
      readRequest [0x7a, 9, 0x0a, 1, 0x61, 0x6b, 0x73, 0x08, 5, 0x74, 0x6c] =
        .ok ⟨[], none, [⟨some "a", none, none, [], []⟩]⟩ ∧
      execute [] [0x7a, 9, 0x0a, 1, 0x61, 0x6b, 0x73, 0x08, 5, 0x74, 0x6c] =
        execute [] [0x7a, 3, 0x0a, 1, 0x61] := by
  have hname : Framed [⟨1, .delimited [0x61]⟩] [0x0a, 1, 0x61] := records_eq_some_iff.mp rfl
  have hgroup : Framed [⟨13, .group 3⟩] [0x6b, 0x73, 0x08, 5, 0x74, 0x6c] :=
    records_eq_some_iff.mp rfl
  have hfile : Inserts 99 .file [0x0a, 1, 0x61] [0x0a, 1, 0x61, 0x6b, 0x73, 0x08, 5, 0x74, 0x6c] :=
    .here hname hgroup rfl (by decide)
  have hfield : Kind.request.field? 15 = some (.message .file) := rfl
  have hkey : IsKey 15 2 [0x7a] := rfl
  have hlength : IsVarint [0x0a, 1, 0x61].length [3] := rfl
  have hlength' : IsVarint [0x0a, 1, 0x61, 0x6b, 0x73, 0x08, 5, 0x74, 0x6c].length [9] := rfl
  have hrequest : Inserts nestingBudget .request ([] ++ ([0x7a] ++ ([3] ++ [0x0a, 1, 0x61]) ++ []))
      ([] ++ ([0x7a] ++ ([9] ++ [0x0a, 1, 0x61, 0x6b, 0x73, 0x08, 5, 0x74, 0x6c]) ++ [])) :=
    .inside .nil hfield hkey hlength hlength' hfile
  obtain ⟨hread, hexecute⟩ := execute_eq_of_inserts hrequest
  exact ⟨hrequest, hread.trans rfl, hexecute⟩

/-! ## Beginnings -/

/-- What the program does with bytes that are no request: it fails, and it writes nothing. -/
structure Refuses (bytes : List UInt8) : Prop where
  error : readRequest bytes = .error (.malformedRequest malformedCause)
  exitCode : (execute [] bytes).exitCode = 1
  output : (execute [] bytes).output = []

/-- What becomes of a request if only its beginning is there. The request is given as the bytes of
its records, one by one, with the request that each of these is by itself. -/
structure Truncation (bytes : List UInt8) (parts : List (List UInt8)) (requests : List Request) :
    Prop where
  split : IsSplit bytes parts
  /-- There are no other records in it. -/
  only (parts' : List (List UInt8)) (h : IsSplit bytes parts') : parts' = parts
  each : List.Forall₂ (fun part r => readRequest part = .ok r) parts requests
  /-- If it ends where a record ends, it is the merge of the records that are left. -/
  boundary (k : Nat) : readRequest (parts.take k).flatten = .ok (.mergeAll (requests.take k))
  /-- If it ends inside of a record, it is refused. -/
  inside {before after : List (List UInt8)} {part cut : List UInt8}
    (hparts : parts = before ++ part :: after) (hcut : cut <+: part) (hnil : cut ≠ [])
    (hpart : cut ≠ part) : Refuses (before.flatten ++ cut)
  /-- It ends in one of these two ways. -/
  accepted_iff {front : List UInt8} (hfront : front <+: bytes) :
    (∃ r, readRequest front = .ok r) ↔ ∃ k, front = (parts.take k).flatten
  refused_iff {front : List UInt8} (hfront : front <+: bytes) :
    Refuses front ↔ ∀ k, front ≠ (parts.take k).flatten

theorem refuses_of_decodeRequest (h : decodeRequest bytes = none) : Refuses bytes := by
  have hanswer := execute_answers bytes
  rw [h] at hanswer
  exact ⟨readRequest_eq_error_iff.mpr h, hanswer.1, hanswer.2⟩

/-- Bytes that are not a sequence of records are no request. -/
theorem refuses_of_not_framed (h : ¬ ∃ rs, Framed rs bytes) : Refuses bytes := by
  refine refuses_of_decodeRequest (Option.eq_none_iff_forall_ne_some.mpr ?_)
  intro r hr
  obtain ⟨fs, hfs, -⟩ := Option.map_eq_some_iff.mp hr
  obtain ⟨rs, hrs, -⟩ := decodeWithin_eq_some_iff.mp hfs
  exact h ⟨rs, hrs⟩

section

variable {parts : List (List UInt8)} {requests : List Request}

/-- A request is read record by record. -/
theorem exists_forall₂_readRequest (hsplit : IsSplit bytes parts)
    (h : readRequest bytes = .ok request) :
    ∃ requests, List.Forall₂ (fun part r => readRequest part = .ok r) parts requests := by
  obtain ⟨fs, hfs, -⟩ := Option.map_eq_some_iff.mp (readRequest_eq_ok_iff.mp h)
  obtain ⟨gs, hgs⟩ := exists_forall₂_of_isSplit hsplit hfs
  refine ⟨gs.map requestOf, List.forall₂_map_right_iff.mpr (hgs.imp fun part g hg => ?_)⟩
  rw [readRequest_eq_ok_iff, decodeRequest, decode, hg, Option.map_some]

theorem readRequest_flatten
    (h : List.Forall₂ (fun part r => readRequest part = .ok r) parts requests) :
    readRequest parts.flatten = .ok (.mergeAll requests) := by
  have hnil : decodeRequest [] = some .empty := rfl
  have hread : List.Forall₂ (fun part r => decodeRequest part = some r) parts requests :=
    h.imp fun part r hr => readRequest_eq_ok_iff.mp hr
  exact readRequest_eq_ok_iff.mpr (merges_decodeRequest.flatten hnil hread)

/-- A beginning that ends elsewhere than a record is no sequence of records. -/
theorem refuses_of_isSplit (hsplit : IsSplit bytes parts) {front : List UInt8}
    (hfront : front <+: bytes) (hcut : ∀ k, front ≠ (parts.take k).flatten) : Refuses front := by
  obtain ⟨rest, rfl⟩ := hfront
  refine refuses_of_not_framed fun hframed => ?_
  obtain ⟨k, hk⟩ := hsplit.framed_iff.mp hframed
  exact hcut k hk

/-- Nor is one that ends inside of a record. -/
theorem refuses_of_cut {before after : List (List UInt8)} {part cut : List UInt8}
    (hsplit : IsSplit bytes (before ++ part :: after)) (hcut : cut <+: part) (hnil : cut ≠ [])
    (hpart : cut ≠ part) : Refuses (before.flatten ++ cut) := by
  refine refuses_of_not_framed fun ⟨rs, hrs⟩ => ?_
  obtain ⟨hbefore, htail⟩ := List.forall_mem_append.mp hsplit.2
  obtain ⟨⟨r, hr⟩, -⟩ := List.forall_mem_cons.mp htail
  obtain ⟨ss, hss⟩ := exists_framed_flatten hbefore
  obtain ⟨us, hus, -⟩ := hss.exists_of_append hrs
  exact (hr.eq_nil_or_eq hus hcut).elim hnil hpart

end

/-- **Truncation.** Of the beginnings of a request, those that end where a record ends are the
merge of their records, and all others are refused. -/
theorem exists_truncation (h : readRequest bytes = .ok request) :
    ∃ parts requests, Truncation bytes parts requests := by
  obtain ⟨fs, hfs, -⟩ := Option.map_eq_some_iff.mp (readRequest_eq_ok_iff.mp h)
  obtain ⟨rs, hrs, -⟩ := decodeWithin_eq_some_iff.mp hfs
  obtain ⟨parts, hsplit⟩ := hrs.exists_isSplit
  obtain ⟨requests, heach⟩ := exists_forall₂_readRequest hsplit h
  have hboundary (k : Nat) :
      readRequest (parts.take k).flatten = .ok (.mergeAll (requests.take k)) :=
    readRequest_flatten (List.forall₂_take k heach)
  refine ⟨parts, requests, hsplit, fun parts' h' => h'.unique hsplit, heach, hboundary, ?_, ?_, ?_⟩
  · intro before after part cut hparts
    subst hparts
    exact refuses_of_cut hsplit
  · intro front hfront
    constructor
    · intro ⟨r, hr⟩
      by_contra hcut
      have hrefuses := refuses_of_isSplit hsplit hfront fun k hk => hcut ⟨k, hk⟩
      rw [hrefuses.error] at hr
      cases hr
    · intro ⟨k, hk⟩
      exact ⟨_, hk ▸ hboundary k⟩
  · intro front hfront
    constructor
    · intro hrefuses k hk
      have hok := hboundary k
      rw [← hk, hrefuses.error] at hok
      cases hok
    · exact refuses_of_isSplit hsplit hfront

/-- Two files, of which the second has the name `b`. -/
theorem exists_truncation_files :
    readRequest [0x7a, 0, 0x7a, 3, 0x0a, 1, 0x62] =
        .ok ⟨[], none, [⟨none, none, none, [], []⟩, ⟨some "b", none, none, [], []⟩]⟩ ∧
      ∃ parts requests, Truncation [0x7a, 0, 0x7a, 3, 0x0a, 1, 0x62] parts requests := by
  have hread : readRequest [0x7a, 0, 0x7a, 3, 0x0a, 1, 0x62] =
      .ok ⟨[], none, [⟨none, none, none, [], []⟩, ⟨some "b", none, none, [], []⟩]⟩ := rfl
  exact ⟨hread, exists_truncation hread⟩

end GoStubs.Plugin
