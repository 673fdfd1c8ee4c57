import GoStubs.Proofs.Go.Declared
import GoStubs.Proofs.Go.Lines
import Mathlib.Data.List.Infix
/-!
# What stands in the lines of declarations

A reader of declarations looks up functions, methods, interfaces and structures by their names, and
the calls, the new streams and the registrations that bodies make. All that is found stands in the
lines of the declarations: a signature on the line that its function starts with or on a line of
its interface, the operands of a call on the line of the call, and a key on the first line of its
row. The lines are given here for each look-up, so that nothing else has to know how declarations
are printed.

* `Shows`: lines that stand together in a declaration.
* `lines_interface`, `lines_struct`, `lines_func`: the lines of each kind of declaration.
* `shows_header`, `shows_interface`, `shows_struct`, `shows_call`, `shows_opening`,
  `shows_methodRow`, `shows_streamRow`: the lines of what is looked up.
* `writesMap_iff`: the maps that a registration writes.
* `StandsIn`: a piece of a text, such as the text of some of its lines.
-/

namespace GoStubs.Go

open GoStubs.Writer

/-- Whether lines stand together, in their order, in one of the declarations. -/
def Shows (ds : List Decl) (ls : List Line) : Prop := ∃ d ∈ ds, ls <:+: d.lines

section

variable {ds : List Decl} {ls ms : List Line} {depth : Nat}

theorem Shows.of_part (h : Shows ds ms) (hls : ls <:+: ms) : Shows ds ls := by
  obtain ⟨d, hd, hms⟩ := h
  exact ⟨d, hd, hls.trans hms⟩

theorem Shows.of_mem (h : Shows ds ms) {l : Line} (hl : l ∈ ms) : Shows ds [l] :=
  h.of_part ((List.singleton_infix_iff l ms).mpr hl)

theorem shows_lines {d : Decl} (hd : d ∈ ds) : Shows ds d.lines := ⟨d, hd, List.infix_refl _⟩

/-- The lines of one of several programs stand together in those of all. -/
theorem programLines_infix_concat {p : Program Phrase} {ps : List (Program Phrase)} (hp : p ∈ ps) :
    programLines depth p <:+: programLines depth (.concat ps) := by
  rw [programLines_concat]
  exact List.infix_of_mem_flatten (List.mem_map_of_mem hp)

/-- What is nested stands between the lines of its frame. -/
theorem infix_cons_append_singleton (l m : Line) : ls <:+: l :: (ls ++ [m]) :=
  ⟨[l], [m], by simp⟩

end

/-! ## The lines of each kind of declaration -/

theorem lines_interface (name : String) (methods : List MethodSpec) (embedded : Option Ty) :
    (Decl.interface name methods embedded).lines =
      ⟨0, [.text ("type " ++ name ++ " interface"), .text " \x7b"]⟩ ::
        (methods.map (fun m => ⟨1, m.phrase⟩) ++ embedded.toList.map (fun ty => ⟨1, ty.phrase⟩) ++
          [⟨0, [.text "\x7d"]⟩]) := by
  rw [Decl.lines, Decl.print, programLines_block, programLines_append, programLines_concat,
    programLines_concat, List.flatMap_map, List.flatMap_map]
  simp only [programLines_line, ← List.map_eq_flatMap]
  rfl

theorem lines_struct (name : String) (field : Option String) (ty : Ty) :
    (Decl.struct name field ty).lines =
      [⟨0, [.text ("type " ++ name ++ " struct"), .text " \x7b"]⟩,
       ⟨1, (field.toList.map fun f => .text (f ++ " ")) ++ ty.phrase⟩, ⟨0, [.text "\x7d"]⟩] := rfl

theorem lines_func (f : Func) :
    (Decl.func f).lines =
      ⟨0, f.header ++ [.text " \x7b"]⟩ ::
        (programLines 1 f.body.print ++ [⟨0, [.text "\x7d"]⟩]) := rfl

/-! ## Signatures -/

section

variable {ds : List Decl} {name : String} {f : Func}

/-- A function that is found by a condition on functions is one of the declarations. -/
theorem func_mem_of_mem_filterMap {p : Func → Prop} [DecidablePred p]
    (hf : f ∈ ds.filterMap fun
      | .func g => if p g then some g else none
      | .interface .. | .struct .. => none) : .func f ∈ ds := by
  obtain ⟨d, hd, hlook⟩ := List.mem_filterMap.mp hf
  cases d with
  | func g =>
    obtain ⟨-, heq⟩ := Option.ite_none_right_eq_some.mp hlook
    exact Option.some.inj heq ▸ hd
  | interface | struct => cases hlook

theorem mem_of_mem_functionsNamed (hf : f ∈ functionsNamed name ds) : .func f ∈ ds :=
  func_mem_of_mem_filterMap hf

theorem mem_of_mem_methodsWhere {p : Param → Bool} (hf : f ∈ methodsWhere p ds) : .func f ∈ ds :=
  func_mem_of_mem_filterMap hf

/-- A function or method starts with the line of its signature. -/
theorem shows_header (hf : .func f ∈ ds) : Shows ds [⟨0, f.header ++ [.text " \x7b"]⟩] :=
  (shows_lines hf).of_mem (by rw [lines_func]; exact List.mem_cons_self)

/-- An interface has a line for each method and for what it embeds. -/
theorem shows_interface {methods : List MethodSpec} {embedded : Option Ty}
    (h : (methods, embedded) ∈ interfacesNamed name ds) :
    Shows ds (Decl.interface name methods embedded).lines := by
  obtain ⟨d, hd, hlook⟩ := List.mem_filterMap.mp h
  cases d with
  | interface n methods' embedded' =>
    obtain ⟨rfl, heq⟩ := Option.ite_none_right_eq_some.mp hlook
    obtain ⟨rfl, rfl⟩ := Prod.mk.inj (Option.some.inj heq)
    exact shows_lines hd
  | struct | func => cases hlook

/-- A structure that embeds a type has it on the only line between its braces. -/
theorem shows_struct {ty : Ty} (h : ty ∈ embeddedIn name ds) :
    Shows ds (Decl.struct name none ty).lines := by
  obtain ⟨d, hd, hlook⟩ := List.mem_filterMap.mp h
  cases d with
  | struct n field ty' =>
    cases field with
    | none =>
      obtain ⟨rfl, heq⟩ := Option.ite_none_right_eq_some.mp hlook
      obtain rfl := Option.some.inj heq
      exact shows_lines hd
    | some field => cases hlook
  | interface | func => cases hlook

/-- The beginnings of the lines that add a name to a file. -/
inductive Introduces (name : String) : Phrase → Prop where
  | interface : Introduces name [.text ("type " ++ name ++ " interface"), .text " \x7b"]
  | struct : Introduces name [.text ("type " ++ name ++ " struct"), .text " \x7b"]
  | func (rest : Phrase) : Introduces name (.text "func " :: .text name :: .text "(" :: rest)

/-- Each name at the top level has a line that introduces it. -/
theorem exists_shows_introduces (h : name ∈ ds.filterMap Decl.topLevelName?) :
    ∃ words, Introduces name words ∧ Shows ds [⟨0, words⟩] := by
  obtain ⟨d, hd, hname⟩ := List.mem_filterMap.mp h
  cases d with
  | interface n methods embedded =>
    obtain rfl := Option.some.inj hname
    exact ⟨_, .interface, (shows_lines hd).of_mem (by rw [lines_interface]; simp)⟩
  | struct n field ty =>
    obtain rfl := Option.some.inj hname
    exact ⟨_, .struct, (shows_lines hd).of_mem (by rw [lines_struct]; simp)⟩
  | func f =>
    rw [Decl.topLevelName?] at hname
    cases hreceiver : f.receiver with
    | some receiver => simp [hreceiver] at hname
    | none =>
      obtain rfl : f.name = name := by simpa [hreceiver] using hname
      refine ⟨_, ?_, shows_header hd⟩
      rw [Func.header, hreceiver]
      exact .func _

end

/-! ## Statements -/

section

variable {ds : List Decl} {f : Func} {stmt : Stmt} {stmts : List Stmt} {c : Call}
  {o : StreamOpening}

theorem programLines_infix_printStmts (depth : Nat) (h : stmt ∈ stmts) :
    programLines depth stmt.print <:+: programLines depth (printStmts stmts) :=
  programLines_infix_concat (List.mem_map_of_mem h)

theorem shows_body (hf : .func f ∈ ds) : Shows ds (programLines 1 f.body.print) :=
  (shows_lines hf).of_part (by rw [lines_func]; exact infix_cons_append_singleton _ _)

theorem shows_stmts (hf : .func f ∈ ds) (hne : f.statements ≠ []) :
    Shows ds (programLines 1 (printStmts f.statements)) := by
  have hbody := shows_body hf
  cases hstmts : f.body with
  | statements stmts =>
    rw [hstmts] at hbody
    rwa [Func.statements, hstmts]
  | registers r => exact absurd (by rw [Func.statements, hstmts]) hne

/-- The lines of code on which a call can stand. -/
inductive Call.StandsOn (c : Call) : Phrase → Prop where
  /-- Its error is looked at. -/
  | attempted : StandsOn c [.text ("if err := " ++ c.text ++ "; err != nil"), .text " \x7b"]
  /-- What it returns is returned, behind other operands. -/
  | returned (before : List Operand) :
      StandsOn c [.text ("return " ++ ", ".intercalate (before.map Operand.text ++ [c.text]))]

/-- Each call has a line on which it stands with its arguments. -/
theorem exists_standsOn (depth : Nat) (hc : c ∈ stmts.flatMap Stmt.calls) :
    ∃ words, c.StandsOn words ∧ ⟨depth, words⟩ ∈ programLines depth (printStmts stmts) := by
  obtain ⟨stmt, hstmt, hcall⟩ := List.mem_flatMap.mp hc
  have hpart := programLines_infix_printStmts depth hstmt
  cases stmt with
  | attempt call =>
    obtain rfl := List.mem_singleton.mp hcall
    exact ⟨_, .attempted, hpart.subset (by rw [Stmt.print, programLines_block]; simp)⟩
  | returnsCall before call =>
    obtain rfl := List.mem_singleton.mp hcall
    exact ⟨_, .returned before, hpart.subset (by rw [Stmt.print, programLines_line]; simp)⟩
  | declare | allocate | assign | returnError | returns | returnsNew | openStream => cases hcall

theorem shows_call (hf : .func f ∈ ds) (hc : c ∈ f.calls) :
    ∃ words, c.StandsOn words ∧ Shows ds [⟨1, words⟩] := by
  obtain ⟨words, hwords, hmem⟩ := exists_standsOn 1 hc
  have hne : f.statements ≠ [] := by
    intro hnil
    rw [Func.calls, hnil] at hc
    cases hc
  exact ⟨words, hwords, (shows_stmts hf hne).of_mem hmem⟩

/-- The lines that describe which sides of a stream do stream. -/
def flagLines (depth : Nat) (clientStreaming serverStreaming : Bool) : List Line :=
  [⟨depth, [.text ("StreamingClient: " ++ flagText clientStreaming ++ ",")]⟩,
   ⟨depth, [.text ("StreamingServer: " ++ flagText serverStreaming ++ ",")]⟩]

theorem programLines_streamFlags (depth : Nat) (clientStreaming serverStreaming : Bool) :
    programLines depth (streamFlags clientStreaming serverStreaming) =
      flagLines depth clientStreaming serverStreaming := rfl

/-- The lines that ask for a new stream: the last one has the names and the request. -/
def StreamOpening.lines (depth : Nat) (o : StreamOpening) : List Line :=
  ⟨depth, .text "stream, err := c.client.NewStream(ctx, &" :: o.descriptor.phrase ++
      [.text "\x7b"]⟩ ::
    (flagLines (depth + 1) o.clientStreaming o.serverStreaming ++
      [⟨depth, [.text ("\x7d, " ++
        operandsText [.literal o.service, .literal o.method, o.request] ++ ")")]⟩])

theorem programLines_openStream (depth : Nat) (o : StreamOpening) :
    programLines depth (Stmt.openStream o).print = o.lines depth := by
  rw [Stmt.print, StreamOpening.print, programLines_blockWith, programLines_streamFlags]
  rfl

theorem shows_opening (hf : .func f ∈ ds) (ho : o ∈ f.openings) : Shows ds (o.lines 1) := by
  obtain ⟨stmt, hstmt, hopening⟩ := List.mem_flatMap.mp ho
  have hshows := (shows_stmts hf (List.ne_nil_of_mem hstmt)).of_part
    (programLines_infix_printStmts 1 hstmt)
  cases stmt with
  | openStream opening =>
    obtain rfl := List.mem_singleton.mp hopening
    rwa [programLines_openStream] at hshows
  | declare | allocate | assign | attempt | returnError | returns | returnsCall | returnsNew =>
    cases hopening

end

/-! ## Registrations -/

section

variable {ds : List Decl} {r : Registration}

/-- The lines of a function without a name, after a text on the first one. -/
theorem programLines_funcLit (depth : Nat) (before : String) (f : FuncLit) :
    programLines depth (f.print before) =
      ⟨depth, .text (before ++ "func") ::
          signaturePhrase (f.params.map Param.phrase) f.results ++ [.text " \x7b"]⟩ ::
        (programLines (depth + 1) (printStmts f.body) ++ [⟨depth, [.text "\x7d,"]⟩]) := rfl

theorem programLines_streamRow (depth : Nat) (row : StreamRow) :
    programLines depth row.print =
      ⟨depth, [.text ("\"" ++ row.key ++ "\": \x7b")]⟩ ::
        (programLines (depth + 1) (row.handler.print "Handler: ") ++
          flagLines (depth + 1) row.clientStreaming row.serverStreaming ++
          [⟨depth, [.text "\x7d,"]⟩]) := by
  rw [StreamRow.print, programLines_blockWith, programLines_append, programLines_streamFlags]

theorem programLines_registration (depth : Nat) (r : Registration) :
    programLines depth r.print =
      ⟨depth, .text ("srv.RegisterService(\"" ++ r.service ++ "\", &") :: r.descriptor.phrase ++
          [.text "\x7b"]⟩ ::
        (programLines (depth + 1)
            (printMap "Methods" r.methodType (r.methods.map MethodRow.print)) ++
          programLines (depth + 1)
            (printMap "Streams" r.streamType (r.streams.map StreamRow.print)) ++
          [⟨depth, [.text "\x7d)"]⟩]) := by
  rw [Registration.print, programLines_blockWith, programLines_append]

/-- A row of a map stands one level deeper than the map. -/
theorem programLines_infix_printMap (depth : Nat) (field : String) (rowType : Ty)
    {row : Program Phrase} {rows : List (Program Phrase)} (hrow : row ∈ rows) :
    programLines (depth + 1) row <:+: programLines depth (printMap field rowType rows) := by
  have hne : ¬ rows.isEmpty = true := by simpa using List.ne_nil_of_mem hrow
  rw [printMap, if_neg hne, programLines_blockWith]
  exact (programLines_infix_concat hrow).trans (infix_cons_append_singleton _ _)

theorem mem_registrations_iff :
    r ∈ registrations ds ↔ ∃ f, .func f ∈ ds ∧ f.body = .registers r := by
  rw [registrations, List.mem_filterMap]
  constructor
  · rintro ⟨d, hd, hlook⟩
    cases d with
    | func f =>
      obtain ⟨receiver, name, params, results, body⟩ := f
      cases body with
      | registers r' =>
        obtain rfl := Option.some.inj hlook
        exact ⟨_, hd, rfl⟩
      | statements stmts => cases hlook
    | interface | struct => cases hlook
  · rintro ⟨⟨receiver, name, params, results, body⟩, hf, rfl⟩
    exact ⟨_, hf, rfl⟩

theorem shows_registration (hr : r ∈ registrations ds) : Shows ds (programLines 1 r.print) := by
  obtain ⟨f, hf, hbody⟩ := mem_registrations_iff.mp hr
  have hshows := shows_body hf
  rwa [hbody] at hshows

/-- A registration names the service on its first line. -/
theorem shows_service (hr : r ∈ registrations ds) :
    Shows ds [⟨1, .text ("srv.RegisterService(\"" ++ r.service ++ "\", &") :: r.descriptor.phrase ++
      [.text "\x7b"]⟩] :=
  (shows_registration hr).of_mem (by rw [programLines_registration]; exact List.mem_cons_self)

/-- Both maps stand behind the first line of the registration. -/
theorem shows_maps (hr : r ∈ registrations ds) :
    Shows ds (programLines 2 (printMap "Methods" r.methodType (r.methods.map MethodRow.print)) ++
      programLines 2 (printMap "Streams" r.streamType (r.streams.map StreamRow.print))) := by
  refine (shows_registration hr).of_part ?_
  rw [programLines_registration]
  exact infix_cons_append_singleton _ _

theorem shows_methodRow (hr : r ∈ registrations ds) {row : MethodRow} (hrow : row ∈ r.methods) :
    Shows ds (programLines 3 row.print) :=
  ((shows_maps hr).of_part (List.prefix_append _ _).isInfix).of_part
    (programLines_infix_printMap 2 _ _ (List.mem_map_of_mem hrow))

theorem shows_streamRow (hr : r ∈ registrations ds) {row : StreamRow} (hrow : row ∈ r.streams) :
    Shows ds (programLines 3 row.print) :=
  ((shows_maps hr).of_part (List.suffix_append _ _).isInfix).of_part
    (programLines_infix_printMap 2 _ _ (List.mem_map_of_mem hrow))

theorem shows_handler (hr : r ∈ registrations ds) {handler : FuncLit} {key : String}
    (h : handler ∈ r.handlers key) :
    Shows ds (programLines 3 (handler.print ("\"" ++ key ++ "\": "))) ∨
      Shows ds (⟨3, [.text ("\"" ++ key ++ "\": \x7b")]⟩ ::
        programLines 4 (handler.print "Handler: ")) := by
  rcases List.mem_append.mp h with h | h
  · obtain ⟨row, hrow, rfl⟩ := List.mem_map.mp h
    obtain ⟨hmem, hkey⟩ := List.mem_filter.mp hrow
    obtain rfl := of_decide_eq_true hkey
    exact Or.inl (shows_methodRow hr hmem)
  · obtain ⟨row, hrow, rfl⟩ := List.mem_map.mp h
    obtain ⟨hmem, hkey⟩ := List.mem_filter.mp hrow
    obtain rfl := of_decide_eq_true hkey
    have hshows := shows_streamRow hr hmem
    rw [programLines_streamRow, List.append_assoc, ← List.cons_append] at hshows
    exact Or.inr (hshows.of_part (List.prefix_append _ _).isInfix)

/-- The statements of a handler stand one level deeper than the handler. -/
theorem programLines_infix_funcLit (depth : Nat) (before : String) {f : FuncLit} {stmt : Stmt}
    (hstmt : stmt ∈ f.body) :
    programLines (depth + 1) stmt.print <:+: programLines depth (f.print before) := by
  rw [programLines_funcLit]
  exact (programLines_infix_printStmts _ hstmt).trans (infix_cons_append_singleton _ _)

end

/-! ## The maps of a registration -/

/-- Whether a declaration writes a map as a field of a registration: right inside the call that
registers, a line opens it. -/
def Decl.WritesMap (d : Decl) (field : String) : Prop :=
  ∃ l ∈ d.lines, l.depth = 2 ∧ l.words.head? = some (.text (field ++ ": map[string]"))

theorem mapOpener_inj {field field' : String} :
    field ++ ": map[string]" = field' ++ ": map[string]" ↔ field = field' := by
  constructor
  · intro h
    exact String.append_left_inj _ |>.mp h
  · intro h
    rw [h]

theorem mapOpener_ne_closer (field : String) : "\x7d," ≠ field ++ ": map[string]" := by
  intro h
  have hlen := congrArg String.length h
  have hcloser : "\x7d,".length = 2 := rfl
  have hopener : ": map[string]".length = 13 := rfl
  rw [String.length_append, hcloser, hopener] at hlen
  omega

/-- The rows of a map stand deeper than the line that opens it. -/
theorem opens_printMap_iff {field field' : String} (rowType : Ty) {rows : List (Program Phrase)} :
    (∃ l ∈ programLines 2 (printMap field' rowType rows),
      l.depth = 2 ∧ l.words.head? = some (.text (field ++ ": map[string]"))) ↔
    field = field' ∧ rows ≠ [] := by
  cases rows with
  | nil => simp [printMap]
  | cons row rows =>
    constructor
    · rintro ⟨l, hl, hdepth, hwords⟩
      refine ⟨?_, List.cons_ne_nil _ _⟩
      simp only [printMap, List.isEmpty_cons, Bool.false_eq_true, if_false, programLines_blockWith,
        List.mem_cons, List.mem_append, List.not_mem_nil, or_false] at hl
      rcases hl with rfl | hl | rfl
      · simpa [mapOpener_inj, eq_comm] using hwords
      · -- The line belongs to a row.
        have hrow : 3 ≤ l.depth := le_depth_of_mem_programLines hl
        omega
      · exact absurd (by simpa using hwords) (mapOpener_ne_closer field)
    · rintro ⟨rfl, -⟩
      refine ⟨_, List.mem_cons_self, rfl, ?_⟩
      rfl

theorem mem_lines_registers {f : Func} {r : Registration} (hf : f.body = .registers r) {l : Line}
    (hdepth : l.depth = 2) :
    l ∈ (Decl.func f).lines ↔
      l ∈ programLines 2 (printMap "Methods" r.methodType (r.methods.map MethodRow.print)) ∨
        l ∈ programLines 2 (printMap "Streams" r.streamType (r.streams.map StreamRow.print)) := by
  have hne : ∀ depth words, depth ≠ 2 → l ≠ ⟨depth, words⟩ := fun depth words hd h =>
    hd (by rw [← hdepth, h])
  rw [lines_func, hf, Body.print, programLines_registration]
  simp only [List.mem_cons, List.mem_append, List.not_mem_nil, hne 0 _ (by decide),
    hne 1 _ (by decide), false_or, or_false]

theorem writesMap_iff {f : Func} {r : Registration} (hf : f.body = .registers r) (field : String) :
    (Decl.func f).WritesMap field ↔
      field = "Methods" ∧ r.methods ≠ [] ∨ field = "Streams" ∧ r.streams ≠ [] := by
  have hmethods : r.methods.map MethodRow.print ≠ [] ↔ r.methods ≠ [] := by simp
  have hstreams : r.streams.map StreamRow.print ≠ [] ↔ r.streams ≠ [] := by simp
  rw [← hmethods, ← hstreams, ← opens_printMap_iff r.methodType,
    ← opens_printMap_iff r.streamType]
  constructor
  · rintro ⟨l, hl, hdepth, hwords⟩
    rcases (mem_lines_registers hf hdepth).mp hl with hl | hl
    · exact Or.inl ⟨l, hl, hdepth, hwords⟩
    · exact Or.inr ⟨l, hl, hdepth, hwords⟩
  · rintro (⟨l, hl, hdepth, hwords⟩ | ⟨l, hl, hdepth, hwords⟩)
    · exact ⟨l, (mem_lines_registers hf hdepth).mpr (Or.inl hl), hdepth, hwords⟩
    · exact ⟨l, (mem_lines_registers hf hdepth).mpr (Or.inr hl), hdepth, hwords⟩

/-! ## Texts -/

/-- Whether a piece stands in a text. -/
def StandsIn (piece text : String) : Prop := ∃ before behind, text = before ++ piece ++ behind

section

variable {a b c : String} {imports : Imports} {ls ms : List Line}

theorem StandsIn.trans (hab : StandsIn a b) (hbc : StandsIn b c) : StandsIn a c := by
  obtain ⟨before, behind, rfl⟩ := hab
  obtain ⟨before', behind', rfl⟩ := hbc
  exact ⟨before' ++ before, behind ++ behind', by simp only [String.append_assoc]⟩

theorem standsIn_append (a b : String) : StandsIn a (a ++ b) := ⟨"", b, by simp⟩

theorem standsIn_linesText (h : ls <:+: ms) :
    StandsIn (linesText imports ls) (linesText imports ms) := by
  obtain ⟨front, back, rfl⟩ := h
  exact ⟨linesText imports front, linesText imports back, by simp only [linesText_append]⟩

/-- The words of a line stand in its text, behind the indent. -/
theorem standsIn_words (imports : Imports) (depth : Nat) (words : Phrase) :
    StandsIn (words.spell imports) (linesText imports [⟨depth, words⟩]) := by
  rw [linesText_cons, linesText_nil, String.append_empty, Line.text, lineText]
  split
  · next hnil => exact ⟨"", "\n", by rw [hnil]; rfl⟩
  · exact ⟨_, _, rfl⟩

/-- What is written before a function without a name stands in the text of its lines. -/
theorem standsIn_before_funcLit (imports : Imports) (depth : Nat) (before : String) (f : FuncLit) :
    StandsIn before (linesText imports (programLines depth (f.print before))) := by
  have hline : StandsIn before (Phrase.spell imports (.text (before ++ "func") ::
      signaturePhrase (f.params.map Param.phrase) f.results ++ [.text " \x7b"])) := by
    rw [List.cons_append, spell_cons, Word.spell]
    exact (standsIn_append _ "func").trans (standsIn_append _ _)
  rw [programLines_funcLit]
  exact (hline.trans (standsIn_words imports depth _)).trans
    (standsIn_linesText ((List.singleton_infix_iff _ _).mpr List.mem_cons_self))

theorem exists_intercalate_concat (separator last : String) (texts : List String) :
    ∃ front, separator.intercalate (texts ++ [last]) = front ++ last := by
  by_cases hnil : texts = []
  · exact ⟨"", by rw [hnil, List.nil_append, String.intercalate_singleton, String.empty_append]⟩
  · refine ⟨separator.intercalate texts ++ separator, ?_⟩
    rw [String.intercalate_append_of_ne_nil hnil (List.cons_ne_nil _ _),
      String.intercalate_singleton]

theorem Call.StandsOn.standsIn {call : Call} {words : Phrase} (h : call.StandsOn words)
    (imports : Imports) : StandsIn call.text (words.spell imports) := by
  cases h with
  | attempted =>
    refine ⟨"if err := ", "; err != nil \x7b", ?_⟩
    simp [Word.spell, String.append_assoc]
  | returned before =>
    obtain ⟨front, hfront⟩ := exists_intercalate_concat ", " call.text (before.map Operand.text)
    refine ⟨"return " ++ front, "", ?_⟩
    rw [hfront]
    simp [Word.spell, String.append_assoc]

end

end GoStubs.Go
