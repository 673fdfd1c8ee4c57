import GoStubs.Proofs.Go.Layout
/-!
# Printed declarations are laid out

What a declaration is printed as is a neat program, whatever is declared, as long as the names in
it do no harm: no name has a line end in it, and a name or type with which a line starts or ends
has no blank there and no brace. What that takes is said for each part of the syntax, next to the
proof that the part is printed neatly.

* `Ty.Tidy`, `Stmt.Tidy`, `Decl.Tidy` and their neighbours: what is asked of the names.
* `neat_stmt`, `neat_decl`: what is printed is neat.
* `laidOut_section`: declarations that stand together, with the empty line after them.
-/

namespace GoStubs.Go

open GoStubs.Writer

variable {imports : Imports}

/-! ## Types and signatures -/

/-- Whether a type is written on one line, and may stand at the end of it. -/
structure Ty.Tidy (imports : Imports) (ty : Ty) : Prop where
  oneLine : OneLine (ty.phrase.spell imports)
  ends : Ends false (ty.phrase.spell imports)

/-- Whether a parameter is written on one line. -/
structure Param.Tidy (imports : Imports) (p : Param) : Prop where
  name : OneLine p.name
  ty : OneLine (p.ty.phrase.spell imports)

/-- Whether a method of an interface makes a line of code. -/
structure MethodSpec.Tidy (imports : Imports) (m : MethodSpec) : Prop where
  name : OneLine m.name
  starts : Starts false (m.name ++ "(")
  params : ∀ ty ∈ m.params, ty.Tidy imports
  results : ∀ ty ∈ m.results, ty.Tidy imports

theorem tidy_named {i : Ident} (hline : OneLine (imports.spell i))
    (hends : Ends false (imports.spell i)) : (Ty.named i).Tidy imports := by
  have hspell : (Ty.named i).phrase.spell imports = imports.spell i := by
    rw [Ty.phrase, spell_cons, spell_nil, String.append_empty, Word.spell]
  exact ⟨hspell ▸ hline, hspell ▸ hends⟩

theorem tidy_declared {name : String} (hline : OneLine name) (hends : Ends false name) :
    (Ty.declared name).Tidy imports := by
  have hspell : (Ty.declared name).phrase.spell imports = name := spell_text imports name
  exact ⟨hspell ▸ hline, hspell ▸ hends⟩

theorem Ty.Tidy.pointer {ty : Ty} (h : ty.Tidy imports) : (Ty.pointer ty).Tidy imports := by
  have hspell : (Ty.pointer ty).phrase.spell imports = "*" ++ ty.phrase.spell imports :=
    spell_cons imports _ _
  constructor
  · rw [hspell, oneLine_append]
    exact ⟨by decide, h.oneLine⟩
  · rw [hspell]
    exact h.ends.append _

theorem tidy_error : Ty.error.Tidy imports := by
  have hspell : Ty.error.phrase.spell imports = "error" := spell_text imports _
  constructor <;> rw [hspell] <;> decide

theorem tidy_anything : Ty.anything.Tidy imports := by
  have hspell : Ty.anything.phrase.spell imports = "interface\x7b\x7d" := spell_text imports _
  constructor <;> rw [hspell] <;> decide

theorem tidy_decoder : Ty.decoder.Tidy imports := by
  have hspell : Ty.decoder.phrase.spell imports = "func(interface\x7b\x7d) error" :=
    spell_text imports _
  constructor <;> rw [hspell] <;> decide

theorem Param.Tidy.oneLine {p : Param} (h : p.Tidy imports) :
    OneLine (p.phrase.spell imports) := by
  simp only [Param.phrase, spell_cons, Word.spell, oneLine_append]
  exact ⟨⟨h.name, by decide⟩, h.ty⟩

/-- A separator between phrases makes no new line. -/
theorem oneLine_separated {separator : String} (hseparator : OneLine separator) {ps : List Phrase}
    (h : ∀ p ∈ ps, OneLine (p.spell imports)) :
    OneLine ((Phrase.separated separator ps).spell imports) := by
  induction ps with
  | nil =>
    show OneLine ""
    decide
  | cons p ps ih =>
    obtain ⟨hp, hps⟩ := List.forall_mem_cons.mp h
    cases ps with
    | nil => exact hp
    | cons q ps =>
      rw [Phrase.separated, spell_append, spell_text_cons, oneLine_append, oneLine_append]
      exact ⟨hp, hseparator, ih hps⟩

theorem oneLine_tys {tys : List Ty} (h : ∀ ty ∈ tys, ty.Tidy imports) :
    ∀ p ∈ tys.map Ty.phrase, OneLine (Phrase.spell imports p) :=
  List.forall_mem_map.mpr fun ty hty => (h ty hty).oneLine

theorem oneLine_params {ps : List Param} (h : ∀ p ∈ ps, p.Tidy imports) :
    ∀ p ∈ ps.map Param.phrase, OneLine (Phrase.spell imports p) :=
  List.forall_mem_map.mpr fun p hp => (h p hp).oneLine

theorem resultsPhrase_cons_cons (ty ty' : Ty) (tys : List Ty) : resultsPhrase (ty :: ty' :: tys) =
    (.text " (" :: Phrase.separated ", " ((ty :: ty' :: tys).map Ty.phrase)) ++ [.text ")"] := rfl

theorem oneLine_results {tys : List Ty} (h : ∀ ty ∈ tys, ty.Tidy imports) :
    OneLine ((resultsPhrase tys).spell imports) := by
  match tys with
  | [] =>
    show OneLine ""
    decide
  | [ty] =>
    rw [resultsPhrase, spell_text_cons, oneLine_append]
    exact ⟨by decide, (h ty (List.mem_singleton_self ty)).oneLine⟩
  | ty :: ty' :: tys =>
    rw [resultsPhrase_cons_cons, spell_append, spell_text_cons, spell_text, oneLine_append,
      oneLine_append]
    exact ⟨⟨by decide, oneLine_separated (by decide) (oneLine_tys h)⟩, by decide⟩

theorem oneLine_signature {params : List Phrase} {results : List Ty}
    (hparams : ∀ p ∈ params, OneLine (p.spell imports))
    (hresults : ∀ ty ∈ results, ty.Tidy imports) :
    OneLine ((signaturePhrase params results).spell imports) := by
  rw [signaturePhrase, spell_append, spell_text_cons, spell_text_cons, oneLine_append,
    oneLine_append, oneLine_append]
  exact ⟨⟨by decide, oneLine_separated (by decide) hparams⟩, by decide, oneLine_results hresults⟩

/-- A signature ends in a parenthesis or with its only result. -/
theorem ends_signature (params : List Phrase) {results : List Ty}
    (hresults : ∀ ty ∈ results, ty.Tidy imports) :
    Ends false ((signaturePhrase params results).spell imports) := by
  have hparen : Ends false ")" := by decide
  rw [signaturePhrase, spell_append, spell_text_cons, spell_text_cons]
  refine Ends.append ?_ _
  match results with
  | [] => exact hparen
  | [ty] =>
    rw [resultsPhrase, spell_text_cons]
    exact ((hresults ty (List.mem_singleton_self ty)).ends.append _).append _
  | ty :: ty' :: tys =>
    rw [resultsPhrase_cons_cons, spell_append, spell_text]
    exact (hparen.append _).append _

/-! ## Lines and frames -/

theorem neat_line {words : Phrase} (h : Shape false false (words.spell imports)) :
    Neat imports (.line words) := ⟨h, trivial⟩

/-- The brace that opens a block is the writer's. -/
theorem neat_block {header : Phrase} {body : Program Phrase}
    (hline : OneLine (header.spell imports)) (hstarts : Starts false (header.spell imports))
    (hbody : Neat imports body) : Neat imports (.block header body) := by
  refine ⟨?_, hbody, trivial⟩
  have hbrace : Ends true " \x7b" := by decide
  rw [spell_append, spell_text]
  exact ⟨oneLine_append.mpr ⟨hline, by decide⟩, hstarts.append _, hbrace.append _⟩

theorem neat_blockWith {opener closer : Phrase} {body : Program Phrase}
    (hopener : Shape false true (opener.spell imports))
    (hcloser : Shape true false (closer.spell imports)) (hbody : Neat imports body) :
    Neat imports (.blockWith opener closer body) := ⟨⟨hopener, hcloser⟩, hbody, trivial⟩

/-- The closing line of a frame is the same in all files. -/
theorem shape_closer {s : String} (hline : OneLine s) (hstarts : Starts true s)
    (hends : Ends false s) : Shape true false (Phrase.spell imports [.text s]) := by
  rw [spell_text]
  exact ⟨hline, hstarts, hends⟩

/-! ## Statements -/

/-- Whether an operand is written on one line, and may stand at the end of it. -/
def Operand.Tidy : Operand → Prop
  | nil => True
  | var name | address name => OneLine name ∧ Ends false name
  | literal text => OneLine text
  | wrapped wrapper value => OneLine wrapper ∧ OneLine value

/-- Whether a call is written on one line. -/
structure Call.Tidy (c : Call) : Prop where
  path : ∀ name ∈ c.path, OneLine name
  args : ∀ o ∈ c.args, o.Tidy

/-- Whether a request for a stream is written on the lines that it should be. -/
structure StreamOpening.Tidy (imports : Imports) (o : StreamOpening) : Prop where
  descriptor : o.descriptor.Tidy imports
  service : OneLine o.service
  method : OneLine o.method
  request : o.request.Tidy

/-- Whether the names in a statement do no harm. A statement that returns has something to return.
-/
def Stmt.Tidy (imports : Imports) : Stmt → Prop
  | declare name ty => OneLine name ∧ ty.Tidy imports
  | allocate name ty => (OneLine name ∧ Starts false name) ∧ ty.Tidy imports
  | assign name value => (OneLine name ∧ Starts false name) ∧ value.Tidy
  | attempt call => call.Tidy
  | returnError => True
  | returns results => results ≠ [] ∧ ∀ o ∈ results, o.Tidy
  | returnsCall before call => (∀ o ∈ before, o.Tidy) ∧ call.Tidy
  | returnsNew struct field value =>
    OneLine struct ∧ (OneLine field ∧ Starts false field) ∧ OneLine value
  | openStream opening => opening.Tidy imports

theorem Operand.Tidy.text {o : Operand} (h : o.Tidy) : OneLine o.text ∧ Ends false o.text := by
  cases o with
  | nil => exact ⟨by decide, by decide⟩
  | var name => exact h
  | address name => exact ⟨oneLine_append.mpr ⟨by decide, h.1⟩, h.2.append _⟩
  | literal text =>
    have hquote : Ends false "\"" := by decide
    exact ⟨oneLine_append.mpr ⟨oneLine_append.mpr ⟨by decide, h⟩, by decide⟩, hquote.append _⟩
  | wrapped wrapper value =>
    have hbrace : Ends false "\x7d" := by decide
    refine ⟨?_, hbrace.append _⟩
    simp only [Operand.text, oneLine_append]
    exact ⟨⟨⟨⟨by decide, h.1⟩, by decide⟩, h.2⟩, by decide⟩

theorem oneLine_operands {os : List Operand} (h : ∀ o ∈ os, o.Tidy) : OneLine (operandsText os) :=
  oneLine_intercalate (by decide) (List.forall_mem_map.mpr fun o ho => (h o ho).text.1)

theorem Call.Tidy.oneLine {c : Call} (h : c.Tidy) : OneLine c.text := by
  simp only [Call.text, oneLine_append]
  exact ⟨⟨⟨oneLine_intercalate (by decide) h.path, by decide⟩, oneLine_operands h.args⟩, by decide⟩

theorem ends_call (c : Call) : Ends false c.text := by
  have hparen : Ends false ")" := by decide
  exact hparen.append _

theorem neat_returnError : Neat imports (.line returnErrorLine) := by
  refine neat_line ?_
  rw [returnErrorLine, spell_text]
  exact ⟨by decide, by decide, by decide⟩

theorem neat_streamFlags (clientStreaming serverStreaming : Bool) :
    Neat imports (streamFlags clientStreaming serverStreaming) := by
  refine (neat_line ?_).append (neat_line ?_)
  · rw [spell_text]
    cases clientStreaming <;> exact ⟨by decide, by decide, by decide⟩
  · rw [spell_text]
    cases serverStreaming <;> exact ⟨by decide, by decide, by decide⟩

theorem neat_openStream {o : StreamOpening} (h : o.Tidy imports) : Neat imports o.print := by
  refine neat_blockWith ?_ ?_ (neat_streamFlags _ _)
  · have hbrace : Ends true "\x7b" := by decide
    rw [spell_append, spell_text_cons, spell_text]
    exact ⟨oneLine_append.mpr ⟨oneLine_append.mpr ⟨by decide, h.descriptor.oneLine⟩, by decide⟩,
      .append (.append (by decide) _) _, hbrace.append _⟩
  · have hparen : Ends false ")" := by decide
    have hoperands : ∀ a ∈ [.literal o.service, .literal o.method, o.request], a.Tidy := by
      simp only [List.forall_mem_cons]
      exact ⟨h.service, h.method, h.request, nofun⟩
    refine shape_closer ?_ (.append (.append (by decide) _) _) (hparen.append _)
    exact oneLine_append.mpr ⟨oneLine_append.mpr ⟨by decide, oneLine_operands hoperands⟩, by decide⟩

/-- A statement is printed neatly. -/
theorem neat_stmt {s : Stmt} (h : s.Tidy imports) : Neat imports s.print := by
  cases s with
  | declare name ty =>
    refine neat_line ?_
    rw [spell_text_cons]
    refine ⟨?_, .append (.append (.append (by decide) _) _) _, h.2.ends.append _⟩
    simp only [oneLine_append]
    exact ⟨⟨⟨by decide, h.1⟩, by decide⟩, h.2.oneLine⟩
  | allocate name ty =>
    have hparen : Ends false ")" := by decide
    refine neat_line ?_
    rw [spell_append, spell_text_cons, spell_text]
    refine ⟨?_, .append (.append (h.1.2.append _) _) _, hparen.append _⟩
    simp only [oneLine_append]
    exact ⟨⟨⟨h.1.1, by decide⟩, h.2.oneLine⟩, by decide⟩
  | assign name value =>
    obtain ⟨hline, hends⟩ := Operand.Tidy.text h.2
    refine neat_line ?_
    rw [spell_text]
    refine ⟨?_, .append (h.1.2.append _) _, hends.append _⟩
    simp only [oneLine_append]
    exact ⟨⟨h.1.1, by decide⟩, hline⟩
  | attempt call =>
    refine neat_block ?_ ?_ neat_returnError
    · rw [spell_text]
      exact oneLine_append.mpr ⟨oneLine_append.mpr ⟨by decide, h.oneLine⟩, by decide⟩
    · rw [spell_text]
      exact .append (.append (by decide) _) _
  | returnError =>
    refine neat_block ?_ ?_ neat_returnError
    · rw [spell_text]
      decide
    · rw [spell_text]
      decide
  | returns results =>
    have hends : Ends false (operandsText results) :=
      ends_intercalate _ (mt List.map_eq_nil_iff.mp h.1)
        (List.forall_mem_map.mpr fun o ho => (h.2 o ho).text.2)
    refine neat_line ?_
    rw [spell_text]
    exact ⟨oneLine_append.mpr ⟨by decide, oneLine_operands h.2⟩, .append (by decide) _,
      hends.append _⟩
  | returnsCall before call =>
    have htexts : ∀ s ∈ before.map Operand.text ++ [call.text], OneLine s ∧ Ends false s := by
      simp only [List.forall_mem_append, List.forall_mem_map, List.forall_mem_singleton]
      exact ⟨fun o ho => (h.1 o ho).text, h.2.oneLine, ends_call call⟩
    have hends : Ends false (", ".intercalate (before.map Operand.text ++ [call.text])) :=
      ends_intercalate _ (List.append_ne_nil_of_right_ne_nil _ (List.cons_ne_nil _ _))
        fun s hs => (htexts s hs).2
    refine neat_line ?_
    rw [spell_text]
    exact ⟨oneLine_append.mpr
      ⟨by decide, oneLine_intercalate (by decide) fun s hs => (htexts s hs).1⟩,
      .append (by decide) _, hends.append _⟩
  | returnsNew struct field value =>
    have hbrace : Ends true "\x7b" := by decide
    have hcomma : Ends false "," := by decide
    refine neat_blockWith ?_ (shape_closer (by decide) (by decide) (by decide)) (neat_line ?_)
    · rw [spell_text]
      refine ⟨?_, .append (.append (by decide) _) _, hbrace.append _⟩
      exact oneLine_append.mpr ⟨oneLine_append.mpr ⟨by decide, h.1⟩, by decide⟩
    · rw [spell_text]
      refine ⟨?_, .append (.append (h.2.1.2.append _) _) _, hcomma.append _⟩
      simp only [oneLine_append]
      exact ⟨⟨⟨h.2.1.1, by decide⟩, h.2.2⟩, by decide⟩
  | openStream opening => exact neat_openStream h

theorem neat_stmts {stmts : List Stmt} (h : ∀ s ∈ stmts, s.Tidy imports) :
    Neat imports (printStmts stmts) := .concat_map fun s hs => neat_stmt (h s hs)

/-! ## Registration -/

/-- Whether a function without a name is written on the lines that it should be. -/
structure FuncLit.Tidy (imports : Imports) (f : FuncLit) : Prop where
  params : ∀ p ∈ f.params, p.Tidy imports
  results : ∀ ty ∈ f.results, ty.Tidy imports
  body : ∀ s ∈ f.body, s.Tidy imports

/-- Whether a registration is written on the lines that it should be. -/
structure Registration.Tidy (imports : Imports) (r : Registration) : Prop where
  service : OneLine r.service
  descriptor : r.descriptor.Tidy imports
  methodType : r.methodType.Tidy imports
  methods : ∀ row ∈ r.methods, OneLine row.key ∧ row.handler.Tidy imports
  streamType : r.streamType.Tidy imports
  streams : ∀ row ∈ r.streams, OneLine row.key ∧ row.handler.Tidy imports

theorem neat_funcLit {before : String} {f : FuncLit} (hline : OneLine before)
    (hstarts : Starts false before) (h : f.Tidy imports) : Neat imports (f.print before) := by
  have hbrace : Ends true " \x7b" := by decide
  have hsignature := oneLine_signature (oneLine_params h.params) h.results
  refine neat_blockWith ?_ (shape_closer (by decide) (by decide) (by decide)) (neat_stmts h.body)
  rw [spell_append, spell_text_cons, spell_text]
  refine ⟨?_, .append (.append (hstarts.append _) _) _, hbrace.append _⟩
  simp only [oneLine_append]
  exact ⟨⟨⟨hline, by decide⟩, hsignature⟩, by decide⟩

theorem neat_methodRow {row : MethodRow} (hkey : OneLine row.key)
    (h : row.handler.Tidy imports) : Neat imports row.print := by
  refine neat_funcLit ?_ (.append (.append (by decide) _) _) h
  exact oneLine_append.mpr ⟨oneLine_append.mpr ⟨by decide, hkey⟩, by decide⟩

theorem neat_streamRow {row : StreamRow} (hkey : OneLine row.key)
    (h : row.handler.Tidy imports) : Neat imports row.print := by
  have hbrace : Ends true "\": \x7b" := by decide
  refine neat_blockWith ?_ (shape_closer (by decide) (by decide) (by decide))
    ((neat_funcLit (by decide) (by decide) h).append (neat_streamFlags _ _))
  rw [spell_text]
  refine ⟨?_, .append (.append (by decide) _) _, hbrace.append _⟩
  exact oneLine_append.mpr ⟨oneLine_append.mpr ⟨by decide, hkey⟩, by decide⟩

/-- A map is printed neatly whether or not there is a row in it. -/
theorem neat_printMap {field : String} {rowType : Ty} {rows : List (Program Phrase)}
    (hline : OneLine field) (hstarts : Starts false field) (hty : rowType.Tidy imports)
    (hrows : ∀ p ∈ rows, Neat imports p) : Neat imports (printMap field rowType rows) := by
  unfold printMap
  split
  · trivial
  · have hbrace : Ends true "\x7b" := by decide
    refine neat_blockWith ?_ (shape_closer (by decide) (by decide) (by decide)) (.concat hrows)
    rw [spell_append, spell_text_cons, spell_text]
    refine ⟨?_, .append (.append (hstarts.append _) _) _, hbrace.append _⟩
    simp only [oneLine_append]
    exact ⟨⟨⟨hline, by decide⟩, hty.oneLine⟩, by decide⟩

theorem neat_registration {r : Registration} (h : r.Tidy imports) : Neat imports r.print := by
  have hbrace : Ends true "\x7b" := by decide
  have hmethods : ∀ p ∈ r.methods.map MethodRow.print, Neat imports p :=
    List.forall_mem_map.mpr fun row hrow =>
      neat_methodRow (h.methods row hrow).1 (h.methods row hrow).2
  have hstreams : ∀ p ∈ r.streams.map StreamRow.print, Neat imports p :=
    List.forall_mem_map.mpr fun row hrow =>
      neat_streamRow (h.streams row hrow).1 (h.streams row hrow).2
  refine neat_blockWith ?_ (shape_closer (by decide) (by decide) (by decide))
    ((neat_printMap (by decide) (by decide) h.methodType hmethods).append
      (neat_printMap (by decide) (by decide) h.streamType hstreams))
  rw [spell_append, spell_text_cons, spell_text]
  refine ⟨?_, .append (.append (.append (.append (by decide) _) _) _) _, hbrace.append _⟩
  simp only [oneLine_append]
  exact ⟨⟨⟨⟨by decide, h.service⟩, by decide⟩, h.descriptor.oneLine⟩, by decide⟩

/-! ## Declarations -/

/-- Whether the body of a function is written on the lines that it should be. -/
def Body.Tidy (imports : Imports) : Body → Prop
  | statements stmts => ∀ s ∈ stmts, s.Tidy imports
  | registers registration => registration.Tidy imports

/-- Whether a function or method is written on the lines that it should be. -/
structure Func.Tidy (imports : Imports) (f : Func) : Prop where
  receiver : ∀ p ∈ f.receiver, p.Tidy imports
  name : OneLine f.name
  params : ∀ p ∈ f.params, p.Tidy imports
  results : ∀ ty ∈ f.results, ty.Tidy imports
  body : f.body.Tidy imports

/-- Whether the names in a declaration do no harm. -/
def Decl.Tidy (imports : Imports) : Decl → Prop
  | interface name methods embedded =>
    OneLine name ∧ (∀ m ∈ methods, m.Tidy imports) ∧
      ∀ ty ∈ embedded, ty.Tidy imports ∧ Starts false (ty.phrase.spell imports)
  | struct name (some field) ty =>
    OneLine name ∧ (OneLine field ∧ Starts false field) ∧ ty.Tidy imports
  | struct name none ty =>
    OneLine name ∧ ty.Tidy imports ∧ Starts false (ty.phrase.spell imports)
  | func f => f.Tidy imports

theorem neat_methodSpec {m : MethodSpec} (h : m.Tidy imports) : Neat imports (.line m.phrase) := by
  refine neat_line ?_
  rw [MethodSpec.phrase, spell_text_cons]
  refine ⟨?_, ?_, (ends_signature _ h.results).append _⟩
  · exact oneLine_append.mpr ⟨h.name, oneLine_signature (oneLine_tys h.params) h.results⟩
  · rw [signaturePhrase, spell_append, spell_text_cons, ← String.append_assoc,
      ← String.append_assoc]
    exact (h.starts.append _).append _

theorem neat_tyLine {ty : Ty} (h : ty.Tidy imports)
    (hstarts : Starts false (ty.phrase.spell imports)) : Neat imports (.line ty.phrase) :=
  neat_line ⟨h.oneLine, hstarts, h.ends⟩

theorem oneLine_header {f : Func} (h : f.Tidy imports) : OneLine (f.header.spell imports) := by
  have hsignature := oneLine_signature (oneLine_params h.params) h.results
  rw [Func.header, spell_append, spell_text_cons, spell_text_cons, oneLine_append, oneLine_append,
    oneLine_append]
  refine ⟨⟨by decide, ?_⟩, h.name, hsignature⟩
  cases hreceiver : f.receiver with
  | none =>
    show OneLine ""
    decide
  | some r =>
    have hr : r.Tidy imports := h.receiver r hreceiver
    rw [spell_append, spell_text_cons, spell_text, oneLine_append, oneLine_append]
    exact ⟨⟨by decide, hr.oneLine⟩, by decide⟩

theorem starts_header (f : Func) : Starts false (f.header.spell imports) := by
  rw [Func.header, spell_append, spell_text_cons]
  exact .append (.append (by decide) _) _

theorem neat_body {body : Body} (h : body.Tidy imports) : Neat imports body.print := by
  cases body with
  | statements stmts => exact neat_stmts h
  | registers registration => exact neat_registration h

theorem neat_interface {name : String} {methods : List MethodSpec} {embedded : Option Ty}
    (h : (Decl.interface name methods embedded).Tidy imports) :
    Neat imports (Decl.interface name methods embedded).print := by
  obtain ⟨hname, hmethods, hembedded⟩ := h
  refine neat_block ?_ ?_ (.append (.concat_map fun m hm => neat_methodSpec (hmethods m hm))
    (.concat_map fun ty hty => ?_))
  · rw [spell_text]
    exact oneLine_append.mpr ⟨oneLine_append.mpr ⟨by decide, hname⟩, by decide⟩
  · rw [spell_text]
    exact .append (.append (by decide) _) _
  · obtain ⟨htidy, hstarts⟩ := hembedded ty (Option.mem_toList.mp hty)
    exact neat_tyLine htidy hstarts

theorem neat_struct {name : String} {field : Option String} {ty : Ty}
    (h : (Decl.struct name field ty).Tidy imports) :
    Neat imports (Decl.struct name field ty).print := by
  have hname : OneLine name := by
    cases field with
    | none => exact h.1
    | some field => exact h.1
  refine neat_block ?_ ?_ ?_
  · rw [spell_text]
    exact oneLine_append.mpr ⟨oneLine_append.mpr ⟨by decide, hname⟩, by decide⟩
  · rw [spell_text]
    exact .append (.append (by decide) _) _
  · cases field with
    | none => exact neat_tyLine h.2.1 h.2.2
    | some field =>
      obtain ⟨-, ⟨hline, hstarts⟩, hty⟩ := h
      refine neat_line ?_
      rw [spell_append, Option.toList_some, List.map_singleton, spell_text]
      refine ⟨?_, .append (hstarts.append _) _, hty.ends.append _⟩
      simp only [oneLine_append]
      exact ⟨⟨hline, by decide⟩, hty.oneLine⟩

/-- A declaration is printed neatly. -/
theorem neat_decl {d : Decl} (h : d.Tidy imports) : Neat imports d.print := by
  cases d with
  | interface name methods embedded => exact neat_interface h
  | struct name field ty => exact neat_struct h
  | func f => exact neat_block (oneLine_header h) (starts_header f) (neat_body h.body)

/-! ## Declarations that stand together -/

/-- A declaration starts with a line of code, so it may stand behind an empty line. -/
theorem laidOut_decl {d : Decl} (h : d.Tidy imports) (afterCode : Bool) :
    LaidOut ⟨0, afterCode⟩ (d.lines.map (Line.shown imports)) ⟨0, true⟩ := by
  have hblock : ∃ header body, d.print = .block header body := by
    cases d with
    | interface name methods embedded => exact ⟨_, _, rfl⟩
    | struct name field ty => exact ⟨_, _, rfl⟩
    | func f => exact ⟨_, _, rfl⟩
  obtain ⟨header, body, hprint⟩ := hblock
  have hneat := neat_decl h
  rw [hprint] at hneat
  have hframe := LaidOut.frame afterCode hneat.1 shape_brace (hneat.2.1.laidOut 1)
  rw [Decl.lines, hprint, programLines_block]
  simpa using hframe

/-- Declarations that stand together have an empty line behind them, and none between them. -/
theorem laidOut_section {s : Section} (hne : s ≠ []) (h : ∀ d ∈ s, d.Tidy imports) :
    LaidOut ⟨0, false⟩ ((Section.lines s).map (Line.shown imports)) ⟨0, false⟩ := by
  have hblank : LaidOut ⟨0, true⟩ [Line.shown imports ⟨0, []⟩] ⟨0, false⟩ := .blank .nil
  cases s with
  | nil => exact absurd rfl hne
  | cons d ds =>
    obtain ⟨hd, hds⟩ := List.forall_mem_cons.mp h
    have hrest : LaidOut ⟨0, true⟩ ((ds.flatMap Decl.lines).map (Line.shown imports))
        ⟨0, true⟩ := by
      rw [List.map_flatMap]
      exact .flatMap fun d hd => laidOut_decl (hds d hd) true
    rw [Section.lines, List.map_append, List.flatMap_cons, List.map_append]
    exact ((laidOut_decl hd false).append hrest).append hblank

end GoStubs.Go
