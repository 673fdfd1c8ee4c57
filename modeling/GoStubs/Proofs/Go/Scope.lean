import GoStubs.Proofs.Go.Mention
/-!
# Packages and local names

The types of a declaration name identifiers of packages, and their aliases are names like any
other: inside a function, a parameter, the receiver or a variable of the same name hides an alias.
The identifiers that declarations mention are read off the syntax here, those in the bodies of
functions together with the local names that are in scope where they stand.

* `Ty.idents`, `MethodSpec.idents`, `Func.signatureIdents`: what the types of a declaration name.
* `Decl.mentions`: what the body of a function names, and under which local names.
* `map_ident_mentions`, `programIdents_decl`: these are all the identifiers that are printed there.
* `Decl.Hygienic`: no local name hides an alias where it is written.
-/

namespace GoStubs.Go

open GoStubs.Writer

/-! ## Types and signatures -/

/-- The identifiers that a type names. -/
def Ty.idents : Ty → List Ident
  | named ident => [ident]
  | pointer target => target.idents
  | declared _ | error | anything | decoder => []

/-- The identifiers of the types in a signature. -/
def signatureIdents (params results : List Ty) : List Ident :=
  params.flatMap Ty.idents ++ results.flatMap Ty.idents

def MethodSpec.idents (m : MethodSpec) : List Ident := signatureIdents m.params m.results

/-- The identifiers that stand before the body of a function. -/
def Func.signatureIdents (f : Func) : List Ident :=
  f.receiver.toList.flatMap (·.ty.idents) ++ Go.signatureIdents (f.params.map (·.ty)) f.results

@[simp] theorem idents_ident (i : Ident) (p : Phrase) :
    Phrase.idents (.ident i :: p) = i :: p.idents := rfl

@[simp] theorem idents_phrase (ty : Ty) : ty.phrase.idents = ty.idents := by
  induction ty with
  | pointer target ih => exact ih
  | _ => rfl

theorem idents_separated (separator : String) :
    ∀ ps : List Phrase, (Phrase.separated separator ps).idents = ps.flatMap Phrase.idents
  | [] => rfl
  | [p] => by simp [Phrase.separated]
  | p :: q :: ps => by
    rw [Phrase.separated, idents_append, idents_text, idents_separated separator (q :: ps)]
    rfl

theorem idents_resultsPhrase (results : List Ty) :
    (resultsPhrase results).idents = results.flatMap Ty.idents := by
  match results with
  | [] => rfl
  | [ty] => simp [resultsPhrase]
  | ty :: ty' :: tys =>
    have hphrase : resultsPhrase (ty :: ty' :: tys) =
        .text " (" :: Phrase.separated ", " ((ty :: ty' :: tys).map Ty.phrase) ++ [.text ")"] := rfl
    rw [hphrase, List.cons_append, idents_text, idents_append, idents_separated, List.flatMap_map]
    simp

theorem idents_signaturePhrase (params : List Phrase) (results : List Ty) :
    (signaturePhrase params results).idents =
      params.flatMap Phrase.idents ++ results.flatMap Ty.idents := by
  rw [signaturePhrase, List.cons_append, idents_text, idents_append, idents_separated, idents_text,
    idents_resultsPhrase]

theorem idents_params (params : List Param) :
    (params.map Param.phrase).flatMap Phrase.idents =
      (params.map (·.ty)).flatMap Ty.idents := by
  rw [List.flatMap_map, List.flatMap_map]
  exact congrArg (List.flatMap · params) (funext fun p => idents_phrase p.ty)

theorem idents_methodSpec (m : MethodSpec) : m.phrase.idents = m.idents := by
  rw [MethodSpec.phrase, idents_text, idents_signaturePhrase, List.flatMap_map]
  simp only [idents_phrase]
  rfl

theorem idents_header (f : Func) : f.header.idents = f.signatureIdents := by
  rw [Func.header, List.cons_append, idents_text, idents_append, idents_text,
    idents_signaturePhrase, idents_params]
  unfold Func.signatureIdents
  cases f.receiver with
  | none => rfl
  | some r => simp [Param.phrase, idents_append, Go.signatureIdents]

/-! ## Statements -/

/-- An identifier and the local names that are in scope where it is mentioned. -/
structure Mention where
  scope : List String
  ident : Ident
  deriving DecidableEq, Repr

/-- Identifiers that are mentioned under the same local names. -/
def mentionsUnder (scope : List String) (is : List Ident) : List Mention := is.map (⟨scope, ·⟩)

/-- The names that a statement declares for the statements after it. An attempt declares the error
of its call for itself alone. -/
def Stmt.declares : Stmt → List String
  | declare name _ | allocate name _ | assign name _ => [name]
  | openStream _ => ["stream", "err"]
  | attempt _ | returnError | returns _ | returnsCall .. | returnsNew .. => []

/-- The identifiers that a statement mentions, before its own names are declared. -/
def Stmt.idents : Stmt → List Ident
  | declare _ ty | allocate _ ty => ty.idents
  | openStream opening => opening.descriptor.idents
  | assign .. | attempt _ | returnError | returns _ | returnsCall .. | returnsNew .. => []

/-- What statements mention. -/
def stmtMentions (scope : List String) : List Stmt → List Mention
  | [] => []
  | s :: ss => mentionsUnder scope s.idents ++ stmtMentions (scope ++ s.declares) ss

/-! ## Bodies -/

/-- What a function without a name mentions; its parameters are names in its body only. -/
def FuncLit.mentions (scope : List String) (f : FuncLit) : List Mention :=
  mentionsUnder scope (signatureIdents (f.params.map (·.ty)) f.results) ++
    stmtMentions (scope ++ f.params.map (·.name)) f.body

/-- What a map of handlers mentions; without a row, it is left out. -/
def mapMentions (scope : List String) (rowType : Ty) (handlers : List FuncLit) : List Mention :=
  if handlers.isEmpty then []
  else mentionsUnder scope rowType.idents ++ handlers.flatMap (FuncLit.mentions scope)

def Registration.mentions (scope : List String) (r : Registration) : List Mention :=
  mentionsUnder scope r.descriptor.idents ++
    mapMentions scope r.methodType (r.methods.map (·.handler)) ++
    mapMentions scope r.streamType (r.streams.map (·.handler))

def Body.mentions (scope : List String) : Body → List Mention
  | statements stmts => stmtMentions scope stmts
  | registers registration => registration.mentions scope

/-- The names that a function declares for its body. -/
def Func.locals (f : Func) : List String := (f.receiver.toList ++ f.params).map (·.name)

/-- What the body of a declaration mentions. -/
def Decl.mentions : Decl → List Mention
  | func f => f.body.mentions f.locals
  | interface .. | struct .. => []

/-! ## All identifiers of a body -/

@[simp] theorem programIdents_line (p : Phrase) : programIdents (.line p) = p.idents := by
  simp [Program.line, programIdents, actionIdents]

@[simp] theorem programIdents_block (header : Phrase) (body : Program Phrase) :
    programIdents (.block header body) = header.idents ++ programIdents body := by
  simp [Program.block, programIdents]

@[simp] theorem programIdents_blockWith (opener closer : Phrase) (body : Program Phrase) :
    programIdents (.blockWith opener closer body) =
      opener.idents ++ programIdents body ++ closer.idents := by
  simp [Program.blockWith, programIdents]

theorem programIdents_concat (ps : List (Program Phrase)) :
    programIdents (.concat ps) = ps.flatMap programIdents := by
  induction ps with
  | nil => rfl
  | cons p ps ih => rw [Program.concat, programIdents_append, ih, List.flatMap_cons]

theorem programIdents_printSections (ss : List Section) :
    programIdents (printSections ss) = ss.flatten.flatMap fun d => programIdents d.print := by
  have hsection : ∀ s : Section,
      programIdents s.print = s.flatMap fun d => programIdents d.print := fun s => by
    simp [Section.print, programIdents_append, programIdents_concat, List.flatMap_map,
      Program.blankLine, programIdents, actionIdents]
  rw [printSections, programIdents_concat, List.flatMap_map, List.flatten_eq_flatMap,
    List.flatMap_assoc]
  exact congrArg (List.flatMap · ss) (funext hsection)

@[simp] theorem map_ident_mentionsUnder (scope : List String) (is : List Ident) :
    (mentionsUnder scope is).map (·.ident) = is := by
  simp [mentionsUnder, Function.comp_def]

theorem programIdents_streamFlags (c s : Bool) : programIdents (streamFlags c s) = [] := rfl

theorem programIdents_stmt (s : Stmt) : programIdents s.print = s.idents := by
  cases s with
  | declare name ty => simp [Stmt.print, Stmt.idents]
  | allocate name ty => simp [Stmt.print, Stmt.idents, idents_append]
  | openStream o =>
    simp [Stmt.print, Stmt.idents, StreamOpening.print, idents_append, programIdents_streamFlags]
  | _ => rfl

theorem map_ident_stmtMentions (stmts : List Stmt) :
    ∀ scope, (stmtMentions scope stmts).map (·.ident) = programIdents (printStmts stmts) := by
  induction stmts with
  | nil => exact fun _ => rfl
  | cons s ss ih =>
    intro scope
    have hcons : printStmts (s :: ss) = s.print ++ printStmts ss := rfl
    rw [stmtMentions, List.map_append, map_ident_mentionsUnder, ih, hcons, programIdents_append,
      programIdents_stmt]

theorem map_ident_funcLit (scope : List String) (before : String) (f : FuncLit) :
    (f.mentions scope).map (·.ident) = programIdents (f.print before) := by
  rw [FuncLit.mentions, List.map_append, map_ident_mentionsUnder, map_ident_stmtMentions,
    FuncLit.print, programIdents_blockWith, List.cons_append, idents_text, idents_append,
    idents_signaturePhrase, idents_params]
  simp [signatureIdents]

theorem map_ident_methodRow (scope : List String) (r : MethodRow) :
    (r.handler.mentions scope).map (·.ident) = programIdents r.print :=
  map_ident_funcLit scope _ r.handler

theorem map_ident_streamRow (scope : List String) (r : StreamRow) :
    (r.handler.mentions scope).map (·.ident) = programIdents r.print := by
  rw [map_ident_funcLit scope "Handler: "]
  simp [StreamRow.print, programIdents_append, programIdents_streamFlags]

theorem map_ident_mapMentions {ρ : Type} (scope : List String) (field : String) (rowType : Ty)
    {handler : ρ → FuncLit} {print : ρ → Program Phrase}
    (hprint : ∀ r, ((handler r).mentions scope).map (·.ident) = programIdents (print r))
    (rows : List ρ) :
    (mapMentions scope rowType (rows.map handler)).map (·.ident) =
      programIdents (printMap field rowType (rows.map print)) := by
  unfold mapMentions printMap
  cases rows with
  | nil => rfl
  | cons r rs =>
    simp [List.map_flatMap, programIdents_concat, List.flatMap_map, idents_append, hprint]

theorem map_ident_mentions (scope : List String) (b : Body) :
    (b.mentions scope).map (·.ident) = programIdents b.print := by
  cases b with
  | statements stmts => exact map_ident_stmtMentions stmts scope
  | registers r =>
    have hmethods := map_ident_mapMentions scope "Methods" r.methodType
      (map_ident_methodRow scope) r.methods
    have hstreams := map_ident_mapMentions scope "Streams" r.streamType
      (map_ident_streamRow scope) r.streams
    simp [Body.mentions, Registration.mentions, Body.print, Registration.print,
      programIdents_append, idents_append, hmethods, hstreams]

/-- The identifiers of a declaration, those of its body last. -/
def Decl.idents : Decl → List Ident
  | interface _ methods embedded =>
    methods.flatMap MethodSpec.idents ++ embedded.toList.flatMap Ty.idents
  | struct _ _ ty => ty.idents
  | func f => f.signatureIdents ++ (f.body.mentions f.locals).map (·.ident)

theorem programIdents_decl (d : Decl) : programIdents d.print = d.idents := by
  cases d with
  | interface name methods embedded =>
    simp [Decl.print, Decl.idents, programIdents_append, programIdents_concat, List.flatMap_map,
      idents_methodSpec]
  | struct name field ty => cases field <;> simp [Decl.print, Decl.idents]
  | func f => rw [Decl.print, programIdents_block, idents_header, Decl.idents, map_ident_mentions]

/-! ## Hidden aliases -/

/-- Whether a local name hides the alias under which an identifier is mentioned. -/
def Mention.Hidden (imports : Imports) (m : Mention) : Prop :=
  ∃ a ∈ m.scope, imports.spell m.ident = a ++ "." ++ m.ident.name

/-- Whether no alias is hidden in any of the mentions. -/
def Visible (imports : Imports) (ms : List Mention) : Prop := ∀ m ∈ ms, ¬ m.Hidden imports

/-- Whether every alias in the body of a declaration means its package. -/
def Decl.Hygienic (imports : Imports) (d : Decl) : Prop := Visible imports d.mentions

theorem visible_nil (imports : Imports) : Visible imports [] := nofun

theorem visible_append {imports : Imports} {xs ys : List Mention} :
    Visible imports (xs ++ ys) ↔ Visible imports xs ∧ Visible imports ys := List.forall_mem_append

theorem visible_flatMap {α : Type} {imports : Imports} {f : α → List Mention} {as : List α} :
    Visible imports (as.flatMap f) ↔ ∀ a ∈ as, Visible imports (f a) := List.forall_mem_flatMap

/-- Where the type of the rows is visible, a map hides what its rows hide. -/
theorem visible_mapMentions_iff {imports : Imports} {scope : List String} {rowType : Ty}
    (hrow : Visible imports (mentionsUnder scope rowType.idents)) (handlers : List FuncLit) :
    Visible imports (mapMentions scope rowType handlers) ↔
      ∀ f ∈ handlers, Visible imports (f.mentions scope) := by
  unfold mapMentions
  cases handlers with
  | nil => simp [visible_nil]
  | cons f fs =>
    rw [List.isEmpty_cons, if_neg (by decide), visible_append, visible_flatMap]
    exact and_iff_right hrow

end GoStubs.Go
