import GoStubs.Go.Phrase
import GoStubs.Go.Syntax
import GoStubs.Writer.Program
/-!
# Printing Go declarations

Each part of the syntax becomes a phrase or a program for the indenting writer, in the layout
that Go's own formatter produces. Names stay unspelled.

* `Decl.print`: one declaration.
* `printSections`: declarations with an empty line after each group.
* `idents`: the identifiers that a program mentions, in the order in which they are written.
-/

namespace GoStubs.Go

open GoStubs.Writer

/-! ## Types and signatures -/

def Ty.phrase : Ty → Phrase
  | named ident => [.ident ident]
  | declared name => [.text name]
  | pointer target => .text "*" :: target.phrase
  | error => [.text "error"]
  | anything => [.text "interface\x7b\x7d"]
  | decoder => [.text "func(interface\x7b\x7d) error"]

def Param.phrase (p : Param) : Phrase := .text (p.name ++ " ") :: p.ty.phrase

/-- How the results of a function are written, with a blank in front. -/
def resultsPhrase : List Ty → Phrase
  | [] => []
  | [ty] => .text " " :: ty.phrase
  | tys => .text " (" :: Phrase.separated ", " (tys.map Ty.phrase) ++ [.text ")"]

/-- How parameters and results are written. -/
def signaturePhrase (params : List Phrase) (results : List Ty) : Phrase :=
  .text "(" :: Phrase.separated ", " params ++ .text ")" :: resultsPhrase results

def MethodSpec.phrase (m : MethodSpec) : Phrase :=
  .text m.name :: signaturePhrase (m.params.map Ty.phrase) m.results

/-- How the line of a function or method is written, up to its brace. -/
def Func.header (f : Func) : Phrase :=
  .text "func " ::
    (match f.receiver with
      | some r => .text "(" :: r.phrase ++ [.text ") "]
      | none => []) ++
    .text f.name :: signaturePhrase (f.params.map Param.phrase) f.results

/-! ## Statements -/

def Operand.text : Operand → String
  | nil => "nil"
  | var name => name
  | address name => "&" ++ name
  | literal text => "\"" ++ text ++ "\""
  | wrapped wrapper value => "&" ++ wrapper ++ "\x7b" ++ value ++ "\x7d"

def operandsText (operands : List Operand) : String :=
  ", ".intercalate (operands.map Operand.text)

def Call.text (c : Call) : String := ".".intercalate c.path ++ "(" ++ operandsText c.args ++ ")"

/-- The statement that hands an error on. -/
def returnErrorLine : Phrase := [.text "return nil, err"]

def flagText (b : Bool) : String := if b then "true" else "false"

/-- The two lines that describe which sides of a stream do stream. -/
def streamFlags (clientStreaming serverStreaming : Bool) : Program Phrase :=
  .line [.text ("StreamingClient: " ++ flagText clientStreaming ++ ",")] ++
  .line [.text ("StreamingServer: " ++ flagText serverStreaming ++ ",")]

def StreamOpening.print (o : StreamOpening) : Program Phrase :=
  .blockWith
    (.text "stream, err := c.client.NewStream(ctx, &" :: o.descriptor.phrase ++ [.text "\x7b"])
    [.text ("\x7d, " ++ operandsText [.literal o.service, .literal o.method, o.request] ++ ")")]
    (streamFlags o.clientStreaming o.serverStreaming)

def Stmt.print : Stmt → Program Phrase
  | declare name ty => .line (.text ("var " ++ name ++ " ") :: ty.phrase)
  | allocate name ty => .line (.text (name ++ " := new(") :: ty.phrase ++ [.text ")"])
  | assign name value => .line [.text (name ++ " := " ++ value.text)]
  | attempt call =>
    .block [.text ("if err := " ++ call.text ++ "; err != nil")] (.line returnErrorLine)
  | returnError => .block [.text "if err != nil"] (.line returnErrorLine)
  | returns results => .line [.text ("return " ++ operandsText results)]
  | returnsCall before call =>
    .line [.text ("return " ++ ", ".intercalate (before.map Operand.text ++ [call.text]))]
  | returnsNew struct field value =>
    .blockWith [.text ("return &" ++ struct ++ "\x7b")] [.text "\x7d"]
      (.line [.text (field ++ ": " ++ value ++ ",")])
  | openStream opening => opening.print

def printStmts (stmts : List Stmt) : Program Phrase := .concat (stmts.map Stmt.print)

/-! ## Registration -/

/-- How a function without a name is written, after a text on its first line. -/
def FuncLit.print (before : String) (f : FuncLit) : Program Phrase :=
  .blockWith
    (.text (before ++ "func") ::
      signaturePhrase (f.params.map Param.phrase) f.results ++ [.text " \x7b"])
    [.text "\x7d,"] (printStmts f.body)

def MethodRow.print (r : MethodRow) : Program Phrase :=
  r.handler.print ("\"" ++ r.key ++ "\": ")

def StreamRow.print (r : StreamRow) : Program Phrase :=
  .blockWith [.text ("\"" ++ r.key ++ "\": \x7b")] [.text "\x7d,"]
    (r.handler.print "Handler: " ++ streamFlags r.clientStreaming r.serverStreaming)

/-- How a map with text keys is written as a field; one without rows is left out. -/
def printMap (field : String) (rowType : Ty) (rows : List (Program Phrase)) : Program Phrase :=
  if rows.isEmpty then .done
  else
    .blockWith (.text (field ++ ": map[string]") :: rowType.phrase ++ [.text "\x7b"])
      [.text "\x7d,"] (.concat rows)

def Registration.print (r : Registration) : Program Phrase :=
  .blockWith
    (.text ("srv.RegisterService(\"" ++ r.service ++ "\", &") :: r.descriptor.phrase ++
      [.text "\x7b"])
    [.text "\x7d)"]
    (printMap "Methods" r.methodType (r.methods.map MethodRow.print) ++
      printMap "Streams" r.streamType (r.streams.map StreamRow.print))

/-! ## Declarations -/

def Body.print : Body → Program Phrase
  | statements stmts => printStmts stmts
  | registers registration => registration.print

def Decl.print : Decl → Program Phrase
  | interface name methods embedded =>
    .block [.text ("type " ++ name ++ " interface")]
      (.concat (methods.map fun m => .line m.phrase) ++
        .concat (embedded.toList.map fun ty => .line ty.phrase))
  | struct name field ty =>
    .block [.text ("type " ++ name ++ " struct")]
      (.line ((field.toList.map fun f => .text (f ++ " ")) ++ ty.phrase))
  | func f => .block f.header f.body.print

/-- How declarations that stand together are written, with the empty line after them. -/
def Section.print (s : Section) : Program Phrase := .concat (s.map Decl.print) ++ .blankLine

def printSections (sections : List Section) : Program Phrase :=
  .concat (sections.map Section.print)

/-! ## The identifiers of a program -/

/-- The identifiers that an action writes. -/
def actionIdents : Action Phrase → List Ident
  | .write p | .writeln p => p.idents
  | .writeFormatted pieces =>
    pieces.flatMap fun
      | .plain p | .alignedRight _ p => p.idents
  | .blankLine | .indent | .dedent | .fail => []

/-- The identifiers that a program writes, in their order. -/
def programIdents : Program Phrase → List Ident
  | .done => []
  | .act a rest => actionIdents a ++ programIdents rest
  | .nest (.block header) body rest => header.idents ++ programIdents body ++ programIdents rest
  | .nest (.blockWith opener closer) body rest =>
    opener.idents ++ programIdents body ++ closer.idents ++ programIdents rest
  | .nest .indented body rest => programIdents body ++ programIdents rest

theorem programIdents_append (p q : Program Phrase) :
    programIdents (p ++ q) = programIdents p ++ programIdents q := by
  induction p with
  | done => rfl
  | act a rest ih =>
    change actionIdents a ++ programIdents (rest ++ q) = _
    rw [ih, programIdents, List.append_assoc]
  | nest f body rest _ ih =>
    change programIdents (.nest f body (rest ++ q)) = _
    cases f <;> simp [programIdents, ih]

end GoStubs.Go
