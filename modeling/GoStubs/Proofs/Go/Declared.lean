import GoStubs.Go.Syntax
/-!
# Reading declarations

What a reader looks up in the declarations of a file: the functions of a name, the methods of a
receiver, the methods that an interface lists, what a structure embeds, and the calls that a
body makes. Each look-up returns everything that fits, so that a result of one element also says
that there is no other.

* `methodsOn`: the methods of a receiver.
* `Satisfies`: a receiver has the methods that an interface lists.
-/

namespace GoStubs.Go

/-! ## Declarations -/

/-- The signature of a function: its name with the types of its parameters and results, as an
interface lists it. -/
def Func.spec (f : Func) : MethodSpec := ⟨f.name, f.params.map (·.ty), f.results⟩

/-- The functions of a name; methods are none. -/
def functionsNamed (name : String) (ds : List Decl) : List Func :=
  ds.filterMap fun
    | .func f => if f.receiver = none ∧ f.name = name then some f else none
    | .interface .. | .struct .. => none

/-- The methods whose receivers satisfy `p`. -/
def methodsWhere (p : Param → Bool) (ds : List Decl) : List Func :=
  ds.filterMap fun
    | .func f => if f.receiver.any p then some f else none
    | .interface .. | .struct .. => none

/-- The methods that are declared with a receiver. -/
def methodsOn (receiver : Param) (ds : List Decl) : List Func := methodsWhere (· = receiver) ds

/-- The methods of a structure, whatever their receivers are called. -/
def methodsOf (owner : String) (ds : List Decl) : List Func :=
  methodsWhere (·.ty = .pointer (.declared owner)) ds

/-- The interfaces of a name, each with the methods that it lists and what it embeds. -/
def interfacesNamed (name : String) (ds : List Decl) : List (List MethodSpec × Option Ty) :=
  ds.filterMap fun
    | .interface n methods embedded => if n = name then some (methods, embedded) else none
    | .struct .. | .func _ => none

/-- What the structures of a name embed. -/
def embeddedIn (name : String) (ds : List Decl) : List Ty :=
  ds.filterMap fun
    | .struct n none ty => if n = name then some ty else none
    | .struct _ (some _) _ | .interface .. | .func _ => none

/-- The registrations that functions make. -/
def registrations (ds : List Decl) : List Registration :=
  ds.filterMap fun
    | .func { body := .registers r, .. } => some r
    | .func { body := .statements _, .. } | .interface .. | .struct .. => none

/-- What answers the calls of a method: the handlers in both maps of a registration that stand under
a key. -/
def Registration.handlers (r : Registration) (key : String) : List FuncLit :=
  (r.methods.filter (·.key = key)).map (·.handler) ++
    (r.streams.filter (·.key = key)).map (·.handler)

/-! ## Bodies -/

/-- The calls that a statement makes, apart from that for a new stream. -/
def Stmt.calls : Stmt → List Call
  | attempt call | returnsCall _ call => [call]
  | declare .. | allocate .. | assign .. | returnError | returns _ | returnsNew ..
  | openStream _ => []

/-- The new streams that a statement asks for. -/
def Stmt.openings : Stmt → List StreamOpening
  | openStream opening => [opening]
  | declare .. | allocate .. | assign .. | attempt _ | returnError | returns _ | returnsCall ..
  | returnsNew .. => []

/-- The statements of a function. -/
def Func.statements (f : Func) : List Stmt :=
  match f.body with
  | .statements stmts => stmts
  | .registers _ => []

/-- The calls that a function makes, in their order. -/
def Func.calls (f : Func) : List Call := f.statements.flatMap Stmt.calls

/-- The new streams that a function asks for, in their order. -/
def Func.openings (f : Func) : List StreamOpening := f.statements.flatMap Stmt.openings

/-- The calls that a function without a name makes, in their order. -/
def FuncLit.calls (f : FuncLit) : List Call := f.body.flatMap Stmt.calls

/-! ## Interfaces -/

/-- Whether a receiver has exactly the methods of an interface: the interface is declared once, and
the methods that it lists, which have distinct names, are those of the receiver, one for one,
with the same names, the same types of parameters and the same types of results. -/
def Satisfies (ds : List Decl) (receiver : Param) (interface : String) : Prop :=
  ∃ methods embedded, interfacesNamed interface ds = [(methods, embedded)] ∧
    (methods.map (·.name)).Nodup ∧ (methodsOn receiver ds).map Func.spec = methods

end GoStubs.Go
