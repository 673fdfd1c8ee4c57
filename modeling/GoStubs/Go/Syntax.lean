import GoStubs.Go.Package
/-!
# Go declarations

The part of Go's syntax that stubs are made of, as far as a reader of generated code cares:
interfaces, structures, functions and methods, and the few statements in their bodies. Types name
identifiers of other packages by their import path; how these are spelled is left to the file.
-/

namespace GoStubs.Go

/-- A type. -/
inductive Ty where
  /-- A type that a package declares. -/
  | named (ident : Ident)
  /-- A type that is declared beside the code that mentions it. -/
  | declared (name : String)
  | pointer (target : Ty)
  | error
  /-- The interface without methods. -/
  | anything
  /-- A function that decodes into its argument. -/
  | decoder
  deriving DecidableEq, Repr

/-- A parameter of a function. -/
structure Param where
  name : String
  ty : Ty
  deriving DecidableEq, Repr

/-- An operand of a call or a result. -/
inductive Operand where
  /-- The value `nil`. -/
  | nil
  | var (name : String)
  | address (name : String)
  /-- A string literal, its text as it is. -/
  | literal (text : String)
  /-- The address of a new structure that holds a variable. -/
  | wrapped (wrapper value : String)
  deriving DecidableEq, Repr

/-- A call of a function or method. -/
structure Call where
  /-- The names on the way from a variable to the function. -/
  path : List String
  args : List Operand
  deriving DecidableEq, Repr

/-- The request for a new stream from a client. -/
structure StreamOpening where
  descriptor : Ty
  clientStreaming : Bool
  serverStreaming : Bool
  service : String
  method : String
  /-- The request that is sent at once, or `nil`. -/
  request : Operand
  deriving DecidableEq, Repr

/-- A statement. -/
inductive Stmt where
  /-- Declares a variable of a type. -/
  | declare (name : String) (ty : Ty)
  /-- Declares a variable that points to a new value of a type. -/
  | allocate (name : String) (ty : Ty)
  /-- Declares a variable for an operand. -/
  | assign (name : String) (value : Operand)
  /-- Makes a call and returns its error, if there is one. -/
  | attempt (call : Call)
  /-- Returns the error of the last call, if there is one. -/
  | returnError
  /-- Returns operands. -/
  | returns (results : List Operand)
  /-- Returns operands and after them what a call returns. -/
  | returnsCall (before : List Operand) (call : Call)
  /-- Returns the address of a new structure with one field set to a variable. -/
  | returnsNew (struct field value : String)
  /-- Declares `stream` and `err` for a new stream of the client `c`. -/
  | openStream (opening : StreamOpening)
  deriving DecidableEq, Repr

/-- A function without a name. -/
structure FuncLit where
  params : List Param
  results : List Ty
  body : List Stmt
  deriving DecidableEq, Repr

/-- A row of the map of unary methods. -/
structure MethodRow where
  key : String
  handler : FuncLit
  deriving DecidableEq, Repr

/-- A row of the map of streaming methods. -/
structure StreamRow where
  key : String
  handler : FuncLit
  clientStreaming : Bool
  serverStreaming : Bool
  deriving DecidableEq, Repr

/-- The registration of a service with the server `srv`. -/
structure Registration where
  service : String
  descriptor : Ty
  methodType : Ty
  /-- The rows of the map of unary methods; without one, the map is left out. -/
  methods : List MethodRow
  streamType : Ty
  /-- The rows of the map of streaming methods; without one, the map is left out. -/
  streams : List StreamRow
  deriving DecidableEq, Repr

/-- The body of a function. -/
inductive Body where
  | statements (stmts : List Stmt)
  | registers (registration : Registration)
  deriving DecidableEq, Repr

/-- A function, or a method if it has a receiver. -/
structure Func where
  receiver : Option Param
  name : String
  params : List Param
  results : List Ty
  body : Body
  deriving DecidableEq, Repr

/-- A method of an interface. -/
structure MethodSpec where
  name : String
  params : List Ty
  results : List Ty
  deriving DecidableEq, Repr

/-- A declaration at the top level of a file. -/
inductive Decl where
  /-- An interface with methods and perhaps an embedded interface. -/
  | interface (name : String) (methods : List MethodSpec) (embedded : Option Ty)
  /-- A structure with one field, which is embedded if it has no name. -/
  | struct (name : String) (field : Option String) (ty : Ty)
  /-- A function or a method. -/
  | func (func : Func)
  deriving DecidableEq, Repr

/-- Declarations that stand together, without an empty line between them. -/
abbrev Section := List Decl

/-- The name that a declaration adds to its file; methods add none. -/
def Decl.topLevelName? : Decl → Option String
  | interface name _ _ => some name
  | struct name _ _ => some name
  | func f => if f.receiver.isSome then none else some f.name

end GoStubs.Go
