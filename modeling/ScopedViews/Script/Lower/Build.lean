import ScopedViews.Script.Tree
/-!
# Building scripts

The pieces of script that lowering puts in place of others.  They stand nowhere in the text.
-/

namespace ScopedViews.Script

/-- Where a piece stands that is not in the text. -/
def nowhere : Span := ⟨0, 0⟩

namespace Build

def name (n : String) : Expr := .name nowhere n
def nameOf (n : String) : Name := ⟨nowhere, n⟩
def target (n : String) : Pattern := .name nowhere n
def text (s : String) : Expr := .string nowhere s
def self : Expr := .thisRef nowhere
def voidZero : Expr := .unary nowhere .void (.number nowhere 0 "0")
def truth : Expr := .boolean nowhere true
def one : Expr := .number nowhere 1 "1"
def list (es : List Expr) : Expr := .array nowhere es
def emptyObject : Expr := .object nowhere []
def assign (target : Pattern) (value : Expr) : Expr := .assign nowhere .plain target value
def assignName (n : String) (value : Expr) : Expr := assign (target n) value
def call (callee : Expr) (arguments : List Expr) : Expr := .call nowhere callee arguments false
def member (object : Expr) (n : String) : Expr := .member nowhere object (nameOf n) false
def method (object : Expr) (n : String) (arguments : List Expr) : Expr :=
  call (member object n) arguments
def either (a b : Expr) : Expr := .logical nowhere .or a b
def both (a b : Expr) : Expr := .logical nowhere .and a b
def power (a b : Expr) : Expr := method (name "Math") "pow" [a, b]
def conditional (test yes no : Expr) : Expr := .conditional nowhere test yes no

/-- Expressions one after another. -/
def sequence : List Expr → Expr
  | [e] => e
  | es => .sequence nowhere es

def statement (e : Expr) : Stmt := .expression nowhere e
def give (e : Expr) : Stmt := .ret nowhere (some e)
def block (body : List Stmt) : Stmt := .block nowhere body

def parts (form : FunctionForm) (n : Option Name) (params : List Pattern) (body : List Stmt) :
    FunctionParts where
  span := nowhere
  form
  name := n
  isAsync := false
  generator := false
  params
  bodySpan := nowhere
  directives := []
  body
  concise := false

def function (form : FunctionForm) (n : Option Name) (params : List Pattern) (body : List Stmt) :
    Function := (parts form n params body).whole

/-- `(params) => value` -/
def arrow (params : List Pattern) (value : Expr) : Expr :=
  .function { parts .arrow none params [statement value] with concise := true }.whole

/-- A body in an arrow function that is called on the spot. -/
def callBody (body : List Stmt) : Expr := call (.function (function .arrow none [] body)) []

/-- `n = value`, or `n`, for every pair. -/
def declarators (ds : List (String × Option Expr)) : List Pattern :=
  ds.map fun (n, value) =>
    match value with
    | some e => .default nowhere (target n) e
    | none => target n

def declareAs (kind : DeclKind) (ds : List (String × Option Expr)) : Stmt :=
  .variable nowhere kind (declarators ds)

def declare (ds : List (String × Option Expr)) : Stmt := declareAs .varDecl ds

/-- Statements as few as possible: no declaration without names. -/
def declareAny (kind : DeclKind) : List (String × Option Expr) → List Stmt
  | [] => []
  | ds => [declareAs kind ds]

/-- `first === null || again === void 0` -/
def isAbsent (first again : Expr) : List Expr :=
  [.binary nowhere .identical first (.null nowhere),
    .binary nowhere .identical again voidZero]

/-- `first !== null && again !== void 0` -/
def isPresent (first again : Expr) : Expr :=
  both (.binary nowhere .notIdentical first (.null nowhere))
    (.binary nowhere .notIdentical again voidZero)

/-- Concise bodies end with their value; in other bodies it is returned. -/
def returnLast : List Stmt → List Stmt
  | [] => []
  | [.expression span e] => [.ret span (some e)]
  | s :: more => s :: returnLast more

end Build

/-- A function whose value is returned by a statement. -/
def FunctionParts.opened (f : FunctionParts) : FunctionParts :=
  if f.concise then { f with body := Build.returnLast f.body, concise := false } else f

/-- A member without what is said of it. -/
def Member.bare : Member → Member
  | .marked _ _ _ m => m.bare
  | m => m

/-- `super(…)` -/
def Expr.isSuperCall : Expr → Bool
  | .call _ (.superRef _) _ _ => true
  | _ => false

end ScopedViews.Script
