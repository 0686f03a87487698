import ScopedViews.Script.Lower.Draft
import ScopedViews.Script.Reader
/-!
# Asynchronous functions as generators

A helper runs a generator and gives a promise, or asynchronous items, for what it yields.  So an
asynchronous function becomes the call of that helper on a generator that yields where the function
waited.
-/

namespace ScopedViews.Script

/-- `return n.apply(this, arguments)` -/
def Build.passOn (n : String) : Stmt :=
  give (method (name n) "apply" [self, name "arguments"])

namespace Lower

/-- The helper that runs the generator of an asynchronous function. -/
def runner (f : FunctionParts) : String :=
  if f.generator then "wrapAsyncGenerator" else "asyncToGenerator"

/-- Fresh names for the parameters that count for the length of a function. -/
def placeholders : List Pattern → Lower (List Pattern)
  | [] | .default _ _ _ :: _ | .rest _ _ :: _ => return []
  | _ :: more => do
    let n ← fresh "x"
    return Build.target n :: (← placeholders more)

/-- Whether a function that takes no parameters by name would have another length. -/
def countsParameters : List Pattern → Bool
  | [] | .default _ _ _ :: _ | .rest _ _ :: _ => false
  | _ :: _ => true

/-- Whether binding parameters can fail. -/
def mayFail : List Pattern → Bool
  | [] => false
  | .name _ _ :: more => mayFail more
  | .rest _ (.name _ _) :: more => mayFail more
  | _ => true

/-- The helper's call on the generator of an asynchronous function. -/
def generated (f : FunctionParts) (params : List Pattern) : Lower Expr :=
  help (runner f) [.function { f.opened with
    span := nowhere, form := .expression, name := none, isAsync := false, generator := true, params
    }.whole]

/-- What is no part of a name becomes an underscore, and no name is a reserved word. -/
def toFunctionName (called : String) : String :=
  let fits (isFirst : Bool) (c : Char) : Bool :=
    c = '_' || c = '$' ||
      (if isFirst then Text.startsIdentifier c else Text.continuesIdentifier c)
  let cs := match called.toList with
    | [] => ['_']
    | c :: rest =>
      (if fits true c then c else '_') :: rest.map fun c => if fits false c then c else '_'
  let name := String.ofList cs
  if reservedWords.contains name then "_" ++ name else name

/-- An asynchronous function as a value, which is called `called` if it has no name. -/
def asyncValue (f : FunctionParts) (called : Option String) : Lower Expr := do
  let called := called.map toFunctionName
  let isArrow := f.form == .arrow
  if f.name.isNone && !countsParameters f.params && !(isArrow && called.isSome) then
    generated f f.params
  else
    let made ← fresh ((f.name.map Name.text).getD "ref")
    let places ← placeholders f.params
    let value ← generated f f.params
    let caller (form : FunctionForm) (n : Option Name) : Function :=
      Build.function form n places [Build.passOn made]
    let given :=
      match f.name with
      | some own => [Stmt.function (caller .declaration own), Build.give (Build.name own.text)]
      | none => [Build.give (.function (caller .expression (called.map Build.nameOf)))]
    let wrapper :=
      Build.function .expression none [] (Build.declare [(made, some value)] :: given)
    let call := Build.call (.function wrapper) []
    return if isArrow then call else .pure nowhere call

/-- An asynchronous function declaration, and the function that it passes its calls on to. -/
def asyncDeclaration (f : FunctionParts) : Lower (FunctionParts × Stmt) := do
  let made ← fresh ((f.name.map Name.text).getD "ref")
  let places ← placeholders f.params
  let value ← generated f f.params
  let maker := Build.function .declaration (some (Build.nameOf made)) []
    [Build.statement (Build.assignName made value), Build.passOn made]
  return ({ Build.parts .declaration f.name places [Build.passOn made] with span := f.span },
    .function maker)

/-- An asynchronous method.  Parameters that may fail are bound inside, so that the promise fails
and not the call. -/
def asyncMethod (f : FunctionParts) : Lower FunctionParts := do
  let inside := mayFail f.params
  let places ← if inside then placeholders f.params else pure f.params
  let value ← generated f (if inside then f.params else [])
  let result :=
    if inside then Build.method value "apply" [Build.self, Build.name "arguments"]
    else Build.call value []
  return { Build.parts .method f.name places [Build.give result] with span := f.span }

/-- Waiting and yielding in functions that become generators. -/
def yieldAwaited (st : Setting) (e : Expr) : Lower Expr := do
  let inGenerator := st.role == .asyncGenerator && st.lacks .asyncGenerators
  match e with
  | .await s value =>
    if inGenerator then return .yield s false (some (← help "awaitAsyncGenerator" [value]))
    if st.role == .async && st.lacks .waiting then return .yield s false (some value)
    return e
  | .yield s true (some value) =>
    if inGenerator then
      let items ← help "asyncIterator" [value]
      return .yield s true (some (← help "asyncGeneratorDelegate" [items]))
    return e
  | e => return e

/-- An asynchronous function declaration in a list of statements. -/
def declareAsync (st : Setting) (s : Stmt) : Lower Stmt := do
  let declared (f : Function) : Lower Function := do
    if st.lowersAsync f.parts then
      let (f, made) ← asyncDeclaration f.parts
      insertAfter [made]
      return f.whole
    return f
  match s with
  | .function f => return .function (← declared f)
  | .exportDeclaration s (.function f) => return .exportDeclaration s (.function (← declared f))
  | .exportDefault s (.function f) => return .exportDefault s (.function (← declared f))
  | s => return s

/-- The declaration or assignment by which a loop takes an item. -/
def takeItem (declared : Option (Span × DeclKind)) (targets : List Pattern) (item : Expr) : Stmt :=
  match declared, targets with
  | some (_, kind), [p] => .variable nowhere kind [.default nowhere p item]
  | some (_, kind), ps => .variable nowhere kind ps
  | none, [p] => Build.statement (Build.assign p item)
  | none, _ => Build.statement item

/-- A loop over the items of an asynchronous value: what stands in front of it, and the loop, which
closes the value when it ends early. -/
def awaitItems (declared : Option (Span × DeclKind)) (targets : List Pattern) (source : Expr)
    (body : Stmt) (label : Option (Span × Name)) : Lower (List Stmt × Stmt) := do
  let step ← fresh "step"
  let failed ← fresh "didIteratorError"
  let abrupt ← fresh "iteratorAbruptCompletion"
  let error ← fresh "iteratorError"
  let items ← fresh "iterator"
  let source ← help "asyncIterator" [source]
  let falsity := Expr.boolean nowhere false
  let rest := match body with
    | .block _ [] => []
    | .block s ss => [Stmt.block s ss]
    | _ => []
  let awaited (n : String) : Expr := .await nowhere (Build.method (Build.name items) n [])
  let isOver := Build.member (Build.assignName step (awaited "next")) "done"
  let loop : Stmt := .forLoop nowhere
    (some (.variable nowhere .varDecl [.default nowhere (Build.target items) source,
      Build.target step]))
    (some (Build.assignName abrupt (.unary nowhere .not isOver)))
    (some (Build.assignName abrupt falsity))
    (Build.block (takeItem declared targets (Build.member (Build.name step) "value") :: rest))
  let loop := match label with
    | some (s, n) => Stmt.labeled s n loop
    | none => loop
  let canClose := Expr.binary nowhere .notEqual (Build.member (Build.name items) "return")
    (.null nowhere)
  let close : Stmt := .tryCatch nowhere
    (Build.block [.cond nowhere (Build.both (Build.name abrupt) canClose)
      (Build.block [Build.statement (awaited "return")]) none])
    none none
    (some (Build.block [.cond nowhere (Build.name failed)
      (Build.block [.throwing nowhere (Build.name error)]) none]))
  return ([Build.declare [(abrupt, some falsity)], Build.declare [(failed, some falsity)],
      Build.declare [(error, none)]],
    .tryCatch nowhere (Build.block [loop]) (some (Build.target "err"))
      (some (Build.block [Build.statement (Build.assignName failed Build.truth),
        Build.statement (Build.assignName error (Build.name "err"))]))
      (some (Build.block [close])))

/-- Loops that wait for their items. -/
def lowerAwaitLoop (st : Setting) (s : Stmt) : Lower Stmt := do
  let settle (made : List Stmt × Stmt) : Lower Stmt := do
    if st.isListed then
      insertBefore made.1
      return made.2
    return Build.block (made.1 ++ [made.2])
  match s with
  | .forOf _ true declared targets source body =>
    if st.lacks .asyncGenerators then
      settle (← awaitItems declared targets source body none)
    else return s
  | .labeled t label (.forOf _ true declared targets source body) =>
    if st.lacks .asyncGenerators then
      settle (← awaitItems declared targets source body (some (t, label)))
    else return s
  | s => return s

end Lower

end ScopedViews.Script
