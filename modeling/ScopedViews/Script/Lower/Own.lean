import ScopedViews.Script.Lower.Draft
/-!
# Values of a function's own

A function that is moved into another one takes `this`, `arguments` and the members of the parent
from variables in front of it, since they mean something else where it is moved to.
-/

namespace ScopedViews.Script

namespace Lower

/-- The values of the innermost function that has its own. -/
def own : Lower OwnValues := do return (← get).own.headD {}

def changeOwn (change : OwnValues → OwnValues) : Lower Unit :=
  modify fun d =>
    match d.own with
    | o :: os => { d with own := change o :: os }
    | [] => { d with own := [change {}] }

/-- Enters a function with values of its own. -/
def enterOwn : Lower Unit :=
  modify fun d => { d with
    own := { isConstructor := d.entersConstructor } :: d.own
    entersConstructor := false }

/-- Leaves it. -/
def leaveOwn : Lower OwnValues := do
  let values ← own
  modify fun d => { d with own := d.own.tail }
  return values

/-- The name that `this` has in moved functions. -/
def self : Lower String := do
  match (← own).selfName with
  | some n => return n
  | none =>
    let n ← fresh "this"
    changeOwn fun o => { o with selfName := some n }
    return n

def arguments : Lower String := do
  match (← own).argumentsName with
  | some n => return n
  | none =>
    let n ← fresh "arguments"
    changeOwn fun o => { o with argumentsName := some n }
    return n

/-- The name of a function that uses a member of the parent. -/
def superName (use : SuperUse) : Lower String := do
  match (← own).superNames.lookup use with
  | some n => return n
  | none =>
    let verb := if use.writes then "superprop_set" else "superprop_get"
    let n ← fresh (verb ++ (use.key.getD "").capitalize)
    changeOwn fun o => { o with superNames := o.superNames ++ [(use, n)] }
    return n

/-- `this`, or the name that it has here. -/
def selfAt (st : Setting) : Lower Expr := do
  if st.movesSelf then return Build.name (← self)
  return Build.self

/-- A member of the parent: its name, and the value of a computed one. -/
def superMember? : Expr → Option (Option String × List Expr)
  | .member _ (.superRef _) n _ => some (some n.text, [])
  | .index _ (.superRef _) k _ => some (none, [k])
  | _ => none

/-- Reads a member of the parent. -/
def readSuper (key : Option String) (computed : List Expr) : Lower Expr := do
  return Build.call (Build.name (← superName ⟨key, false⟩)) computed

def writeSuper (key : Option String) (computed : List Expr) (value : Expr) : Lower Expr := do
  return Build.call (Build.name (← superName ⟨key, true⟩)) (computed ++ [value])

/-- Uses of the parent's members in a moved function. -/
def moveSuper (st : Setting) (e : Expr) : Lower Expr := do
  match e with
  | .call _ callee es _ =>
    match superMember? callee with
    | some (key, computed) =>
      let read ← readSuper key computed
      return Build.method read "call" ((← selfAt st) :: es)
    | none => return e
  | .assign _ op (.target target) value =>
    match superMember? target with
    | some (key, computed) =>
      match op with
      | .plain => writeSuper key computed value
      | .combined op =>
        let read ← readSuper key computed
        writeSuper key computed (.binary nowhere op read value)
      | .logical op =>
        let read ← readSuper key computed
        return .logical nowhere op read (← writeSuper key computed value)
    | none => return e
  | e =>
    match superMember? e with
    | some (key, computed) => readSuper key computed
    | none => return e

/-- Takes the values of the function around from variables, in a moved function. -/
def moveOwn (st : Setting) (e : Expr) : Lower Expr := do
  match e with
  | .thisRef _ => selfAt st
  | .name s "arguments" =>
    if st.movesArguments && (st.scopeOf? "arguments").isNone then return .name s (← arguments)
    return e
  | .function (.mk _ .arrow _ true _ _ _ _ _ _) =>
    -- What is moved out of the value of a field finds its variables in a function around it.
    if st.movesAsync && st.inField then return Build.callBody [Build.give e]
    return e
  | .call _ (.superRef _) _ _ =>
    changeOwn fun o => { o with callsParent := true }
    return e
  | e => if st.movesSuper then moveSuper st e else return e

/-- The function behind the name of a use of the parent's members. -/
def superFunction (use : SuperUse) : Lower Expr := do
  let (params, place) ← match use.key with
    | some key => pure ([], Expr.member nowhere (.superRef nowhere) (Build.nameOf key) false)
    | none => do
      let n ← fresh "prop"
      pure ([n], Expr.index nowhere (.superRef nowhere) (Build.name n) false)
  if use.writes then
    let n ← fresh "value"
    return Build.arrow ((params ++ [n]).map Build.target)
      (Build.assign (.target place) (Build.name n))
  return Build.arrow (params.map Build.target) place

/-- The variables for the values of a function's own.  In a constructor that calls the parent's,
`this` is there only behind that call. -/
def ownVariables (values : OwnValues) (argumentsValue : Expr) : Lower (List Stmt) := do
  let ofArguments := values.argumentsName.toList.map fun n => (n, some argumentsValue)
  let ofSuper ← values.superNames.mapM fun (use, n) => do return (n, some (← superFunction use))
  let isLate := values.isConstructor && values.callsParent
  let ofSelf := values.selfName.toList.map fun n => (n, if isLate then none else some Build.self)
  return Build.declareAny .varDecl (ofArguments ++ ofSuper ++ ofSelf)

/-- Gives the variable for `this` its value behind every call of the parent's constructor. -/
def selfBehindSuper (n : String) : Visitor Bool Unit where
  step := fun active part =>
    match part with
    | .parameters f | .functionBody f => active && f.form == .arrow
    | .field _ | .staticBlock => false
    | _ => active
  exitExpr := fun active e =>
    pure (if active && e.isSuperCall then Build.sequence [e, Build.assignName n Build.self] else e)
  aroundListed := fun s walk =>
    match s with
    | .expression _ e =>
      if e.isSuperCall then return [s, Build.statement (Build.assignName n Build.self)]
      else return [← walk]
    | _ => return [← walk]

/-- Leaves a function that has values of its own. -/
def declareOwn (st : Setting) (f : FunctionParts) : Lower FunctionParts := do
  let values ← leaveOwn
  let declared ← ownVariables values (Build.name "arguments")
  let body := match values.isConstructor && values.callsParent, values.selfName with
    | true, some n => (((selfBehindSuper n).stmts st.depth true f.body).run ()).1
    | _, _ => f.body
  return { f with body := declared ++ body }

/-- The variables of the module's own values. -/
def moduleVariables : Lower (List Stmt) := do
  let isMissing : Expr := .binary nowhere .identical
    (.unary nowhere .typeof (Build.name "arguments")) (Build.text "undefined")
  ownVariables (← own) (Build.conditional isMissing Build.voidZero (Build.name "arguments"))

end Lower

end ScopedViews.Script
