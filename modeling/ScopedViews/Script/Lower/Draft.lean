import ScopedViews.Script.Platform
import ScopedViews.Script.Lower.Build
import ScopedViews.Script.Lower.Fresh
import ScopedViews.Script.Walk
/-!
# Drafts

What lowering has to remember on its way through a script, and what it knows of the place it has
come to.
-/

namespace ScopedViews.Script

/-- The names of a scope, and those that are written to in it. -/
structure ScopeNames where
  names : List String
  written : Unit → List String

/-- What the innermost function around a place is. -/
inductive Role where
  | none | plain | async | asyncGenerator
deriving Repr, DecidableEq

/-- What holds at a place of the script. -/
structure Setting where
  platform : Platform
  /-- How deep walks may go. -/
  depth : Nat
  /-- The scopes around the place, the innermost one first. -/
  scopes : List ScopeNames := []
  place : Part := .inner
  /-- Whether no scope but that of the module is around the place. -/
  atRoot : Bool := true
  /-- Whether a function will be put around the place that has values of its own for `this`,
  `arguments` and `super`. -/
  movesSelf : Bool := false
  movesArguments : Bool := false
  movesSuper : Bool := false
  role : Role := .none
  /-- Whether the place is in the value of a field, outside of functions with statements. -/
  inField : Bool := false
  isListed : Bool := false

namespace Setting

def lacks (st : Setting) (f : Feature) : Bool := !st.platform.reads f

def lowersArrows (st : Setting) : Bool := st.lacks .arrows

/-- Whether the bodies of asynchronous functions are moved, and no other ones. -/
def movesAsync (st : Setting) : Bool :=
  !st.lowersArrows && (st.lacks .waiting || st.lacks .asyncGenerators)

/-- Whether a function becomes a generator. -/
def lowersAsync (st : Setting) (f : FunctionParts) : Bool :=
  f.isAsync && st.lacks (if f.generator then .asyncGenerators else .waiting)

def declaring (st : Setting) (names : List String) (written : Unit → List String) : Setting :=
  { st with scopes := ⟨names, written⟩ :: st.scopes, atRoot := false }

/-- The scope that declares a name. -/
def scopeOf? (st : Setting) (name : String) : Option ScopeNames :=
  st.scopes.find? (·.names.contains name)

/-- How many scopes are around the one that declares a name, it included. -/
def levelOf (st : Setting) (name : String) : Nat :=
  (st.scopes.dropWhile (!·.names.contains name)).length

def roleOf (f : FunctionParts) : Role :=
  if !f.isAsync then .plain else if f.generator then .asyncGenerator else .async

/-- What holds in the parameters or the body of a function. -/
def within (st : Setting) (f : FunctionParts) (inBody : Bool) : Setting :=
  let moved := f.isAsync && st.movesAsync
  let isMethod := f.form == .method
  let st := { st with role := roleOf f }
  if f.form == .arrow then
    let keeps := inBody && st.movesSelf
    { st with
      movesSelf := st.lowersArrows || moved || keeps
      movesArguments := moved || st.movesArguments
      movesSuper := moved || st.movesSuper }
  else
    { st with
      movesSelf := moved && isMethod && inBody
      movesArguments := moved && isMethod
      movesSuper := moved && isMethod }

/-- What holds at a part of a node. -/
def step (st : Setting) (part : Part) : Setting :=
  match part with
  | .paren => { st with place := if st.place matches .callee then .callee else .paren }
  | .parameters f => { st.within f false with place := .inner, inField := false }
  | .functionBody f => { st.within f true with place := .inner, inField := false }
  | .field _ =>
    { st with place := part, movesSelf := false, movesSuper := false, inField := true }
  | .staticBlock =>
    { st with place := part, movesSelf := false, movesSuper := false, inField := false }
  | .listed => { st with place := part, isListed := true }
  | .single => { st with place := part, isListed := false }
  | part => { st with place := part }

end Setting

/-- A use of the parent's members in a function that is moved. -/
structure SuperUse where
  /-- The member's name, unless it is computed. -/
  key : Option String
  writes : Bool
deriving Repr, DecidableEq

/-- The variables for the values that a function has of its own. -/
structure OwnValues where
  isConstructor : Bool := false
  /-- Whether the constructor of the parent is called. -/
  callsParent : Bool := false
  selfName : Option String := none
  argumentsName : Option String := none
  /-- In the order in which they are made. -/
  superNames : List (SuperUse × String) := []

/-- A statement on its way into a list. -/
structure Frame where
  isExpression : Bool
  before : List Stmt := []
  after : List Stmt := []

/-- What a private name becomes. -/
structure PrivateName where
  name : String
  isStatic : Bool
  /-- Nothing for a field. -/
  kind : Option MethodKind
  accessor : Bool := false
  holder : String
  /-- The second one of a getter and a setter. -/
  second : Option String := none

/-- A class on its way. -/
structure ClassRecord where
  isExpression : Bool
  /-- Whether its members leave it. -/
  isSplit : Bool
  name : Option String := none
  /-- How many scopes are around the class. -/
  level : Nat := 0
  privateNames : List PrivateName := []
  /-- The variable that holds the class, and whether it is declared already. -/
  temporary : Option String := none
  isDeclared : Bool := false
  brand : Option String := none
  /-- Whether the class is called by that variable. -/
  usesTemporary : Bool := false

/-- What lowering has made so far. -/
structure Draft where
  taken : TakenNames
  /-- The names that lowering made. -/
  made : List String := []
  /-- Variables of the statements at hand, the last one first. -/
  holders : List String := []
  bindings : List (String × Option Expr) := []
  /-- Those of the functions around, the innermost one first. -/
  own : List OwnValues := []
  /-- Whether the next function is a constructor. -/
  entersConstructor : Bool := false
  /-- The names and places of helpers, the last one first. -/
  helpers : List (String × String) := []
  /-- Constants of the module, the last one first. -/
  constants : List (String × Expr) := []
  frames : List Frame := []
  classes : List ClassRecord := []
  inParams : Bool := false
  /-- Whether something has no older form. -/
  failed : Bool := false

abbrev Lower := StateM Draft

namespace Lower

def fail : Lower Unit := modify fun d => { d with failed := true }

/-- A name that nothing in the script has. -/
def fresh (base : String) : Lower String := do
  let d ← get
  let (n, taken) := d.taken.next base
  set { d with taken, made := n :: d.made }
  return n

/-- Declares a variable of the statements at hand. -/
def declareVariable (n : String) : Lower Unit :=
  modify fun d => { d with holders := n :: d.holders }

/-- Declares a variable of the block at hand. -/
def declareBinding (n : String) (value : Option Expr) : Lower Unit :=
  modify fun d => { d with bindings := (n, value) :: d.bindings }

/-- A variable of the statements at hand. -/
def temporary (base : String) : Lower String := do
  let n ← fresh base
  declareVariable n
  return n

/-- A variable that takes the value of an expression. -/
def temporaryFor (e : Expr) : Lower String := temporary e.variableName

/-- The name of a helper, which the module imports once. -/
def helper (place : String) : Lower String := do
  match (← get).helpers.find? (·.2 = place) with
  | some (n, _) => return n
  | none =>
    let n ← fresh place
    modify fun d => { d with helpers := (n, place) :: d.helpers }
    return n

/-- The call of a helper. -/
def help (place : String) (arguments : List Expr) : Lower Expr := do
  return Build.call (Build.name (← helper place)) arguments

/-- Whether a name is declared, by the script or by lowering. -/
def isBound (st : Setting) (n : String) : Lower Bool := do
  return (st.scopeOf? n).isSome || (← get).made.contains n

/-- Whether a declared name is written to. -/
def isWritten (st : Setting) (n : String) : Bool :=
  match st.scopeOf? n with
  | some scope => (scope.written ()).contains n
  | none => false

/-- An expression that is read twice: how it is read first and how it is read again.  A name may
change in between, which matters only if it has to be `steady`. -/
def twice (st : Setting) (steady : Bool) (e : Expr) : Lower (Expr × Expr) := do
  let again ← match e with
    | .thisRef _ | .superRef _ | .string _ _ | .number _ _ _ | .boolean _ _ | .null _
    | .bigint _ _ | .regex _ _ _ | .template _ _ [] => pure true
    | .name _ n => do
      let bound ← isBound st n
      pure (bound && !(steady && isWritten st n))
    | _ => pure false
  if again then return (e, e)
  let n ← temporaryFor e
  return (Build.assignName n e, Build.name n)

/-- Runs `m` on statements and puts the variables that they need in front of them. -/
def withVariables (m : Lower (List Stmt)) : Lower (List Stmt) := do
  let outer ← get
  set { outer with holders := [], bindings := [] }
  let body ← m
  let d ← get
  set { d with holders := outer.holders, bindings := outer.bindings }
  return Build.declareAny .varDecl (d.holders.reverse.map fun n => (n, none)) ++
    (Build.declareAny .letDecl d.bindings.reverse ++ body)

/-- Runs `m` on a statement with a frame of its own. -/
def withFrame (s : Stmt) (m : Lower Stmt) : Lower (Stmt × Frame) := do
  let isExpression := s matches .expression _ _
  modify fun d => { d with frames := ⟨isExpression, [], []⟩ :: d.frames }
  let s ← m
  let d ← get
  match d.frames with
  | frame :: frames =>
    set { d with frames }
    return (s, frame)
  | [] => return (s, ⟨isExpression, [], []⟩)

def changeFrame (change : Frame → Frame) : Lower Unit :=
  modify fun d =>
    match d.frames with
    | frame :: frames => { d with frames := change frame :: frames }
    | [] => d

/-- Puts statements in front of the statement at hand, before those that are there already. -/
def insertBefore (ss : List Stmt) : Lower Unit :=
  changeFrame fun frame => { frame with before := ss ++ frame.before }

/-- Puts statements behind the statement at hand. -/
def insertAfter (ss : List Stmt) : Lower Unit :=
  changeFrame fun frame => { frame with after := frame.after ++ ss }

/-- Puts a statement in front of the innermost expression statement. -/
def insertBeforeExpression (s : Stmt) : Lower Unit :=
  let rec go : List Frame → List Frame
    | [] => []
    | frame :: frames =>
      if frame.isExpression then { frame with before := frame.before ++ [s] } :: frames
      else frame :: go frames
  modify fun d => { d with frames := go d.frames }

end Lower

end ScopedViews.Script
