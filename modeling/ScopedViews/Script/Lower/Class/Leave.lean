import ScopedViews.Script.Lower.Class.Enter
/-!
# Leaving classes

When a class is left, its fields are gone from it: the static ones are defined behind the class, and
private methods have become functions.  What moves out of the class takes the class, and what it has
from its parent, from a variable.
-/

namespace ScopedViews.Script

/-- What moves out of a class. -/
inductive MovedPart where
  | initializer | privateMethod | staticPrivateMethod
deriving Repr, DecidableEq

/-- What is known in a part of a class that moves out of it. -/
structure Moving where
  /-- How many functions with their own `this` are around. -/
  functions : Nat := 0
  /-- Whether the name of the class means something else. -/
  isHidden : Bool := false

namespace Lower

/-- Reads a member of the parent in a part that moves out of the class. -/
def readParent (part : MovedPart) (key : Expr) (isCalled : Bool) : Lower Expr := do
  let get ← helper "superPropGet"
  let owner := Build.name (← classVariable 0)
  let receiver := if part == .initializer then owner else Build.self
  let mode := (if part == .privateMethod then 1 else 0) + if isCalled then 2 else 0
  let flags := if mode = 0 then [] else
    [Expr.number nowhere (Float.ofNat mode) (toString mode)]
  return Build.call (Build.name get) ([owner, key, receiver] ++ flags)

def writeParent (part : MovedPart) (key value : Expr) : Lower Expr := do
  let set ← helper "superPropSet"
  let owner := Build.name (← classVariable 0)
  let receiver := if part == .initializer then owner else Build.self
  let ofInstance := if part == .privateMethod then [Build.one] else []
  return Build.call (Build.name set) ([owner, key, value, receiver, Build.one] ++ ofInstance)

/-- The key of a member of the parent. -/
def parentKey? : Expr → Option Expr
  | .member _ (.superRef _) n _ => some (Build.text n.text)
  | .index _ (.superRef _) k _ => some k
  | _ => none

/-- Uses of the parent's members in a part that moves out of the class. -/
def moveParent (st : Setting) (part : MovedPart) (e : Expr) : Lower Expr := do
  match e with
  | .call _ callee es _ =>
    match parentKey? callee with
    | some key => return Build.call (← readParent part key true) [Build.list es]
    | none => return e
  | .assign _ op (.target t) value =>
    match parentKey? t with
    | some key =>
      match op with
      | .plain => writeParent part key value
      | .combined op =>
        let (first, again) ← twice st false key
        let read ← readParent part again false
        writeParent part first (.binary nowhere op read value)
      | .logical op =>
        let (first, again) ← twice st false key
        let read ← readParent part first false
        return .logical nowhere op read (← writeParent part again value)
    | none => return e
  | .update _ op before (.target t) =>
    match parentKey? t with
    | some key =>
      let (first, again) ← twice st false key
      let held ← temporaryFor t
      let read ← readParent part again false
      let taken := Build.assignName held read
      let changed : Expr := .update nowhere op before (Build.target held)
      if before then writeParent part first (.sequence nowhere [taken, changed])
      else
        let old ← temporaryFor t
        let written ← writeParent part first
          (.sequence nowhere [taken, Build.assignName old changed, Build.name held])
        return .sequence nowhere [written, Build.name old]
    | none => return e
  | e =>
    match parentKey? e with
    | some key => readParent part key false
    | none => return e

/-- Goes through a part that moves out of the class.  `this` and the parent's members are those of
the class as long as `isOwn` holds for the number of functions around. -/
def moveOut (st : Setting) (part : MovedPart) (className : Option String) (isOwn : Nat → Bool) :
    Visitor Moving Draft where
  declare := fun here names _ =>
    { here with isHidden := here.isHidden || className.any names.contains }
  step := fun here p =>
    match p with
    | .parameters f | .functionBody f =>
      if f.form == .arrow then here else { here with functions := here.functions + 1 }
    | .field _ | .staticBlock => { here with functions := here.functions + 1 }
    | _ => here
  enterExpr := fun here e => do
    let isOwn := isOwn here.functions
    match e with
    | .name _ n =>
      if className = some n && !here.isHidden then return Build.name (← classVariable 0)
      return e
    | .thisRef _ =>
      if isOwn && part == .initializer then return Build.name (← classVariable 0)
      return e
    | .unary _ .delete (.thisRef _) =>
      if isOwn && part == .initializer then return Build.truth
      return e
    | e => if isOwn then moveParent st part e else return e
  targetName := fun here declared n => do
    if !declared && className = some n && !here.isHidden then classVariable 0 else return n

/-- The value of a static field as it is outside of the class. -/
def moveInitializer (st : Setting) (e : Expr) : Lower Expr := do
  let name := (← currentClass).name
  (moveOut st .initializer name (· == 0)).expr st.depth {} e

/-- What a static block does, as one value outside of the class. -/
def moveBlock (st : Setting) (body : List Stmt) : Lower Expr := do
  let name := (← currentClass).name
  let v := moveOut st .initializer name (· == 0)
  match body with
  | [.expression _ e] => v.expr st.depth {} e
  | body => return Build.callBody (← v.stmts st.depth {} body)

/-- A private method as a function outside of the class. -/
def moveMethod (st : Setting) (isStatic : Bool) (holder : String) (f : Function) : Lower Stmt := do
  let name := (← currentClass).name
  let part := if isStatic then MovedPart.staticPrivateMethod else .privateMethod
  let f ← (moveOut st part name (· == 1)).function st.depth {} f
  return .function { f.parts with
    span := nowhere, form := .declaration, name := some (Build.nameOf holder) }.whole

/-- What is taken out of a class: statements for functions, keys in front of the class, and what
defines static members behind it. -/
structure Removed where
  functions : List Stmt := []
  keys : List Expr := []
  /-- A value to be computed, or the table of a static private field with its first value. -/
  definitions : List (Expr ⊕ String × Expr) := []

/-- The members that stay in a class, and what is taken out of it. -/
def removeMembers (st : Setting) : List Member → Lower (List Member × Removed)
  | [] => return ([], {})
  | m :: more => do
    match m.bare with
    | .field _ true false computed key value =>
      let value ← value.mapM (moveInitializer st)
      match privateKey? key with
      | some name =>
        let c ← currentClass
        let holder := ((c.privateNames.find? (·.name = name)).map (·.holder)).getD name
        let (ms, removed) ← removeMembers st more
        return (ms, { removed with
          definitions := .inr (holder, value.getD Build.voidZero) :: removed.definitions })
      | none =>
        let (known, changed) ← keyValue st computed key
        let c ← currentClass
        let owner ← match c.isExpression, c.name with
          | false, some n => pure n
          | _, _ => classVariable 0
        let defined ← help "defineProperty"
          [Build.name owner, known, value.getD Build.voidZero]
        let (ms, removed) ← removeMembers st more
        return (ms, { removed with
          keys := (match changed with
            | .assign _ _ _ _ => [changed]
            | _ => []) ++ removed.keys
          definitions := .inl defined :: removed.definitions })
    | .field _ false false _ key _ =>
      let (ms, removed) ← removeMembers st more
      match key with
      | .assign _ _ _ _ => return (ms, { removed with keys := key :: removed.keys })
      | _ => return (ms, removed)
    | .block _ body =>
      let value ← moveBlock st body
      let (ms, removed) ← removeMembers st more
      return (ms, { removed with definitions := .inl value :: removed.definitions })
    | .method _ isStatic computed key kind f =>
      match privateKey? key with
      | some name =>
        let c ← currentClass
        let known := c.privateNames.find? (·.name = name)
        let holder := match known with
          | some p => if p.kind = some kind then p.holder else p.second.getD p.holder
          | none => name
        let moved ← moveMethod st isStatic holder f
        let (ms, removed) ← removeMembers st more
        return (ms, { removed with functions := moved :: removed.functions })
      | none =>
        if computed && needsVariable st key then
          let (known, changed) ← keyValue st computed key
          let (ms, removed) ← removeMembers st more
          return (keyed m known :: ms, { removed with keys := changed :: removed.keys })
        let (ms, removed) ← removeMembers st more
        return (keyed m key :: ms, removed)
    | _ =>
      let (ms, removed) ← removeMembers st more
      return (m :: ms, removed)
where
  /-- A method with another key. -/
  keyed : Member → Expr → Member
    | .method s isStatic computed _ kind f, key => .method s isStatic computed key kind f
    | .marked s ds modifiers m, key => .marked s ds modifiers (keyed m key)
    | m, _ => m

/-- A new table, or set, of objects. -/
def newTable (kind : String) : Expr :=
  .pure nowhere (.construct nowhere (Build.name kind) [])

/-- The tables and the set of a class's private members of instances, with their first values. -/
def tablesOf (c : ClassRecord) : List (String × Expr) :=
  let rec go (branded : Bool) : List PrivateName → List (String × Expr)
    | [] => []
    | p :: more =>
      if p.isStatic || p.accessor then go branded more
      else if p.kind.isSome then
        if branded then go branded more
        else (c.brand.getD p.holder, newTable "WeakSet") :: go true more
      else (p.holder, newTable "WeakMap") :: go branded more
  go false c.privateNames

/-- A value that belongs to one class alone. -/
def heldObject (value : Expr) : Expr :=
  .object nowhere [.keyed nowhere false (Build.name "_") value false]

def leaveClass : Lower Unit := modify fun d => { d with classes := d.classes.tail }

/-- Leaves a class declaration: what it leaves behind goes around it. -/
def leaveDeclaredClass (st : Setting) (c : ClassParts) : Lower ClassParts := do
  if !(← currentClass).isSplit then
    leaveClass
    return c
  changeClass fun c => { c with usesTemporary := true }
  let (members, removed) ← removeMembers st c.members
  let record ← currentClass
  insertBefore (removed.keys.map Build.statement)
  insertBefore ((tablesOf record).map fun (n, table) => Build.declare [(n, some table)])
  let definitions := removed.definitions.map fun
    | .inl e => Build.statement e
    | .inr (n, value) => Build.declare [(n, some (heldObject value))]
  let behind := removed.functions ++ definitions
  let c := { c with members }
  leaveClass
  match record.temporary with
  | none =>
    insertAfter behind
    return c
  | some n =>
    match c.name with
    | some own =>
      if !record.isDeclared then declareVariable n
      insertAfter (Build.statement (Build.assignName n (Build.name own.text)) :: behind)
      return c
    | none =>
      insertAfter behind
      return { c with name := some (Build.nameOf n) }

/-- Leaves a class expression, which becomes a part of a sequence. -/
def leaveClassExpression (st : Setting) (e : Expr) : Lower Expr := do
  let leave (c : ClassParts) (whole : ClassParts → Expr) : Lower Expr := do
    if !(← currentClass).isSplit then
      leaveClass
      return e
    let (members, removed) ← removeMembers st c.members
    let whole := whole { c with members }
    let record ← currentClass
    let tables := tablesOf record
    record.privateNames.forM fun p => do
      if p.kind.isNone && !p.accessor then declareVariable p.holder
      else declareBrand record p
    insertAfter removed.functions
    let definitions := removed.definitions.map fun
      | .inl e => e
      | .inr (n, value) => Build.assignName n (heldObject value)
    let front := tables.map (fun (n, table) => Build.assignName n table) ++ removed.keys
    leaveClass
    match record.temporary with
    | some n =>
      if !record.isDeclared then declareVariable n
      let taken := Build.assignName n whole
      if front.isEmpty && definitions.isEmpty then return taken
      return .sequence nowhere (front ++ taken :: definitions ++ [Build.name n])
    | none => return Build.sequence (front ++ definitions ++ [whole])
  match e with
  | .classLike s name parent members =>
    leave ⟨s, name, parent, members⟩ fun c => .classLike c.span c.name c.parent c.members
  | .decorated t ds notes (.classLike s name parent members) =>
    leave ⟨s, name, parent, members⟩ fun c =>
      .decorated t ds notes (.classLike c.span c.name c.parent c.members)
  | e => return e
where
  /-- Declares the set of objects with private methods, where the first of them stands. -/
  declareBrand (record : ClassRecord) (p : PrivateName) : Lower Unit := do
    let first := record.privateNames.find? fun p => p.kind.isSome && !p.isStatic
    if first.any (·.name = p.name) then declareVariable (record.brand.getD p.holder)

end Lower

end ScopedViews.Script
