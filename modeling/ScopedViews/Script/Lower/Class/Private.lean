import ScopedViews.Script.Lower.Chain
import ScopedViews.Script.Lower.Class.Record
/-!
# Private members

A private field becomes a table from objects to values, and a private method a function for the
objects in a set.  A static one belongs to the class alone.
-/

namespace ScopedViews.Script

namespace Lower

/-- The function or table behind a private name that is read, if there is one. -/
def PrivateUse.reader? (u : PrivateUse) : Option String :=
  match u.member.kind with
  | some .setter => u.member.second
  | _ => some u.member.holder

/-- What a private name is written by, if it is. -/
def PrivateUse.writer? (u : PrivateUse) : Option String :=
  match u.member.kind with
  | none => some u.member.holder
  | some .setter => some u.member.holder
  | some .getter => u.member.second
  | some _ => none

/-- Whether a private name is called with what it is read on. -/
def PrivateUse.isAccessor (u : PrivateUse) : Bool :=
  match u.member.kind with
  | some .getter | some .setter => true
  | _ => false

/-- What objects with a private method are checked against. -/
def brandOf (u : PrivateUse) : Lower Expr := do
  if u.member.isStatic then classValue u.outwards
  else return Build.name (u.owner.brand.getD "_brand")

/-- The value of a private name that only one class has. -/
def heldValue (holder : Expr) : Expr := Build.member holder "_"

/-- Whether an object needs no check, since it is the class by its name. -/
def isOwn (st : Setting) (u : PrivateUse) (object : Expr) : Bool :=
  u.member.isStatic && isClassName st u.owner object

/-- An object that is checked to have a private method; gives the value instead, if there is one. -/
def checkObject (st : Setting) (u : PrivateUse) (object : Expr) (value : List Expr) :
    Lower Expr := do
  if isOwn st u object then return value.headD object
  let brand ← brandOf u
  help "assertClassBrand" (brand :: object :: value)

/-- Reads a private member. -/
def readPrivate (st : Setting) (u : PrivateUse) (object : Expr) : Lower Expr := do
  match u.reader? with
  | none =>
    return .sequence nowhere
      [object, ← help "writeOnlyError" [Build.text ("#" ++ u.member.name)]]
  | some reader =>
    let reader := Build.name reader
    if u.member.kind.isSome then
      let checked ← checkObject st u object (if u.isAccessor then [] else [reader])
      return if u.isAccessor then Build.method reader "call" [checked] else checked
    else if !u.member.isStatic then help "classPrivateFieldGet2" [reader, object]
    else if isOwn st u object then return heldValue reader
    else
      let brand ← classValue u.outwards
      return heldValue (← help "assertClassBrand" [brand, object, reader])

/-- Gives a private member a value. -/
def writePrivate (st : Setting) (u : PrivateUse) (object value : Expr) : Lower Expr := do
  match u.writer? with
  | none =>
    return .sequence nowhere
      [object, value, ← help "readOnlyError" [Build.text ("#" ++ u.member.name)]]
  | some writer =>
    let writer := Build.name writer
    if u.member.kind.isSome then
      return Build.method writer "call" [← checkObject st u object [], value]
    else if !u.member.isStatic then help "classPrivateFieldSet2" [writer, object, value]
    else if isOwn st u object then
      return Build.assign (.target (heldValue writer)) value
    else
      let brand ← classValue u.outwards
      return Build.assign (.target (heldValue writer))
        (← help "assertClassBrand" [brand, object, value])

/-- Changes a private member by one. -/
def updatePrivate (st : Setting) (u : PrivateUse) (op : UpdateOp) (before : Bool) (raw : Expr)
    (object : Expr) : Lower Expr := do
  let (first, again) ← twice st false object
  let read ← readPrivate st u again
  let held ← temporaryFor raw
  let taken := Build.assignName held read
  let changed : Expr := .update nowhere op before (Build.target held)
  if before then writePrivate st u first (.sequence nowhere [taken, changed])
  else
    let old ← temporaryFor raw
    let written ← writePrivate st u first
      (.sequence nowhere [taken, Build.assignName old changed, Build.name held])
    return .sequence nowhere [written, Build.name old]

/-- Assigns to a private member. -/
def assignPrivate (st : Setting) (u : PrivateUse) (op : AssignOp) (object value : Expr) :
    Lower Expr := do
  match op with
  | .plain => writePrivate st u object value
  | .combined op =>
    let (first, again) ← twice st false object
    let read ← readPrivate st u again
    writePrivate st u first (.binary nowhere op read value)
  | .logical op =>
    let (first, again) ← twice st false object
    let read ← readPrivate st u first
    return .logical nowhere op read (← writePrivate st u again value)

/-- Calls a private member on its object. -/
def callPrivate (st : Setting) (u : PrivateUse) (object : Expr) (es : List Expr) : Lower Expr := do
  let (first, again) ← twice st false object
  return Build.method (← readPrivate st u first) "call" (again :: es)

/-- Whether an object has a private member. -/
def hasPrivate (u : PrivateUse) (object : Expr) : Lower Expr := do
  let checked ← help "checkInRHS" [object]
  if u.member.isStatic then return .binary nowhere .identical checked (← classValue u.outwards)
  if u.member.kind.isSome then return Build.method (← brandOf u) "has" [checked]
  return Build.method (Build.name u.member.holder) "has" [checked]

/-- The private member that an expression reads, and its object. -/
def privateMember? (e : Expr) : Lower (Option (PrivateUse × Expr)) := do
  match e with
  | .privateMember _ object name _ =>
    match ← privateUse? name.text with
    | some u => return if u.member.accessor then none else some (u, object)
    | none => return none
  | _ => return none

/-- A question whether the value of an expression is missing, and how it is read again. -/
def askObject (st : Setting) (object : Expr) : Lower (Expr × Expr) := do
  let object := match object with
    | .paren _ e => e
    | e => e
  let object := if object.hasOptionalLink then .chain nowhere object else object
  let (first, again) ← twice st false object
  match Build.isAbsent first again with
  | [a, b] => return (Build.either a b, again)
  | _ => return (first, again)

/-- Asks for the last value in a chain that may be missing. -/
def askLast (st : Setting) : Expr → Lower (Option Expr × Expr)
  | .member s o n true => do
    let (asked, o) ← askObject st o
    return (some asked, .member s o n false)
  | .member s o n false => do
    let (asked, o) ← askLast st o
    return (asked, .member s o n false)
  | .index s o k true => do
    let (asked, o) ← askObject st o
    return (some asked, .index s o k false)
  | .index s o k false => do
    let (asked, o) ← askLast st o
    return (asked, .index s o k false)
  | .privateMember s o n true => do
    let (asked, o) ← askObject st o
    return (some asked, .privateMember s o n false)
  | .privateMember s o n false => do
    let (asked, o) ← askLast st o
    return (asked, .privateMember s o n false)
  | .call s callee es true => do
    match callee with
    | .privateMember t o n false =>
      let (first, object) ← twice st false o
      let (asked, method) ← askObject st (.privateMember t first n false)
      return (some asked, Build.method method "call" (object :: es))
    | .member t o n false =>
      let (first, object) ← twice st false o
      let (asked, method) ← askObject st (.member t first n false)
      return (some asked, Build.method method "call" (object :: es))
    | callee =>
      let (asked, callee) ← askObject st callee
      return (some asked, .call s callee es false)
  | .call s callee es false => do
    let (asked, callee) ← askLast st callee
    return (asked, .call s callee es false)
  | e => return (none, e)

/-- Asks for the last value that may be missing at or below a private member of a chain. -/
def askPrivate (st : Setting) : Expr → Lower (Option Expr × Expr)
  | .privateMember s o n optional => do
    if (← privateMember? (.privateMember s o n optional)).isSome then
      askLast st (.privateMember s o n optional)
    else
      let (asked, o) ← askPrivate st o
      return (asked, .privateMember s o n optional)
  | .member s o n optional => do
    let (asked, o) ← askPrivate st o
    return (asked, .member s o n optional)
  | .index s o k optional => do
    let (asked, o) ← askPrivate st o
    return (asked, .index s o k optional)
  | .call s callee es optional => do
    let (asked, callee) ← askPrivate st callee
    return (asked, .call s callee es optional)
  | e => return (none, e)

/-- A member that is called elsewhere, bound to its object. -/
def bindMember (st : Setting) (e : Expr) : Lower Expr := do
  match e with
  | .privateMember s o n optional =>
    let (first, again) ← twice st false o
    return Build.method (.privateMember s first n optional) "bind" [again]
  | .member s o n optional =>
    let (first, again) ← twice st false o
    return Build.method (.member s first n optional) "bind" [again]
  | e => return e

/-- Calls a private member of a chain, if it is there. -/
def callPrivateLink (st : Setting) (e : Expr) : Lower Expr := do
  match e with
  | .call s callee es true =>
    match ← privateMember? callee with
    | some (u, object) =>
      let (first, again) ← twice st false object
      let read ← readPrivate st u first
      return .call s (.member nowhere read (Build.nameOf "call") true) (again :: es) false
    | none => return e
  | e => return e

/-- A chain with private members, as a question for what may be missing below them. -/
def lowerPrivateChain (st : Setting) (chain : Expr) (links missing : Expr) (found : Expr → Expr) :
    Lower Expr := do
  match ← askPrivate st links with
  | (some asked, value) =>
    let value ← if st.place matches .callee then bindMember st value else pure value
    let value := if value.hasOptionalLink then .chain nowhere value else value
    return Build.conditional asked missing (found value)
  | (none, _) =>
    match chain with
    | .chain s links => return .chain s (← callPrivateLink st links)
    | chain => return chain

/-- Uses of private members. -/
def lowerPrivate (st : Setting) (e : Expr) : Lower Expr := do
  if (← get).classes.all fun c => c.privateNames.isEmpty then return e
  match e with
  | .privateMember _ _ _ _ =>
    match ← privateMember? e with
    | some (u, object) => readPrivate st u object
    | none => return e
  | .call s callee es optional =>
    match ← privateMember? callee with
    | some (u, object) => if optional then callPrivateLink st e else callPrivate st u object es
    | none => return .call s callee es optional
  | .tagged s tag quasis parts =>
    match ← privateMember? tag with
    | some (u, object) =>
      let (first, again) ← twice st false object
      let read ← readPrivate st u first
      return .tagged s (Build.method read "bind" [again]) quasis parts
    | none => return e
  | .assign _ op (.target t) value =>
    match ← privateMember? t with
    | some (u, object) => assignPrivate st u op object value
    | none => return e
  | .update _ op before (.target t) =>
    match ← privateMember? t with
    | some (u, object) => updatePrivate st u op before t object
    | none => return e
  | .binary _ .isIn (.privateName _ n) object =>
    match ← privateUse? n with
    | some u => hasPrivate u object
    | none => return e
  | .chain _ links => lowerPrivateChain st e links Build.voidZero id
  | .unary _ .delete (.chain _ links) =>
    lowerPrivateChain st e links Build.truth (.unary nowhere .delete ·)
  | e => return e

/-- Private members that patterns assign to. -/
def lowerPrivateTarget (st : Setting) (e : Expr) : Lower Expr := do
  match ← privateMember? e with
  | some (u, object) =>
    if u.member.kind.isNone && !u.member.isStatic then
      let set ← helper "classPrivateFieldSet2"
      return heldValue (← help "toSetter"
        [Build.name set, Build.list [Build.name u.member.holder, object]])
    match u.writer? with
    | some writer =>
      if u.member.kind.isSome then
        let checked ← checkObject st u object []
        return heldValue (← help "toSetter" [Build.name writer, Build.list [], checked])
      else readPrivate st u object
    | none => readPrivate st u object
  | none => return e

end Lower

end ScopedViews.Script
