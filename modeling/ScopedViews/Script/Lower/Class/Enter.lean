import ScopedViews.Script.Lower.Class.Record
/-!
# Entering classes

When a class is entered whose members leave it, its private names get their variables, and the
values of the fields of its instances move into the constructor.  The static members stay until the
class is left.
-/

namespace ScopedViews.Script

namespace Lower

/-- The key of a private member. -/
def privateKey? : Expr → Option String
  | .privateName _ n => some n
  | _ => none

/-- Gives the private names of members their variables. -/
def privateNamesOf : List Member → List PrivateName → Lower (List PrivateName)
  | [], made => return made
  | m :: more, made => do
    match m.bare with
    | .field _ isStatic true _ key _ =>
      let added := (privateKey? key).toList.map fun name =>
        { name, isStatic, kind := none, accessor := true, holder := name }
      privateNamesOf more (made ++ added)
    | .field _ isStatic false _ key _ =>
      match privateKey? key with
      | some name =>
        let holder ← fresh name
        privateNamesOf more (made ++ [{ name, isStatic, kind := none, holder }])
      | none => privateNamesOf more made
    | .method _ isStatic _ key kind _ =>
      match privateKey? key with
      | some name =>
        let holder ← fresh <| match kind with
          | .getter => "get_" ++ name
          | .setter => "set_" ++ name
          | _ => name
        if made.any (·.name = name) then
          privateNamesOf more (made.map fun p =>
            if p.name = name then { p with second := some holder } else p)
        else privateNamesOf more (made ++ [{ name, isStatic, kind := some kind, holder }])
      | none => privateNamesOf more made
    | _ => privateNamesOf more made

/-- Whether a key has to be computed in front of the class. -/
def needsVariable (st : Setting) : Expr → Bool
  | .boolean _ _ | .null _ | .number _ _ _ | .bigint _ _ | .regex _ _ _ | .string _ _ => false
  | .template _ _ parts => !parts.isEmpty
  | .name _ n => (st.scopeOf? n).isNone || isWritten st n
  | _ => true

/-- The key of a field as a value, and what the key becomes that gives it that value. -/
def keyValue (st : Setting) (computed : Bool) (key : Expr) : Lower (Expr × Expr) := do
  match key, computed with
  | .name _ n, false => return (Build.text n, key)
  | key, _ =>
    if needsVariable st key then
      let n ← fresh key.variableName
      declareBinding n none
      return (Build.name n, Build.assignName n key)
    return (key, key)

/-- The members without the values of instance fields, and what defines those fields. -/
def takeInstanceFields (st : Setting) : List Member → Lower (List Member × List Expr)
  | [] => return ([], [])
  | m :: more => do
    match m.bare with
    | .field s false false computed key value =>
      let value := value.getD Build.voidZero
      let (key, made) ← match privateKey? key with
        | some name => do
          let holder := (← privateHolder name)
          pure (key, ← help "classPrivateFieldInitSpec" [Build.self, Build.name holder, value])
        | none => do
          let (known, key) ← keyValue st computed key
          pure (key, ← help "defineProperty" [Build.self, known, value])
      let (ms, others) ← takeInstanceFields st more
      return (.field s false false computed key none :: ms, made :: others)
    | _ =>
      let (ms, others) ← takeInstanceFields st more
      return (m :: ms, others)
where
  privateHolder (name : String) : Lower String := do
    let c ← currentClass
    return ((c.privateNames.find? (·.name = name)).map (·.holder)).getD name

/-- Whether walking is still in the constructor at hand. -/
def stayInside (active : Bool) (part : Part) : Bool :=
  match part with
  | .parameters f | .functionBody f => active && f.form == .arrow
  | .field _ | .staticBlock => false
  | _ => active

/-- Notices calls of the parent's constructor. -/
def superCalls : Visitor Bool Bool where
  step := stayInside
  exitExpr := fun active e => do
    if active && e.isSuperCall then set true
    return e

/-- Puts other calls for those of the parent's constructor. -/
def replaceSuperCalls (replacement : List Expr → Expr) : Visitor Bool Unit where
  step := stayInside
  exitExpr := fun active e => pure <|
    match e with
    | .call _ (.superRef _) es _ => if active then replacement es else e
    | e => e

/-- The names in expressions that mean something outside of them, as they come. -/
def outerNames : Visitor (List String) (List String) where
  declare := fun bound names _ => names ++ bound
  exitExpr := fun bound e => do
    match e with
    | .name _ n => if !bound.contains n then modify (· ++ [n])
    | _ => pure ()
    return e
  targetName := fun bound declared n => do
    if !declared && !bound.contains n then modify (· ++ [n])
    return n

/-- What a name is called after renaming, unless a scope in between declares it. -/
def renamed (pairs : List (String × String)) (bound : Option (List String)) (n : String) : String :=
  if (bound.getD []).contains n then n else (pairs.lookup n).getD n

/-- Renames names that the first scope of a walk declares. -/
def renameOwn (pairs : List (String × String)) : Visitor (Option (List String)) Unit where
  declare := fun bound names _ =>
    match bound with
    | none => some []
    | some bound => some (names ++ bound)
  exitExpr := fun bound e => pure <|
    match e with
    | .name s n => .name s (renamed pairs bound n)
    | e => e
  targetName := fun bound _ n => pure (renamed pairs bound n)

/-- Renames what a constructor declares, where it would hide names that fields use. -/
def avoidNames (st : Setting) (fields : List Expr) (f : FunctionParts) : Lower FunctionParts := do
  let ((), used) := ((fields.forM fun e => discard (outerNames.expr st.depth [] e)).run []).run
  let own := Pattern.allBoundNames f.params ++ lexicalNames true f.body ++
    Stmt.allVarNames f.body ++ declaredFunctions f.body
  let clashes := (used.filter own.contains).eraseDups
  if clashes.isEmpty then return f
  let pairs ← clashes.mapM fun n => do return (n, ← fresh n)
  return (((renameOwn pairs).function st.depth none f.whole).run ()).1.parts

/-- The constructor and what it becomes, given statements for a class without a parent. -/
def extendConstructor (st : Setting) (derived : Bool) (made : List Expr) (f : FunctionParts) :
    Lower FunctionParts := do
  let statements := made.map Build.statement
  let called (s : Stmt) : Bool := ((superCalls.stmt st.depth true s).run false).2
  if !derived then
    let f ← avoidNames st made f
    return { f with body := statements ++ f.body }
  let inParams := ((f.params.forM fun p => discard (superCalls.parameter st.depth true p)).run
    false).2
  if inParams then
    let n ← fresh "super"
    let call (es : List Expr) : Expr :=
      Build.method (Build.name n) "call" [.call nowhere (.superRef nowhere) es false]
    let v := replaceSuperCalls call
    declareBinding n (some (.function (Build.function .expression none []
      (statements ++ [Build.give Build.self]))))
    return { f with
      params := ((f.params.mapM (v.parameter st.depth true)).run ()).1
      body := ((v.stmts st.depth true f.body).run ()).1 }
  let front := f.body.takeWhile fun s => !called s
  match f.body.drop front.length with
  | .expression s (.call t (.superRef r) es optional) :: rest =>
    let f ← avoidNames st made f
    let front := f.body.take front.length
    match f.body.drop front.length with
    | s :: rest => return { f with body := front ++ s :: statements ++ rest }
    | [] =>
      let call := Stmt.expression s (.call t (.superRef r) es optional)
      return { f with body := front ++ call :: rest }
  | rest =>
    let n ← fresh "super"
    let v := replaceSuperCalls fun es => Build.call (Build.name n) es
    let f := { f with body := front ++ ((v.stmts st.depth true rest).run ()).1 }
    let f ← avoidNames st made f
    let arguments ← fresh "args"
    let passed :=
      Expr.call nowhere (.superRef nowhere) [.spread nowhere (Build.name arguments)] false
    let maker := Build.arrow [.rest nowhere (Build.target arguments)]
      (.sequence nowhere (passed :: made ++ [Build.self]))
    return { f with body := Build.declare [(n, some maker)] :: f.body }

/-- A constructor that passes its arguments on to the parent's, and then does `made`. -/
def newConstructor (derived : Bool) (made : List Expr) : Lower Member := do
  let statements := made.map Build.statement
  let (params, body) ←
    if derived then do
      let n ← fresh "args"
      let passed := Expr.call nowhere (.superRef nowhere) [.spread nowhere (Build.name n)] false
      pure ([Pattern.rest nowhere (Build.target n)], Build.statement passed :: statements)
    else pure ([], statements)
  return .method nowhere false false (Build.name "constructor") .constructor
    (Build.function .method none params body)

def isConstructor (m : Member) : Bool :=
  match m.bare with
  | .method _ _ _ _ .constructor _ => true
  | _ => false

/-- Changes the constructor among members. -/
def changeConstructor (change : FunctionParts → Lower FunctionParts) : Member → Lower Member
  | .method s isStatic computed key .constructor f => do
    return .method s isStatic computed key .constructor (← change f.parts).whole
  | .marked s ds modifiers m => do
    return .marked s ds modifiers (← changeConstructor change m)
  | m => return m

/-- The members of a class whose constructor does `made`. -/
def withConstructor (st : Setting) (derived : Bool) (made : List Expr) (ms : List Member) :
    Lower (List Member) := do
  if ms.any isConstructor then ms.mapM (changeConstructor (extendConstructor st derived made))
  else return (← newConstructor derived made) :: ms

def isField (isStatic : Bool) (m : Member) : Bool :=
  match m.bare with
  | .field _ s false _ _ _ => s == isStatic
  | _ => false

def isStaticBlock (m : Member) : Bool :=
  match m.bare with
  | .block _ _ => true
  | _ => false

/-- A static block as the value of a private field that nothing else uses. -/
def blocksAsFields (used : List String) : Nat → List Member → List Member
  | _, [] => []
  | i, m :: more =>
    match m with
    | .block s body =>
      let names := (List.range (used.length + 1)).map fun k =>
        if i + k = 0 then "_" else "_" ++ toString (i + k + 1)
      let n := (names.find? fun n => !used.contains n).getD "_"
      let value := match body with
        | [.expression _ e] => e
        | body => Build.callBody body
      .field s true false false (.privateName nowhere n) (some value) ::
        blocksAsFields (n :: used) i more
    | m => m :: blocksAsFields used i more

/-- Enters a class. -/
def enterClass (st : Setting) (isExpression : Bool) (c : ClassParts) : Lower ClassParts := do
  let skip (c : ClassParts) : Lower ClassParts := do
    modify fun d => { d with classes := { isExpression, isSplit := false } :: d.classes }
    return c
  if !st.lacks .fields then
    if !st.lacks .staticBlocks then return ← skip c
    let used := c.members.filterMap fun m =>
      match m.bare with
      | .field _ _ _ _ key _ | .method _ _ _ key _ _ => privateKey? key
      | _ => none
    return ← skip { c with members := blocksAsFields used 0 c.members }
  let privateNames ← privateNamesOf c.members []
  let hasStatic := c.members.any (isField true)
  let hasInstance := c.members.any (isField false)
  if !hasInstance && privateNames.isEmpty && !hasStatic && !c.members.any isStaticBlock then
    return ← skip c
  let record : ClassRecord := {
    isExpression
    isSplit := true
    name := c.name.map Name.text
    level := st.scopes.length
    privateNames
    usesTemporary := isExpression }
  let needed := hasStatic && (isExpression || c.name.isNone)
  let temporary ← if needed then some <$> freshForClass record else pure none
  if isExpression then temporary.forM declareVariable
  let hasMethod := privateNames.any fun p => p.kind.isSome && !p.isStatic
  let brand ← if hasMethod then some <$> fresh (record.name.getD "Class" ++ "_brand") else pure none
  let record := { record with temporary, isDeclared := needed, brand }
  modify fun d => { d with classes := record :: d.classes }
  if !hasInstance && !hasMethod then return c
  let branded ← brand.toList.mapM fun n =>
    help "classPrivateMethodInitSpec" [Build.self, Build.name n]
  let (members, made) ← takeInstanceFields st c.members
  return { c with
    members := ← withConstructor st c.parent.isSome (branded ++ made) members }

end Lower

end ScopedViews.Script
