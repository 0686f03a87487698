import ScopedViews.Script.Lower.Draft
/-!
# Rests and spreads of objects

The rest of an object is a copy of it without the members that the pattern names.  An object with
spreads is made by copying members into it one spread after another.
-/

namespace ScopedViews.Script

mutual

/-- Whether a pattern takes the rest of an object. -/
def Pattern.takesRest : Pattern → Bool
  | .object _ ms => Pattern.anyRest ms || Pattern.anyTakesRest ms
  | .array _ es => Pattern.anyTakesRest es
  | .default _ p _ | .rest _ p | .keyed _ _ _ p _ | .decorated _ _ p => p.takesRest
  | .name _ _ | .target _ | .hole _ => false

def Pattern.anyTakesRest : List Pattern → Bool
  | [] => false
  | p :: more => p.takesRest || Pattern.anyTakesRest more

def Pattern.anyRest : List Pattern → Bool
  | [] => false
  | .rest _ _ :: _ => true
  | _ :: more => Pattern.anyRest more

end

/-- Whether a pattern is an object's and takes its rest. -/
def Pattern.isRestObject : Pattern → Bool
  | .object _ ms => Pattern.anyRest ms
  | _ => false

namespace Lower

/-- Puts fresh names, made by `make`, for the objects in a pattern that take a rest; `atTop` keeps
the outermost one.  Gives those objects and their names too. -/
def liftRests (make : Lower String) : (atTop : Bool) → Pattern →
    Lower (Pattern × List (Pattern × String))
  | atTop, .object s ms => do
    if !atTop && Pattern.anyRest ms then
      let n ← make
      return (Build.target n, [(.object s ms, n)])
    let parts ← ms.attach.mapM fun ⟨m, _⟩ => liftRests make false m
    return (.object s (parts.map (·.1)), parts.flatMap (·.2))
  | _, .array s es => do
    let parts ← es.attach.mapM fun ⟨e, _⟩ => liftRests make false e
    return (.array s (parts.map (·.1)), parts.flatMap (·.2))
  | _, .default s p e => do
    let (p, made) ← liftRests make false p
    return (.default s p e, made)
  | _, .rest s p => do
    let (p, made) ← liftRests make false p
    return (.rest s p, made)
  | _, .keyed s computed k p shorthand => do
    let (p, made) ← liftRests make false p
    return (.keyed s computed k p shorthand, made)
  | _, .decorated s ds p => do
    let (p, made) ← liftRests make false p
    return (.decorated s ds p, made)
  | _, p => return (p, [])

/-- What the members of an object pattern leave to its rest. -/
structure Excluded where
  members : List Pattern := []
  keys : List Expr := []
  /-- Whether all keys are known before the script runs. -/
  isFixed : Bool := true
  /-- The variables of computed keys and their values. -/
  held : List (String × Expr) := []
  /-- What takes the rest. -/
  rest : Option Pattern := none

/-- Goes through the members of an object pattern. -/
def excludedOf (make : Expr → Lower String) : List Pattern → Lower Excluded
  | [] => return {}
  | .rest _ p :: _ => return { rest := some p }
  | .keyed s computed k p shorthand :: more => do
    let fixed (text : String) : Lower Excluded := do
      let others ← excludedOf make more
      return { others with
        members := .keyed s computed k p shorthand :: others.members
        keys := Build.text text :: others.keys }
    match k, computed with
    | .name _ n, false => fixed n
    | .string _ n, _ => fixed n
    | .number _ value _, _ => fixed (Number.text value)
    | .bigint _ raw, _ => fixed raw
    | .template _ [q] [], _ => fixed (q.cooked.getD q.raw)
    | k, _ =>
      let n ← make k
      let others ← excludedOf make more
      return { others with
        members := .keyed s true (Build.name n) p false :: others.members
        keys := Build.name n :: others.keys
        isFixed := false
        held := (n, k) :: others.held }
  | p :: more => do
    let others ← excludedOf make more
    return { others with members := p :: others.members }

/-- A copy of an object without the members that a pattern names. -/
def restOf (st : Setting) (excluded : Excluded) (object : Expr) : Lower Expr := do
  if excluded.keys.isEmpty then
    let checked ← help "objectDestructuringEmpty" [object]
    let copy ← helper "extends"
    return Build.call (Build.name copy)
      [Build.emptyObject, .sequence nowhere [checked, object]]
  let keys := Build.list excluded.keys
  let keys ←
    if !excluded.isFixed then
      pure (Build.method keys "map" [Build.name (← helper "toPropertyKey")])
    else if st.atRoot then pure keys
    else do
      let n ← fresh "excluded"
      modify fun d => { d with constants := (n, keys) :: d.constants }
      pure (Build.name n)
  help "objectWithoutProperties" [object, keys]

/-- A declared pattern and its value, with the rests taken behind it. -/
def declareRests (st : Setting) : Nat → Pattern → Expr → Lower (List Pattern)
  | 0, p, value => return [.default nowhere p value]
  | n + 1, p, value => do
    let (front, object) ← match value with
      | .name _ _ => pure ([], value)
      | _ => do
        let n ← fresh value.variableName
        pure ([Pattern.default nowhere (Build.target n) value], Build.name n)
    let (p, lifted) ← liftRests (fresh "ref") true p
    let inner : Lower (List Pattern) := do
      return (← lifted.mapM fun (q, made) => declareRests st n q (Build.name made)).flatten
    match p with
    | .object s ms =>
      let excluded ← excludedOf (fun k => fresh k.variableName) ms
      let held := excluded.held.map fun (n, k) => Pattern.default nowhere (Build.target n) k
      let named := if excluded.members.isEmpty then [] else
        [Pattern.default nowhere (.object s excluded.members) object]
      let nested ← inner
      let rest ← match excluded.rest with
        | some q => do pure [Pattern.default nowhere q (← restOf st excluded object)]
        | none => pure []
      return front ++ held ++ named ++ nested ++ rest
    | p => return front ++ .default nowhere p object :: (← inner)

/-- The patterns of a declaration without rests of objects. -/
def lowerDeclaration (st : Setting) (ds : List Pattern) : Lower (List Pattern) := do
  if !st.lacks .objectSpread then return ds
  let parts ← ds.mapM fun d =>
    match d with
    | .default _ p value =>
      if p.takesRest then declareRests st st.depth p value else return [d]
    | d => return [d]
  return parts.flatten

/-- An assignment to a pattern, with the rests of objects taken behind it. -/
def lowerAssignment (st : Setting) (e : Expr) : Lower Expr := do
  if !st.lacks .objectSpread then return e
  match e with
  | .assign s .plain t value =>
    if !t.takesRest then return e
    let inner (lifted : List (Pattern × String)) : List Expr :=
      lifted.map fun (q, n) => Build.assign q (Build.name n)
    if t.isRestObject then
      let held (base : String) : Lower String := do
        let n ← fresh base
        insertBeforeExpression (Build.declare [(n, none)])
        return n
      let object ← held value.variableName
      let (t, lifted) ← liftRests (temporary "ref") true t
      match t with
      | .object s' ms =>
        let excluded ← excludedOf (fun k => held k.variableName) ms
        let rest ← match excluded.rest with
          | some q => do pure [Build.assign q (← restOf st excluded (Build.name object))]
          | none => pure []
        return .sequence nowhere (Build.assignName object value ::
          excluded.held.map (fun (n, k) => Build.assignName n k) ++
          Build.assign (.object s' excluded.members) (Build.name object) ::
          inner lifted ++ rest ++ [Build.name object])
      | t => return .assign s .plain t value
    else
      let (t, lifted) ← liftRests (temporary "ref") true t
      return .sequence nowhere (.assign s .plain t value :: inner lifted)
  | e => return e

/-- Objects among parameters whose rest is taken, replaced by fresh names, and the declarations that
take them apart.  The last one comes first. -/
def liftParameter (kind : DeclKind) : Pattern → Lower (Pattern × List Stmt)
  | .object s ms => do
    let n ← fresh "ref"
    return (Build.target n,
      [.variable nowhere kind [.default nowhere (.object s ms) (Build.name n)]])
  | .array s es => do
    let parts ← es.attach.mapM fun ⟨e, _⟩ => liftParameter kind e
    return (.array s (parts.map (·.1)), (parts.map (·.2)).reverse.flatten)
  | .default s p e => do
    let (p, made) ← liftParameter kind p
    return (.default s p e, made)
  | .rest s p => do
    let (p, made) ← liftParameter kind p
    return (.rest s p, made)
  | .decorated s ds p => do
    let (p, made) ← liftParameter kind p
    return (.decorated s ds p, made)
  | p => return (p, [])

/-- A function whose parameters take no rests of objects. -/
def lowerParameters (st : Setting) (f : FunctionParts) : Lower FunctionParts := do
  if !(st.lacks .objectSpread && Pattern.anyTakesRest f.params) then return f
  let parts ← f.params.mapM fun p =>
    match p with
    | .rest _ _ => return (p, [])
    | p => if p.takesRest then liftParameter .letDecl p else return (p, [])
  let made := (parts.map (·.2)).reverse.flatten
  if made.isEmpty then return f
  let f := f.opened
  return { f with params := parts.map (·.1), body := made ++ f.body }

/-- A body with statements in front. -/
def putInFront (made : List Stmt) : Stmt → Stmt
  | .block s body => .block s (made ++ body)
  | body => Build.block (made ++ [body])

/-- Heads of loops and `catch` clauses that take no rests of objects. -/
def lowerHead (st : Setting) (s : Stmt) : Lower Stmt := do
  if !st.lacks .objectSpread then return s
  let head (declared : Option (Span × DeclKind)) (targets : List Pattern) (body : Stmt) :
      Lower (Option (Span × DeclKind) × List Pattern × Stmt) := do
    if !Pattern.anyTakesRest targets then return (declared, targets, body)
    match declared, targets with
    | some (t, kind), [p] =>
      let (p, made) ← liftParameter kind p
      return (some (t, kind), [p], putInFront made body)
    | none, [p] =>
      let n ← fresh "ref"
      let made := Build.statement (Build.assign p (Build.name n))
      return (some (nowhere, .varDecl), [Build.target n], putInFront [made] body)
    | declared, targets => return (declared, targets, body)
  match s with
  | .forOf t isAwait declared targets source body =>
    let (declared, targets, body) ← head declared targets body
    return .forOf t isAwait declared targets source body
  | .forIn t declared targets source body =>
    let (declared, targets, body) ← head declared targets body
    return .forIn t declared targets source body
  | .tryCatch t tried (some p) (some handler) finalizer =>
    if !p.takesRest then return s
    let (p, made) ← liftParameter .letDecl p
    return .tryCatch t tried (some p) (some (putInFront made handler)) finalizer
  | s => return s

/-- Members of an object, cut at the spreads. -/
def groups : List Member → List (List Member ⊕ Expr)
  | [] => []
  | .spread _ e :: rest => .inr e :: groups rest
  | m :: rest =>
    match groups rest with
    | .inl ms :: more => .inl (m :: ms) :: more
    | more => .inl [m] :: more

/-- An object whose spreads are made by the helper that copies members. -/
def spreadObject (spread : String) (gs : List (List Member ⊕ Expr)) : Expr :=
  let copy (es : List Expr) := Build.call (Build.name spread) es
  let rec go : Option Expr → List (List Member ⊕ Expr) → Expr
    | none, [] => Build.emptyObject
    | some e, [] => e
    | none, .inl ms :: .inr e :: rest => go (some (copy [.object nowhere ms, e])) rest
    | none, .inl ms :: rest => go (some (.object nowhere ms)) rest
    | none, .inr e :: rest => go (some (copy [Build.emptyObject, e])) rest
    | some made, .inl ms :: .inr e :: rest =>
      go (some (copy [made, Build.emptyObject, .object nowhere ms, e])) rest
    | some made, .inl ms :: rest =>
      go (some (copy [made, Build.emptyObject, .object nowhere ms])) rest
    | some made, .inr e :: rest => go (some (copy [made, e])) rest
  go none gs

def isSpread : Member → Bool
  | .spread _ _ => true
  | _ => false

def lowerSpreads (st : Setting) (e : Expr) : Lower Expr := do
  match e with
  | .object _ ms =>
    if st.lacks .objectSpread && ms.any isSpread then
      return spreadObject (← helper "objectSpread2") (groups ms)
    return e
  | e => return e

end Lower

end ScopedViews.Script
