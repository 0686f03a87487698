import ScopedViews.Number.Shortest
import ScopedViews.Script.Scope
/-!
# Walks

A walk goes through a script in the order in which it is written and asks a visitor at every node
what becomes of it, once before its parts are visited and once after them.  It goes down as many
levels as it is told to; what lies deeper stays as it is.  Main definitions: `Visitor`,
`Visitor.expr`, `Visitor.stmts`.
-/

namespace ScopedViews.Script

/-- Where a part stands in the node around it. -/
inductive Part where
  /-- Nothing is to be said of it. -/
  | inner
  | callee
  | paren
  /-- A value that a declaration or a property calls by a name. -/
  | called (name : String)
  /-- The value of a missing parameter. -/
  | parameterDefault
  | parameters (f : FunctionParts)
  | functionBody (f : FunctionParts)
  | field (isStatic : Bool)
  | staticBlock
  /-- A statement in a list of statements. -/
  | listed
  /-- A statement that stands alone behind a head. -/
  | single

/-- What a walk does at the nodes of a script.  `ε` is what is known of the place of a node, and `σ`
is kept from node to node. -/
structure Visitor (ε σ : Type) where
  /-- Enters a scope with names, given those that are written to in it. -/
  declare : ε → List String → (Unit → List String) → ε := fun env _ _ => env
  step : ε → Part → ε := fun env _ => env
  enterExpr : ε → Expr → StateM σ Expr := fun _ e => pure e
  exitExpr : ε → Expr → StateM σ Expr := fun _ e => pure e
  /-- An expression that is assigned to, other than a name. -/
  enterTarget : ε → Expr → StateM σ Expr := fun _ e => pure e
  /-- A name that is declared, or assigned to. -/
  targetName : ε → (declared : Bool) → String → StateM σ String := fun _ _ n => pure n
  enterStmt : ε → Stmt → StateM σ Stmt := fun _ s => pure s
  exitStmt : ε → Stmt → StateM σ Stmt := fun _ s => pure s
  /-- The patterns of a declaration, with their initial values. -/
  enterDeclaration : ε → DeclKind → List Pattern → StateM σ (List Pattern) := fun _ _ ds => pure ds
  enterFunction : ε → FunctionParts → StateM σ FunctionParts := fun _ f => pure f
  exitFunction : ε → FunctionParts → StateM σ FunctionParts := fun _ f => pure f
  enterClass : ε → (isExpression : Bool) → ClassParts → StateM σ ClassParts := fun _ _ c => pure c
  exitDeclaredClass : ε → ClassParts → StateM σ ClassParts := fun _ c => pure c
  /-- Around the parameters of a function. -/
  aroundParams : StateM σ (List Pattern) → StateM σ (List Pattern) := id
  /-- Around a member of a class. -/
  aroundMember : ε → Member → StateM σ Member → StateM σ Member := fun _ _ walk => walk
  /-- Around a list of statements. -/
  aroundList : StateM σ (List Stmt) → StateM σ (List Stmt) := id
  /-- Around a statement of a list; what it becomes is put into the list. -/
  aroundListed : Stmt → StateM σ Stmt → StateM σ (List Stmt) := fun _ walk => return [← walk]
  /-- Around a statement that stands alone. -/
  aroundSingle : Stmt → StateM σ Stmt → StateM σ Stmt := fun _ walk => walk

/-- The name that a key has before the script runs. -/
def Expr.staticName? : Expr → (computed : Bool) → Option String
  | .name _ n, false | .string _ n, _ => some n
  | .number _ value _, _ => some (Number.text value)
  | .bigint _ raw, _ => some raw
  | .null _, _ => some "null"
  | .template _ [q] [], _ => q.cooked
  | _, _ => none

/-- Whether a key is walked through as an expression. -/
def isWalkedKey (computed : Bool) (key : Expr) : Bool :=
  computed ||
    match key with
    | .name _ _ | .privateName _ _ => false
    | _ => true

/-- Whether a pattern is still the name that a key is. -/
def Pattern.keepsName (key : Expr) : Pattern → Bool
  | .name _ n | .default _ (.name _ n) _ =>
    match key with
    | .name _ k => k == n
    | _ => false
  | _ => false

/-- The names of a function's own scope. -/
def FunctionParts.declaredNames (f : FunctionParts) : List String :=
  (if f.form == .declaration then [] else (f.name.map Name.text).toList) ++
    Pattern.allBoundNames f.params ++ lexicalNames true f.body ++ Stmt.allVarNames f.body ++
    declaredFunctions f.body

def FunctionParts.writtenNames (f : FunctionParts) : List String :=
  ((Pattern.allMentionsAs f.params false).and (Stmt.allMentions f.body)).written

namespace Visitor

variable {ε σ : Type}

/-- Walks through a value that may be missing. -/
def option {α : Type} (walk : α → StateM σ α) : Option α → StateM σ (Option α)
  | none => return none
  | some a => return some (← walk a)

/-- Visits the name of a function or a class. -/
def ownName (v : Visitor ε σ) (env : ε) (n : Name) : StateM σ Name := do
  return { n with text := ← v.targetName env true n.text }

mutual

/-- Visits an expression. -/
def expr (v : Visitor ε σ) : Nat → ε → Expr → StateM σ Expr
  | 0, _, e => return e
  | n + 1, env, e => do
    let e ← v.enterExpr env e
    let e ← v.exprParts n env e
    v.exitExpr env e

/-- Visits the parts of an expression. -/
def exprParts (v : Visitor ε σ) : Nat → ε → Expr → StateM σ Expr
  | 0, _, e => return e
  | n + 1, env, e => do
    let inner := v.step env .inner
    match e with
    | .template s quasis parts => return .template s quasis (← parts.mapM (v.expr n inner))
    | .tagged s tag quasis parts =>
      let tag ← v.expr n inner tag
      return .tagged s tag quasis (← parts.mapM (v.expr n inner))
    | .paren s e => return .paren s (← v.expr n (v.step env .paren) e)
    | .sequence s items => return .sequence s (← items.mapM (v.expr n inner))
    | .function f => return .function (← v.function n inner f)
    | .classLike s name parent ms =>
      let c ← v.classParts n inner true ⟨s, name, parent, ms⟩
      return .classLike c.span c.name c.parent c.members
    | .decorated s ds notes (.classLike t name parent ms) =>
      let ds ← ds.mapM (v.expr n inner)
      let c ← v.classParts n inner true ⟨t, name, parent, ms⟩
      return .decorated s ds notes (.classLike c.span c.name c.parent c.members)
    | .array s elements => return .array s (← elements.mapM (v.expr n inner))
    | .object s ms => return .object s (← ms.mapM (v.member n inner))
    | .spread s e => return .spread s (← v.expr n inner e)
    | .member s o name optional => return .member s (← v.expr n inner o) name optional
    | .index s o k optional =>
      let o ← v.expr n inner o
      return .index s o (← v.expr n inner k) optional
    | .privateMember s o name optional => return .privateMember s (← v.expr n inner o) name optional
    | .call s callee es optional =>
      let callee ← v.expr n (v.step env .callee) callee
      return .call s callee (← es.mapM (v.expr n inner)) optional
    | .construct s callee es =>
      let callee ← v.expr n inner callee
      return .construct s callee (← es.mapM (v.expr n inner))
    | .pure s e => return .pure s (← v.expr n inner e)
    | .chain s e => return .chain s (← v.exprParts n inner e)
    | .unary s op e => return .unary s op (← v.expr n inner e)
    | .update s op before t => return .update s op before (← v.pattern n inner false t)
    | .binary s op a b =>
      let a ← v.expr n inner a
      return .binary s op a (← v.expr n inner b)
    | .logical s op a b =>
      let a ← v.expr n inner a
      return .logical s op a (← v.expr n inner b)
    | .assign s op t e =>
      let t ← v.pattern n inner false t
      return .assign s op t (← v.expr n inner e)
    | .conditional s a b c =>
      let a ← v.expr n inner a
      let b ← v.expr n inner b
      return .conditional s a b (← v.expr n inner c)
    | .await s e => return .await s (← v.expr n inner e)
    | .yield s delegate e => return .yield s delegate (← option (v.expr n inner) e)
    | .importCall s phase e o =>
      let e ← v.expr n inner e
      return .importCall s phase e (← option (v.expr n inner) o)
    | e => return e

/-- Visits a pattern whose names are declared or assigned to. -/
def pattern (v : Visitor ε σ) : Nat → ε → (declared : Bool) → Pattern → StateM σ Pattern
  | 0, _, _, p => return p
  | n + 1, env, declared, p => do
    let inner := v.step env .inner
    match p with
    | .name s t => return .name s (← v.targetName env declared t)
    | .target (.name s t) => return .target (.name s (← v.targetName env declared t))
    | .target e =>
      let e ← v.enterTarget env e
      return .target (← v.exprParts n env e)
    | .object s ms => return .object s (← ms.mapM (v.pattern n inner declared))
    | .array s es => return .array s (← es.mapM (v.pattern n inner declared))
    | .default s p e =>
      let p ← v.pattern n inner declared p
      return .default s p (← v.expr n inner e)
    | .rest s p => return .rest s (← v.pattern n inner declared p)
    | .hole s => return .hole s
    | .keyed s computed k p shorthand =>
      let k ← if isWalkedKey computed k then v.expr n inner k else pure k
      let p ← v.pattern n inner declared p
      return .keyed s computed k p (shorthand && p.keepsName k)
    | .decorated s ds p =>
      let ds ← ds.mapM (v.expr n inner)
      return .decorated s ds (← v.pattern n inner declared p)

/-- Visits a parameter. -/
def parameter (v : Visitor ε σ) : Nat → ε → Pattern → StateM σ Pattern
  | 0, _, p => return p
  | n + 1, env, p => do
    match p with
    | .decorated s ds p =>
      let ds ← ds.mapM (v.expr n (v.step env .inner))
      return .decorated s ds (← v.parameter n env p)
    | .default s p e =>
      let p ← v.pattern n (v.step env .inner) true p
      return .default s p (← v.expr n (v.step env .parameterDefault) e)
    | p => v.pattern n env true p

/-- Visits a declared pattern and its initial value. -/
def declarator (v : Visitor ε σ) : Nat → ε → Pattern → StateM σ Pattern
  | 0, _, p => return p
  | n + 1, env, p => do
    match p with
    | .default s p e =>
      let p ← v.pattern n (v.step env .inner) true p
      let part : Part :=
        match p with
        | .name _ t => .called t
        | _ => .inner
      return .default s p (← v.expr n (v.step env part) e)
    | p => v.pattern n env true p

/-- Visits a member of an object or a class. -/
def member (v : Visitor ε σ) : Nat → ε → Member → StateM σ Member
  | 0, _, m => return m
  | n + 1, env, m => v.aroundMember env m do
    let inner := v.step env .inner
    let keyOf (computed : Bool) (k : Expr) : StateM σ Expr :=
      if isWalkedKey computed k then v.expr n inner k else pure k
    match m with
    | .keyed s computed k e shorthand =>
      let part : Part :=
        match k.staticName? computed with
        | some name => .called name
        | none => .inner
      let k ← keyOf computed k
      return .keyed s computed k (← v.expr n (v.step env part) e) shorthand
    | .method s isStatic computed k kind f =>
      let k ← keyOf computed k
      return .method s isStatic computed k kind (← v.function n env f)
    | .spread s e => return .spread s (← v.expr n inner e)
    | .field s isStatic accessor computed k e =>
      let k ← keyOf computed k
      return .field s isStatic accessor computed k
        (← option (v.expr n (v.step env (.field isStatic))) e)
    | .block s body =>
      let own := v.declare (v.step env .staticBlock)
        (lexicalNames true body ++ Stmt.allVarNames body ++ declaredFunctions body)
        fun _ => (Stmt.allMentions body).written
      return .block s (← v.stmts n own body)
    | .marked s ds modifiers m =>
      let ds ← ds.mapM (v.expr n inner)
      return .marked s ds modifiers (← v.member n env m)

/-- Visits a function. -/
def function (v : Visitor ε σ) : Nat → ε → Function → StateM σ Function
  | 0, _, f => return f
  | n + 1, env, f => do
    let f ← v.enterFunction env f.parts
    let own := v.declare env f.declaredNames fun _ => f.writtenNames
    let outer := if f.form == .declaration then env else own
    let f := { f with name := ← option (v.ownName outer) f.name }
    let params ← v.aroundParams (f.params.mapM (v.parameter n (v.step own (.parameters f))))
    let body ← v.stmts n (v.step own (.functionBody f)) f.body
    return (← v.exitFunction env { f with params, body }).whole

/-- Visits a class. -/
def classParts (v : Visitor ε σ) : Nat → ε → (isExpression : Bool) → ClassParts →
    StateM σ ClassParts
  | 0, _, _, c => return c
  | n + 1, env, isExpression, c => do
    let own := if isExpression then
        v.declare env (c.name.map Name.text).toList fun _ => (Member.allMentions c.members).written
      else env
    let name ← option (v.ownName own) c.name
    let parent ← option (v.expr n own) c.parent
    let c ← v.enterClass own isExpression { c with name, parent }
    let members ← c.members.mapM (v.member n own)
    return { c with members }

/-- Visits statements one after another. -/
def stmts (v : Visitor ε σ) : Nat → ε → List Stmt → StateM σ (List Stmt)
  | 0, _, ss => return ss
  | n + 1, env, ss => v.aroundList do
    let parts ← ss.mapM fun s => v.aroundListed s (v.stmt n (v.step env .listed) s)
    return parts.flatten

/-- Visits a statement that stands alone. -/
def single (v : Visitor ε σ) : Nat → ε → Stmt → StateM σ Stmt
  | 0, _, s => return s
  | n + 1, env, s => v.aroundSingle s (v.stmt n (v.step env .single) s)

/-- Visits a statement. -/
def stmt (v : Visitor ε σ) : Nat → ε → Stmt → StateM σ Stmt
  | 0, _, s => return s
  | n + 1, env, s => do
    let s ← v.enterStmt env s
    let s ← v.stmtParts n env s
    v.exitStmt env s

/-- Visits the parts of a statement. -/
def stmtParts (v : Visitor ε σ) : Nat → ε → Stmt → StateM σ Stmt
  | 0, _, s => return s
  | n + 1, env, s => do
    let inner := v.step env .inner
    match s with
    | .expression s e => return .expression s (← v.expr n inner e)
    | .variable s kind ds =>
      let ds ← v.enterDeclaration env kind ds
      return .variable s kind (← ds.mapM (v.declarator n inner))
    | .function f => return .function (← v.function n inner f)
    | .classLike s name parent ms =>
      let c ← v.classParts n inner false ⟨s, name, parent, ms⟩
      let c ← v.exitDeclaredClass inner c
      return .classLike c.span c.name c.parent c.members
    | .decorated s ds notes (.classLike t name parent ms) =>
      let ds ← ds.mapM (v.expr n inner)
      let c ← v.classParts n inner false ⟨t, name, parent, ms⟩
      let c ← v.exitDeclaredClass inner c
      return .decorated s ds notes (.classLike c.span c.name c.parent c.members)
    | .block s body =>
      let own := v.declare inner (lexicalNames false body) fun _ => (Stmt.allMentions body).written
      return .block s (← v.stmts n own body)
    | .cond s e yes no =>
      let e ← v.expr n inner e
      let yes ← v.single n env yes
      return .cond s e yes (← option (v.single n env) no)
    | .forLoop t init test update body =>
      let own := v.declare inner (Stmt.headNames init) fun _ => s.mentions.written
      let init ← option (v.head n own) init
      let test ← option (v.expr n own) test
      let update ← option (v.expr n own) update
      return .forLoop t init test update (← v.single n own body)
    | .forOf t isAwait declared targets e body =>
      let own := v.declare inner (loopNames declared targets) fun _ => s.mentions.written
      let targets ← targets.mapM (v.pattern n own declared.isSome)
      let e ← v.expr n own e
      return .forOf t isAwait declared targets e (← v.single n own body)
    | .forIn t declared targets e body =>
      let own := v.declare inner (loopNames declared targets) fun _ => s.mentions.written
      let targets ← targets.mapM (v.pattern n own declared.isSome)
      let e ← v.expr n own e
      return .forIn t declared targets e (← v.single n own body)
    | .whileLoop s e body =>
      let e ← v.expr n inner e
      return .whileLoop s e (← v.single n env body)
    | .doWhile s body e =>
      let body ← v.single n env body
      return .doWhile s body (← v.expr n inner e)
    | .ret s e => return .ret s (← option (v.expr n inner) e)
    | .switch s e cases =>
      let e ← v.expr n inner e
      let bodies := cases.flatMap fun | .mk _ _ body => body
      let own := v.declare inner (lexicalNames false bodies)
        fun _ => (Case.allMentions cases).written
      return .switch s e (← cases.mapM (v.case n own))
    | .tryCatch s tried param handler finalizer =>
      let tried ← v.single n env tried
      let own := v.declare inner ((param.map Pattern.boundNames).getD [])
        fun _ => (Stmt.mentionsOf handler).written
      let param ← option (v.pattern n own true) param
      let handler ← option (v.single n own) handler
      return .tryCatch s tried param handler (← option (v.single n env) finalizer)
    | .throwing s e => return .throwing s (← v.expr n inner e)
    | .labeled s label body => return .labeled s label (← v.single n env body)
    | .withObject s e body =>
      let e ← v.expr n inner e
      return .withObject s e (← v.single n env body)
    | .exportDeclaration s declared => return .exportDeclaration s (← v.stmtParts n env declared)
    | .exportDefault s value => return .exportDefault s (← v.stmtParts n env value)
    | s => return s

/-- Visits what stands in the head of a loop. -/
def head (v : Visitor ε σ) : Nat → ε → Stmt → StateM σ Stmt
  | 0, _, s => return s
  | n + 1, env, s => v.stmtParts n env s

def case (v : Visitor ε σ) : Nat → ε → Case → StateM σ Case
  | 0, _, c => return c
  | n + 1, env, .mk s test body => do
    let test ← option (v.expr n env) test
    return .mk s test (← v.stmts n env body)

end

end Visitor

end ScopedViews.Script
