import ScopedViews.Script.Grammar.Class
/-!
# Expressions
-/

namespace ScopedViews.Script.Reader

/-- An arrow from its sign on. -/
def arrowTail (g : Grammar) (ctx : Context) (first : Nat) (isAsync : Bool) (ps : List Pattern) :
    Reader Expr := do
  guard !(← lineBefore)
  expectPunct g.width "=>"
  let inner : Context := { ctx with isAwait := isAsync, isYield := false }
  if ← atPunct "\x7b" then
    let (bodySpan, directives, body) ← functionBody g { inner with returns := true }
    return .function (.mk (← spanFrom first) .arrow none isAsync false ps bodySpan directives body
      false)
  else
    let e ← g.assignment inner
    let span := e.span
    return .function (.mk (← spanFrom first) .arrow none isAsync false ps span []
      [.expression span e] true)

/-- The parameters of an arrow, if the parenthesis at hand opens them. -/
def arrowParams? (g : Grammar) (ctx : Context) : Reader (Option (List Pattern)) := fun s =>
  let position := s.tokenCursor.offset
  let attempt : Reader (List Pattern) := do
    let ps ← params g ctx
    guard (← atPunct "=>")
    guard !(← lineBefore)
    return ps
  if s.notArrow.contains position then .ok none s
  else
    match attempt s with
    | .ok ps t => .ok (some ps) t
    | .error _ t => .ok none { s with notArrow := position :: t.notArrow }

/-- A parenthesised expression. -/
def parenthesised (g : Grammar) (ctx : Context) : Reader Expr := do
  let first ← start
  expectPunct g.width "("
  let e ← expression g (ctx.allowIn true)
  expectPunct g.width ")"
  return .paren (← spanFrom first) e

/-- What follows `import` in an expression. -/
def importExpression (g : Grammar) (ctx : Context) : Reader Expr := do
  let first ← start
  expectWord g.width "import"
  let call (phase : String) : Reader Expr := do
    expectPunct g.width "("
    let source ← g.assignment (ctx.allowIn true)
    if ← eatPunct g.width "," then
      if ← eatPunct g.width ")" then return .importCall (← spanFrom first) phase source none
      else
        let options ← g.assignment (ctx.allowIn true)
        let _ ← eatPunct g.width ","
        expectPunct g.width ")"
        return .importCall (← spanFrom first) phase source (some options)
    else
      expectPunct g.width ")"
      return .importCall (← spanFrom first) phase source none
  if ← eatPunct g.width "." then
    if ← eatWord g.width "meta" then return .metaProperty (← spanFrom first) "import" "meta"
    else if ← eatWord g.width "source" then call "source"
    else if ← eatWord g.width "defer" then call "defer"
    else refuse
  else call ""

/-- An expression that begins with a word. -/
def wordExpression (g : Grammar) (ctx : Context) (w : String) (escaped : Bool) : Reader Expr := do
  let first ← start
  let plain (make : Span → Expr) : Reader Expr := do
    guard (!escaped)
    advance g.width
    return make (← spanFrom first)
  match w with
  | "null" => plain .null
  | "true" => plain (.boolean · true)
  | "false" => plain (.boolean · false)
  | "this" => plain .thisRef
  | "function" => .function <$> functionTail g ctx first .expression false false
  | "class" => classExpression g ctx first []
  | "import" => importExpression g ctx
  | "super" =>
    let e ← plain .superRef
    guard ((← atPunct "(") || (← atPunct ".") || (← atPunct "["))
    return e
  | _ =>
    let isAsyncFunction ←
      if w == "async" && !escaped then
        next g.width do return (← atWord "function") && !(← lineBefore)
      else pure false
    if isAsyncFunction then
      advance g.width
      .function <$> functionTail g ctx first .expression true false
    else
      let n ← identifier g ctx
      return .name n.span n.text

/-- The smallest expressions. -/
def primary (g : Grammar) (ctx : Context) : Reader Expr := do
  let first ← start
  match ← token with
  | .word w escaped => wordExpression g ctx w escaped
  | .string v =>
    advance g.width
    return .string (← spanFrom first) v
  | .number v raw =>
    advance g.width
    return .number (← spanFrom first) v raw
  | .bigint raw =>
    advance g.width
    return .bigint (← spanFrom first) raw
  | .template _ _ _ =>
    let (quasis, parts) ← templatePieces g ctx false
    return .template (← spanFrom first) quasis parts
  | .punct "(" => parenthesised g ctx
  | .punct "@" => do
    let ds ← decorators g ctx
    classExpression g ctx first ds
  | .punct "[" => arrayLiteral g ctx
  | .punct "\x7b" => objectLiteral g ctx
  | .punct p =>
    if p == "/" || p == "/=" then
      match ← asRegex with
      | .regex pattern flags =>
        advance g.width
        return .regex (← spanFrom first) pattern flags
      | _ => refuse
    else refuse
  | _ => refuse

/-- A member access after its point. -/
def dotMember (g : Grammar) (first : Nat) (object : Expr) (optional : Bool) : Reader Expr := do
  let at_ ← start
  match ← token with
  | .privateName w =>
    advance g.width
    let span ← spanFrom at_
    return .privateMember ⟨first, span.stop⟩ object ⟨span, w⟩ optional
  | _ =>
    let n ← memberName g
    return .member ⟨first, n.span.stop⟩ object n optional

/-- What may follow an expression besides names behind points. -/
structure LinkForms where
  calls : Bool
  /-- Keys in brackets; behind a decorator they begin the next member. -/
  keys : Bool

/-- Links of a chain after an expression; says whether a link is optional. -/
def memberRest (g : Grammar) (ctx : Context) (first : Nat) (forms : LinkForms) :
    Nat → Expr → Bool → Reader (Expr × Bool)
  | 0, _, _ => refuse
  | fuel + 1, e, chain => do
    match ← token with
    | .punct "." =>
      advance g.width
      memberRest g ctx first forms fuel (← dotMember g first e false) chain
    | .punct "[" =>
      if forms.keys then
        advance g.width
        let key ← expression g (ctx.allowIn true)
        expectPunct g.width "]"
        memberRest g ctx first forms fuel (.index (← spanFrom first) e key false) chain
      else return (e, chain)
    | .punct "(" =>
      if forms.calls then
        let args ← arguments g ctx
        memberRest g ctx first forms fuel (.call (← spanFrom first) e args false) chain
      else return (e, chain)
    | .punct "?." =>
      guard forms.calls
      advance g.width
      match ← token with
      | .punct "(" =>
        let args ← arguments g ctx
        memberRest g ctx first forms fuel (.call (← spanFrom first) e args true) true
      | .punct "[" =>
        advance g.width
        let key ← expression g (ctx.allowIn true)
        expectPunct g.width "]"
        memberRest g ctx first forms fuel (.index (← spanFrom first) e key true) true
      | _ => memberRest g ctx first forms fuel (← dotMember g first e true) true
    | .template _ _ _ =>
      guard (!chain)
      let (quasis, parts) ← templatePieces g ctx true
      memberRest g ctx first forms fuel (.tagged (← spanFrom first) e quasis parts) chain
    | _ => return (e, chain)

/-- `new` with the callee and the arguments that belong to it. -/
def construction (g : Grammar) (ctx : Context) (self : Reader Expr) : Reader Expr := do
  let first ← start
  expectWord g.width "new"
  if ← eatPunct g.width "." then
    expectWord g.width "target"
    return .metaProperty (← spanFrom first) "new" "target"
  let calleeStart ← start
  let callee ←
    if ← atWord "new" then self
    else if (← atWord "import") && (← next g.width do return !(← atPunct ".")) then refuse
    else primary g ctx
  let (callee, _) ← memberRest g ctx calleeStart ⟨false, true⟩ g.width callee false
  let args ← if ← atPunct "(" then arguments g ctx else pure []
  return .construct (← spanFrom first) callee args

/-- Nested `new`, by the depth of nesting. -/
def constructions (g : Grammar) (ctx : Context) : Nat → Reader Expr
  | 0 => refuse
  | fuel + 1 => construction g ctx (constructions g ctx fuel)

/-- An expression with its links; says whether one is optional. -/
def linkedExpression (g : Grammar) (ctx : Context) (forms : LinkForms) : Reader (Expr × Bool) := do
  let first ← start
  let e ← if ← atWord "new" then constructions g ctx g.width else primary g ctx
  let (e, chain) ← memberRest g ctx first forms g.width e false
  return (if chain then .chain e.span e else e, chain)

/-- An expression with its member accesses and calls; says whether a link is optional. -/
def memberExpression (g : Grammar) (ctx : Context) : Reader (Expr × Bool) :=
  linkedExpression g ctx ⟨true, true⟩

/-- What stands behind the sign of a decorator. -/
def decoratorExpression (g : Grammar) (ctx : Context) : Reader Expr := do
  let (e, _) ← linkedExpression g (ctx.allowIn true) ⟨true, false⟩
  return e

def updateOp? : Token → Option UpdateOp
  | .punct "++" => some .increment
  | .punct "--" => some .decrement
  | _ => none

def unaryOp? : Token → Option UnaryOp
  | .punct "-" => some .minus
  | .punct "+" => some .plus
  | .punct "!" => some .not
  | .punct "~" => some .bitNot
  | .word "typeof" false => some .typeof
  | .word "void" false => some .void
  | .word "delete" false => some .delete
  | _ => none

/-- Whether `await` at hand is the operator. -/
def atAwait (g : Grammar) (ctx : Context) : Reader Bool := do
  if ← atWord "await" then
    if ctx.isAwait then return true
    else
      next g.width do
        if ← lineBefore then return false
        match ← token with
        | .word w _ => return !(["in", "of", "instanceof"].contains w)
        | .number _ _ | .bigint _ | .string _ | .template _ _ _ => return true
        | _ => return false
  else return false

/-- Unary and update expressions. -/
def unaryExpression (g : Grammar) (ctx : Context) : Reader Expr := do
  let first ← start
  let tok ← token
  match updateOp? tok, unaryOp? tok with
  | some op, _ =>
    advance g.width
    let e ← g.unary ctx
    let target ← ofOption (simpleTarget? e)
    return .update (← spanFrom first) op true target
  | none, some op =>
    advance g.width
    let e ← g.unary ctx
    return .unary (← spanFrom first) op e
  | none, none =>
    if ← atAwait g ctx then
      guard ctx.isAwait
      advance g.width
      let e ← g.unary ctx
      return .await (← spanFrom first) e
    else
      let (e, _) ← g.member ctx
      match updateOp? (← token) with
      | some op =>
        if ← lineBefore then return e
        else
          let target ← ofOption (simpleTarget? e)
          advance g.width
          return .update (← spanFrom first) op false target
      | none => return e

/-- What a token between two operands does: an operator of its own, or a logical one. -/
inductive Operator where
  | binary (op : BinaryOp)
  | logical (op : LogicalOp)

/-- The operator a token stands for, and how tightly it binds. -/
def operatorAt? (ctx : Context) : Token → Option (Operator × Nat)
  | .punct p =>
    match p with
    | "??" => some (.logical .coalesce, 1)
    | "||" => some (.logical .or, 2)
    | "&&" => some (.logical .and, 3)
    | "|" => some (.binary .bitOr, 4)
    | "^" => some (.binary .bitXor, 5)
    | "&" => some (.binary .bitAnd, 6)
    | "==" => some (.binary .equal, 7)
    | "!=" => some (.binary .notEqual, 7)
    | "===" => some (.binary .identical, 7)
    | "!==" => some (.binary .notIdentical, 7)
    | "<" => some (.binary .less, 8)
    | "<=" => some (.binary .lessEqual, 8)
    | ">" => some (.binary .greater, 8)
    | ">=" => some (.binary .greaterEqual, 8)
    | "<<" => some (.binary .shiftLeft, 9)
    | ">>" => some (.binary .shiftRight, 9)
    | ">>>" => some (.binary .shiftRightUnsigned, 9)
    | "+" => some (.binary .add, 10)
    | "-" => some (.binary .subtract, 10)
    | "*" => some (.binary .multiply, 11)
    | "/" => some (.binary .divide, 11)
    | "%" => some (.binary .remainder, 11)
    | "**" => some (.binary .power, 12)
    | _ => none
  | .word "instanceof" false => some (.binary .instanceOf, 8)
  | .word "in" false => if ctx.isIn then some (.binary .isIn, 8) else none
  | _ => none

/-- `??` does not mix with `||` and `&&` unless there are parentheses. -/
def mixes (op : LogicalOp) (e : Expr) : Bool :=
  match op, e with
  | .coalesce, .logical _ inner _ _ => inner != .coalesce
  | _, .logical _ .coalesce _ _ => true
  | _, _ => false

/-- Operands of a power on the left must not be unary. -/
def isUnary : Expr → Bool
  | .unary _ _ _ => true
  | .await _ _ => true
  | _ => false

/-- Operators that bind tighter than `level`, and their operands. -/
def operatorRest (g : Grammar) (ctx : Context) (first level : Nat) : Nat → Expr → Reader Expr
  | 0, _ => refuse
  | fuel + 1, left => do
    match operatorAt? ctx (← token) with
    | none => return left
    | some (op, strength) =>
      if strength ≤ level then return left
      else
        advance g.width
        match op with
        | .binary .power =>
          guard (!isUnary left)
          let right ← g.binary ctx (strength - 1)
          operatorRest g ctx first level fuel (.binary (← spanFrom first) .power left right)
        | .binary op =>
          let right ← g.binary ctx strength
          operatorRest g ctx first level fuel (.binary (← spanFrom first) op left right)
        | .logical op =>
          let right ← g.binary ctx strength
          guard (!mixes op left && !mixes op right)
          operatorRest g ctx first level fuel (.logical (← spanFrom first) op left right)

/-- Marks the call that an expression begins with as one without effect. -/
def markPure : Expr → Expr
  | .paren s e => .paren s (markPure e)
  | .call s callee arguments optional => .pure s (.call s callee arguments optional)
  | .construct s callee arguments => .pure s (.construct s callee arguments)
  | .chain s (.call t callee arguments optional) =>
    .chain s (.pure t (.call t callee arguments optional))
  | .binary s op a b => .binary s op (markPure a) b
  | .logical s op a b => .logical s op (markPure a) b
  | .conditional s test yes no => .conditional s (markPure test) yes no
  | e => e

/-- Operators that bind tighter than `level`. -/
def binaryExpression (g : Grammar) (ctx : Context) (level : Nat) : Reader Expr := do
  let first ← start
  let isPure := (← get).pureBefore
  let left ←
    match ← token with
    | .privateName w =>
      advance g.width
      let name := Expr.privateName (← spanFrom first) w
      guard ((← atWord "in") && ctx.isIn && decide (level < 8))
      advance g.width
      let right ← g.binary ctx 8
      pure (Expr.binary (← spanFrom first) .isIn name right)
    | _ => g.unary ctx
  operatorRest g ctx first level g.width (if isPure then markPure left else left)

def assignOp? : Token → Option AssignOp
  | .punct p =>
    match p with
    | "=" => some .plain
    | "+=" => some (.combined .add)
    | "-=" => some (.combined .subtract)
    | "*=" => some (.combined .multiply)
    | "/=" => some (.combined .divide)
    | "%=" => some (.combined .remainder)
    | "**=" => some (.combined .power)
    | "<<=" => some (.combined .shiftLeft)
    | ">>=" => some (.combined .shiftRight)
    | ">>>=" => some (.combined .shiftRightUnsigned)
    | "&=" => some (.combined .bitAnd)
    | "|=" => some (.combined .bitOr)
    | "^=" => some (.combined .bitXor)
    | "&&=" => some (.logical .and)
    | "||=" => some (.logical .or)
    | "??=" => some (.logical .coalesce)
    | _ => none
  | _ => none

/-- `yield` with its operand, if it has one. -/
def yieldExpression (g : Grammar) (ctx : Context) : Reader Expr := do
  let first ← start
  expectWord g.width "yield"
  if ← lineBefore then return .yield (← spanFrom first) false none
  else if ← eatPunct g.width "*" then
    let e ← g.assignment ctx
    return .yield (← spanFrom first) true (some e)
  else
    let ends ← match ← token with
      | .eof => pure true
      | .punct p => pure ([")", "]", "\x7d", ",", ";", ":"].contains p)
      | .word w _ => pure (w == "in" || w == "of")
      | _ => pure false
    if ends then return .yield (← spanFrom first) false none
    else
      let e ← g.assignment ctx
      return .yield (← spanFrom first) false (some e)

/-- An async arrow, if the word at hand begins one. -/
def asyncArrow? (g : Grammar) (ctx : Context) : Reader (Option Expr) := do
  if !(← atWord "async") then return none
  let first ← start
  let inner : Context := { ctx with isAwait := true }
  let simple ← next g.width do
    if ← lineBefore then return false
    match ← token with
    | .word w _ => if isIdentifier ctx w then next g.width (atPunct "=>") else return false
    | _ => return false
  if simple then
    advance g.width
    let n ← identifier g inner
    some <$> arrowTail g ctx first true [.name n.span n.text]
  else
    let opens ← next g.width do return (← atPunct "(") && !(← lineBefore)
    if opens then
      let saved ← get
      advance g.width
      match ← arrowParams? g inner with
      | some ps => some <$> arrowTail g ctx first true ps
      | none =>
        modify fun s => { saved with notArrow := s.notArrow }
        return none
    else return none

/-- An assignment, a conditional, an arrow, or anything smaller. -/
def assignmentExpression (g : Grammar) (ctx : Context) : Reader Expr := do
  let first ← start
  if ctx.isYield && (← atWord "yield") then yieldExpression g ctx
  else
    match ← asyncArrow? g ctx with
    | some e => return e
    | none =>
      let ps ← if ← atPunct "(" then arrowParams? g ctx else pure none
      match ps with
      | some ps => arrowTail g ctx first false ps
      | none =>
        let left ← g.binary ctx 0
        if ← atPunct "=>" then
          match left with
          | .name s text =>
            guard (s.start = first)
            arrowTail g ctx first false [.name s text]
          | _ => refuse
        else
          match assignOp? (← token) with
          | some op =>
            let target ←
              match op with
              | .plain => toTarget left
              | _ => ofOption (simpleTarget? left)
            advance g.width
            let value ← g.assignment ctx
            return .assign (← spanFrom first) op target value
          | none =>
            if ← eatPunct g.width "?" then
              let yes ← g.assignment (ctx.allowIn true)
              expectPunct g.width ":"
              let no ← g.assignment ctx
              return .conditional (← spanFrom first) left yes no
            else return left

end ScopedViews.Script.Reader
