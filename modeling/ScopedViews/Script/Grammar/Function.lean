import ScopedViews.Script.Grammar.Target
/-!
# Functions, keys and binding patterns

The parts that functions, object literals and classes share.
-/

namespace ScopedViews.Script.Reader

/-- A binding pattern without a default value. -/
def bindingTarget (g : Grammar) (ctx : Context) : Reader Pattern := do
  let first ← start
  if (← atPunct "[") || (← atPunct "\x7b") then g.pattern ctx
  else
    let n ← identifier g ctx
    return .name ⟨first, n.span.stop⟩ n.text

/-- A binding pattern with its default value, if it has one. -/
def bindingDefault (g : Grammar) (ctx : Context) : Reader Pattern := do
  let first ← start
  let p ← bindingTarget g ctx
  if ← eatPunct g.width "=" then
    let value ← g.assignment (ctx.allowIn true)
    return .default (← spanFrom first) p value
  else return p

/-- The key of a member: whether it is computed, and the key. -/
def memberKey (g : Grammar) (ctx : Context) (privates : Bool) : Reader (Bool × Expr) := do
  let first ← start
  match ← token with
  | .word w _ =>
    advance g.width
    return (false, .name (← spanFrom first) w)
  | .string v =>
    advance g.width
    return (false, .string (← spanFrom first) v)
  | .number v raw =>
    advance g.width
    return (false, .number (← spanFrom first) v raw)
  | .bigint raw =>
    advance g.width
    return (false, .bigint (← spanFrom first) raw)
  | .privateName w =>
    guard (privates && w != "constructor")
    advance g.width
    return (false, .privateName (← spanFrom first) w)
  | .punct "[" =>
    advance g.width
    let e ← g.assignment (ctx.allowIn true)
    expectPunct g.width "]"
    return (true, e)
  | _ => refuse

/-- Whether a key is at hand. -/
def atKey : Reader Bool := do
  match ← token with
  | .word _ _ | .string _ | .number _ _ | .bigint _ | .privateName _ => return true
  | .punct p => return p == "["
  | _ => return false

/-- A member of an object pattern. -/
def patternMember (g : Grammar) (ctx : Context) : Reader Pattern := do
  let first ← start
  if ← eatPunct g.width "..." then
    let n ← identifier g ctx
    guard (← atPunct "\x7d")
    return .rest (← spanFrom first) (.name n.span n.text)
  let shorthand ← atIdentifier ctx
  let (computed, key) ← memberKey g ctx false
  if ← eatPunct g.width ":" then
    let p ← bindingDefault g ctx
    return .keyed (← spanFrom first) computed key p false
  guard shorthand
  match key with
  | .name s text =>
    if ← eatPunct g.width "=" then
      let value ← g.assignment (ctx.allowIn true)
      let span ← spanFrom first
      return .keyed span false key (.default span (.name s text) value) true
    else return .keyed (← spanFrom first) false key (.name s text) true
  | _ => refuse

/-- The elements of an array pattern and the bracket that closes it. -/
def patternElements (g : Grammar) (ctx : Context) : Nat → List Pattern → Reader (List Pattern)
  | 0, _ => refuse
  | fuel + 1, acc => do
    let first ← start
    if ← eatPunct g.width "]" then return acc.reverse
    else if ← eatPunct g.width "," then
      patternElements g ctx fuel (.hole ⟨first, first + 1⟩ :: acc)
    else if ← eatPunct g.width "..." then
      let p ← bindingTarget g ctx
      let p := .rest (← spanFrom first) p
      expectPunct g.width "]"
      return (p :: acc).reverse
    else
      let p ← bindingDefault g ctx
      if ← eatPunct g.width "]" then return (p :: acc).reverse
      else
        expectPunct g.width ","
        patternElements g ctx fuel (p :: acc)

/-- An array or object pattern. -/
def bindingPattern (g : Grammar) (ctx : Context) : Reader Pattern := do
  let first ← start
  if ← eatPunct g.width "[" then
    let elements ← patternElements g ctx g.width []
    return .array (← spanFrom first) elements
  else
    expectPunct g.width "\x7b"
    let members ← commaList g.width "\x7d" (patternMember g ctx)
    return .object (← spanFrom first) members

/-- Decorators, each behind its sign. -/
def decorators (g : Grammar) (ctx : Context) : Reader (List Expr) := do
  let rec go : Nat → List Expr → Reader (List Expr)
    | 0, _ => refuse
    | fuel + 1, acc => do
      if ← eatPunct g.width "@" then
        let e ← g.decorator ctx
        go fuel (e :: acc)
      else return acc.reverse
  go g.width []

/-- A parameter with its decorators. -/
def parameter (g : Grammar) (ctx : Context) : Reader Pattern := do
  let first ← start
  let ds ← decorators g ctx
  let p ← bindingDefault g ctx
  let span ← spanFrom first
  return if ds.isEmpty then p else .decorated span ds p

/-- Parameters and the parenthesis that closes them; a rest parameter comes last. -/
def paramsTail (g : Grammar) (ctx : Context) : Nat → List Pattern → Reader (List Pattern)
  | 0, _ => refuse
  | fuel + 1, acc => do
    let first ← start
    if ← eatPunct g.width ")" then return acc.reverse
    else if ← eatPunct g.width "..." then
      let p ← bindingTarget g ctx
      let p := .rest (← spanFrom first) p
      expectPunct g.width ")"
      return (p :: acc).reverse
    else
      let p ← parameter g ctx
      if ← eatPunct g.width ")" then return (p :: acc).reverse
      else
        expectPunct g.width ","
        paramsTail g ctx fuel (p :: acc)

def params (g : Grammar) (ctx : Context) : Reader (List Pattern) := do
  expectPunct g.width "("
  paramsTail g (ctx.allowIn true) g.width []

/-- Directives are the string statements in front. -/
def splitDirectives (source : String) : List Stmt → List Directive × List Stmt
  | .expression s (.string t value) :: rest =>
    let (ds, body) := splitDirectives source rest
    (⟨s, slice source ⟨t.start + 1, t.stop - 1⟩, value⟩ :: ds, body)
  | body => ([], body)

/-- Statements up to the closing brace, which is consumed. -/
def statementsToBrace (g : Grammar) (ctx : Context) : Reader (List Stmt) := do
  let body ← untilStop (atPunct "\x7d") (g.statement ctx false) g.width []
  expectPunct g.width "\x7d"
  return body

/-- The braces and statements of a function. -/
def functionBody (g : Grammar) (ctx : Context) : Reader (Span × List Directive × List Stmt) := do
  let first ← start
  expectPunct g.width "\x7b"
  let body ← statementsToBrace g { ctx with isIn := true, returns := true }
  let (directives, body) := splitDirectives g.source body
  return (← spanFrom first, directives, body)

/-- Parameters and body of a method, which starts at its parameters. -/
def methodFunction (g : Grammar) (isAsync generator : Bool) : Reader Function := do
  let first ← start
  let ctx := Context.ofFunction isAsync generator
  let ps ← params g ctx
  let (bodySpan, directives, body) ← functionBody g ctx
  return .mk (← spanFrom first) .method none isAsync generator ps bodySpan directives body false

/-- A function from the word `function` on; `first` is where it starts. -/
def functionTail (g : Grammar) (ctx : Context) (first : Nat) (form : FunctionForm)
    (isAsync needsName : Bool) : Reader Function := do
  expectWord g.width "function"
  let generator ← eatPunct g.width "*"
  let inner := Context.ofFunction isAsync generator
  let nameContext := if form = .expression then inner else { ctx with isYield := ctx.isYield }
  let name ←
    if ← atPunct "(" then
      guard (!needsName)
      pure none
    else some <$> identifier g nameContext
  let ps ← params g inner
  let (bodySpan, directives, body) ← functionBody g inner
  return .mk (← spanFrom first) form name isAsync generator ps bodySpan directives body false

/-- A getter has no parameters and a setter exactly one. -/
def fitsAccessor (kind : MethodKind) : Function → Bool
  | .mk _ _ _ _ _ params _ _ _ _ =>
    match kind, params with
    | .getter, [] => true
    | .getter, _ => false
    | .setter, [.rest _ _] => false
    | .setter, [_] => true
    | .setter, _ => false
    | _, _ => true

end ScopedViews.Script.Reader
