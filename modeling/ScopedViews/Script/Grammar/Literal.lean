import ScopedViews.Script.Grammar.Function
/-!
# Object literals, array literals and templates
-/

namespace ScopedViews.Script.Reader

/-- Elements of an array literal up to its bracket; `spread` says whether one was spread and a
comma followed. -/
def arrayElements (g : Grammar) (ctx : Context) :
    Nat → List Expr → Bool → Reader (List Expr × Bool)
  | 0, _, _ => refuse
  | fuel + 1, acc, spread => do
    let first ← start
    if ← eatPunct g.width "]" then return (acc.reverse, spread)
    else if ← eatPunct g.width "," then
      arrayElements g ctx fuel (.hole ⟨first, first + 1⟩ :: acc) spread
    else
      let (e, isSpread) ←
        if ← eatPunct g.width "..." then do
          let e ← g.assignment (ctx.allowIn true)
          pure (Expr.spread (← spanFrom first) e, true)
        else do pure (← g.assignment (ctx.allowIn true), false)
      if ← eatPunct g.width "]" then return ((e :: acc).reverse, spread)
      else
        expectPunct g.width ","
        arrayElements g ctx fuel (e :: acc) (spread || isSpread)

def arrayLiteral (g : Grammar) (ctx : Context) : Reader Expr := do
  let first ← start
  expectPunct g.width "["
  let (elements, spread) ← arrayElements g ctx g.width [] false
  if spread then modify fun s => { s with spreadCommas := first :: s.spreadCommas }
  return .array (← spanFrom first) elements

/-- Whether the word at hand is a modifier: the key of a member follows it. -/
def modifies (g : Grammar) (sameLine star : Bool) : Reader Bool :=
  next g.width do
    if sameLine && (← lineBefore) then return false
    if star && (← atPunct "*") then return true
    atKey

/-- A method with the modifiers already read. -/
def methodMember (g : Grammar) (ctx : Context) (first : Nat) (isAsync generator : Bool)
    (kind : MethodKind) : Reader Member := do
  let (computed, key) ← memberKey g ctx false
  let f ← methodFunction g isAsync generator
  guard (fitsAccessor kind f)
  return .method (← spanFrom first) false computed key kind f

/-- A member of an object literal. -/
def objectMember (g : Grammar) (ctx : Context) : Reader Member := do
  let first ← start
  if ← eatPunct g.width "..." then
    let e ← g.assignment (ctx.allowIn true)
    return .spread (← spanFrom first) e
  if ← eatPunct g.width "*" then methodMember g ctx first false true .method
  else if (← atWord "async") && (← modifies g true true) then do
    advance g.width
    let generator ← eatPunct g.width "*"
    methodMember g ctx first true generator .method
  else if (← atWord "get") && (← modifies g false false) then do
    advance g.width
    methodMember g ctx first false false .getter
  else if (← atWord "set") && (← modifies g false false) then do
    advance g.width
    methodMember g ctx first false false .setter
  else
    let plain ← atIdentifier ctx
    let (computed, key) ← memberKey g ctx false
    if ← atPunct "(" then
      let f ← methodFunction g false false
      return .method (← spanFrom first) false computed key .method f
    else if ← eatPunct g.width ":" then
      let e ← g.assignment (ctx.allowIn true)
      return .keyed (← spanFrom first) computed key e false
    else
      guard plain
      let span ← spanFrom first
      if ← eatPunct g.width "=" then
        let e ← g.assignment (ctx.allowIn true)
        modify fun s => { s with initials := (first, e) :: s.initials }
      return .keyed span computed key key true

/-- Members of an object literal up to its brace. -/
def objectMembers (g : Grammar) (ctx : Context) :
    Nat → List Member → Bool → Reader (List Member × Bool)
  | 0, _, _ => refuse
  | fuel + 1, acc, spread => do
    if ← eatPunct g.width "\x7d" then return (acc.reverse, spread)
    else
      let isSpread ← atPunct "..."
      let m ← objectMember g ctx
      if ← eatPunct g.width "\x7d" then return ((m :: acc).reverse, spread)
      else
        expectPunct g.width ","
        objectMembers g ctx fuel (m :: acc) (spread || isSpread)

def objectLiteral (g : Grammar) (ctx : Context) : Reader Expr := do
  let first ← start
  expectPunct g.width "\x7b"
  let (members, spread) ← objectMembers g ctx g.width [] false
  if spread then modify fun s => { s with spreadCommas := first :: s.spreadCommas }
  return .object (← spanFrom first) members

/-- One or more expressions separated by commas. -/
def expression (g : Grammar) (ctx : Context) : Reader Expr := do
  let first ← start
  let items ← separated g.width (g.assignment ctx) g.width []
  match items with
  | [e] => return e
  | _ => return .sequence (← spanFrom first) items

/-- Pieces of a template after its first one. -/
def templateTail (g : Grammar) (ctx : Context) (tagged : Bool) :
    Nat → List Quasi → List Expr → Reader (List Quasi × List Expr)
  | 0, _, _ => refuse
  | fuel + 1, quasis, parts => do
    let e ← expression g (ctx.allowIn true)
    guard (← atPunct "\x7d")
    let first ← start
    match ← asTemplate g.width with
    | .template raw cooked last =>
      guard (tagged || cooked.isSome)
      let stop := (← get).cursor.offset
      advance g.width
      let quasi : Quasi := ⟨⟨first + 1, if last then stop - 1 else stop - 2⟩, raw, cooked⟩
      if last then return ((quasi :: quasis).reverse, (e :: parts).reverse)
      else templateTail g ctx tagged fuel (quasi :: quasis) (e :: parts)
    | _ => refuse

/-- A template, the first piece of which is at hand. -/
def templatePieces (g : Grammar) (ctx : Context) (tagged : Bool) :
    Reader (List Quasi × List Expr) := do
  let first ← start
  match ← token with
  | .template raw cooked last =>
    guard (tagged || cooked.isSome)
    let stop := (← get).cursor.offset
    advance g.width
    let quasi : Quasi := ⟨⟨first + 1, if last then stop - 1 else stop - 2⟩, raw, cooked⟩
    if last then return ([quasi], [])
    else templateTail g ctx tagged g.width [quasi] []
  | _ => refuse

/-- Arguments of a call, from the parenthesis on. -/
def arguments (g : Grammar) (ctx : Context) : Reader (List Expr) := do
  expectPunct g.width "("
  commaList g.width ")" do
    let first ← start
    if ← eatPunct g.width "..." then
      let e ← g.assignment (ctx.allowIn true)
      return .spread (← spanFrom first) e
    else g.assignment (ctx.allowIn true)

end ScopedViews.Script.Reader
