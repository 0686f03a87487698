import ScopedViews.Script.Grammar.Expression
import ScopedViews.Script.Scope
/-!
# Statements and module declarations
-/

namespace ScopedViews.Script.Reader

/-- A nested statement, which must not be a lexical declaration. -/
def nested (g : Grammar) (ctx : Context) : Reader Stmt := g.statement ctx true

def block (g : Grammar) (ctx : Context) : Reader Stmt := do
  let first ← start
  expectPunct g.width "\x7b"
  let body ← statementsToBrace g ctx
  return .block (← spanFrom first) body

/-- A variable with its initial value, if it has one. -/
def declarator (g : Grammar) (ctx : Context) : Reader Pattern := do
  let first ← start
  let p ← bindingTarget g ctx
  if ← eatPunct g.width "=" then
    let e ← g.assignment ctx
    return .default (← spanFrom first) p e
  else return p

/-- A constant needs an initial value, and so does a pattern. -/
def isComplete (kind : DeclKind) : Pattern → Bool
  | .default _ _ _ => true
  | .name _ _ => kind = .varDecl || kind = .letDecl
  | _ => false

/-- Declarators after the word of their kind. -/
def declarators (g : Grammar) (ctx : Context) : Reader (List Pattern) :=
  separated g.width (declarator g ctx) g.width []

/-- A declaration statement; `words` are the words in front of the declarators. -/
def declaration (g : Grammar) (ctx : Context) (kind : DeclKind) (words : Nat) : Reader Stmt := do
  let first ← start
  advance g.width
  if words = 2 then advance g.width
  let ds ← declarators g (ctx.allowIn true)
  guard (ds.all (isComplete kind))
  semicolon g.width
  return .variable (← spanFrom first) kind ds

/-- Whether `let` at hand begins a declaration. -/
def atLet (g : Grammar) : Reader Bool := do
  if ← atWord "let" then
    next g.width do
      match ← token with
      | .word w _ => return !(["in", "instanceof"].contains w)
      | .punct p => return p == "[" || p == "\x7b"
      | _ => return false
  else return false

/-- Whether `using` at hand begins a declaration. -/
def atUsing (g : Grammar) (ctx : Context) (inHead : Bool) : Reader Bool := do
  if ← atWord "using" then
    next g.width do
      if ← lineBefore then return false
      if inHead && (← atWord "of") then return false
      atIdentifier ctx
  else return false

/-- The kind of declaration that begins here, and how many words name it. -/
def declKind? (g : Grammar) (ctx : Context) (inHead : Bool) : Reader (Option (DeclKind × Nat)) := do
  if ← atWord "var" then return some (.varDecl, 1)
  else if ← atWord "const" then return some (.constDecl, 1)
  else if ← atLet g then return some (.letDecl, 1)
  else if ← atUsing g ctx inHead then return some (.usingDecl, 1)
  else if (← atWord "await") && ctx.isAwait &&
      (← next g.width do return (← atWord "using") && (← atUsing g ctx inHead)) then
    return some (.awaitUsingDecl, 2)
  else return none

def condition (g : Grammar) (ctx : Context) : Reader Expr := do
  expectPunct g.width "("
  let e ← expression g (ctx.allowIn true)
  expectPunct g.width ")"
  return e

def conditional (g : Grammar) (ctx : Context) : Reader Stmt := do
  let first ← start
  expectWord g.width "if"
  let test ← condition g ctx
  let yes ← nested g ctx
  if ← eatWord g.width "else" then
    let no ← nested g ctx
    return .cond (← spanFrom first) test yes (some no)
  else return .cond (← spanFrom first) test yes none

/-- The rest of a counting loop after its first semicolon. -/
def forLoopTail (g : Grammar) (ctx : Context) (first : Nat) (init : Option Stmt) : Reader Stmt := do
  expectPunct g.width ";"
  let test ← if ← atPunct ";" then pure none else some <$> expression g (ctx.allowIn true)
  expectPunct g.width ";"
  let update ← if ← atPunct ")" then pure none else some <$> expression g (ctx.allowIn true)
  expectPunct g.width ")"
  let body ← nested g ctx
  return .forLoop (← spanFrom first) init test update body

/-- The rest of a loop over items or keys, from `of` or `in` on. -/
def forEachTail (g : Grammar) (ctx : Context) (first : Nat) (isAwait : Bool)
    (declared : Option (Span × DeclKind)) (targets : List Pattern) : Reader Stmt := do
  if ← eatWord g.width "of" then
    let source ← g.assignment (ctx.allowIn true)
    expectPunct g.width ")"
    let body ← nested g ctx
    return .forOf (← spanFrom first) isAwait declared targets source body
  else
    expectWord g.width "in"
    guard (!isAwait && !(declared.any fun (_, kind) => kind.disposes))
    let source ← expression g (ctx.allowIn true)
    expectPunct g.width ")"
    let body ← nested g ctx
    return .forIn (← spanFrom first) declared targets source body

def forStatement (g : Grammar) (ctx : Context) : Reader Stmt := do
  let first ← start
  expectWord g.width "for"
  let isAwait ← if ctx.isAwait then eatWord g.width "await" else pure false
  expectPunct g.width "("
  let head ← start
  let noIn := ctx.allowIn false
  let atEach : Reader Bool := do return (← atWord "of") || (← atWord "in")
  if ← atPunct ";" then
    guard (!isAwait)
    forLoopTail g ctx first none
  else
    match ← declKind? g ctx true with
    | some (kind, words) =>
      advance g.width
      if words = 2 then advance g.width
      let ds ← declarators g noIn
      let span ← spanFrom head
      if ← atEach then forEachTail g ctx first isAwait (some (span, kind)) ds
      else
        guard (!isAwait && ds.all (isComplete kind))
        forLoopTail g ctx first (some (.variable span kind ds))
    | none =>
      let asyncOf ←
        if (← atWord "async") && !isAwait then
          next g.width do
            if ← atWord "of" then return !(← next g.width (atPunct "=>")) else return false
        else pure false
      guard !asyncOf
      let e ← expression g noIn
      if ← atEach then
        let target ← toTarget e
        forEachTail g ctx first isAwait none [target]
      else
        guard (!isAwait)
        forLoopTail g ctx first (some (.expression e.span e))

def whileStatement (g : Grammar) (ctx : Context) : Reader Stmt := do
  let first ← start
  expectWord g.width "while"
  let test ← condition g ctx
  let body ← nested g ctx
  return .whileLoop (← spanFrom first) test body

def doStatement (g : Grammar) (ctx : Context) : Reader Stmt := do
  let first ← start
  expectWord g.width "do"
  let body ← nested g ctx
  expectWord g.width "while"
  let test ← condition g ctx
  let _ ← eatPunct g.width ";"
  return .doWhile (← spanFrom first) body test

/-- `break` or `continue` with its label, if it has one. -/
def jump (g : Grammar) (ctx : Context) (make : Span → Option Name → Stmt) : Reader Stmt := do
  let first ← start
  advance g.width
  let label ← if ← mayEnd then pure none else some <$> identifier g ctx
  semicolon g.width
  return make (← spanFrom first) label

def returnStatement (g : Grammar) (ctx : Context) : Reader Stmt := do
  let first ← start
  guard ctx.returns
  advance g.width
  let value ← if ← mayEnd then pure none else some <$> expression g (ctx.allowIn true)
  semicolon g.width
  return .ret (← spanFrom first) value

def throwStatement (g : Grammar) (ctx : Context) : Reader Stmt := do
  let first ← start
  advance g.width
  guard !(← lineBefore)
  let value ← expression g (ctx.allowIn true)
  semicolon g.width
  return .throwing (← spanFrom first) value

def switchCase (g : Grammar) (ctx : Context) : Reader Case := do
  let first ← start
  let test ←
    if ← eatWord g.width "default" then pure none
    else do
      expectWord g.width "case"
      some <$> expression g (ctx.allowIn true)
  expectPunct g.width ":"
  let stop : Reader Bool := do
    return (← atPunct "\x7d") || (← atWord "case") || (← atWord "default")
  let body ← untilStop stop (g.statement ctx false) g.width []
  guard (body.all fun | .variable _ kind _ => !kind.disposes | _ => true)
  return .mk (← spanFrom first) test body

def switchStatement (g : Grammar) (ctx : Context) : Reader Stmt := do
  let first ← start
  expectWord g.width "switch"
  let subject ← condition g ctx
  expectPunct g.width "\x7b"
  let cases ← untilStop (atPunct "\x7d") (switchCase g ctx) g.width []
  expectPunct g.width "\x7d"
  return .switch (← spanFrom first) subject cases

def tryStatement (g : Grammar) (ctx : Context) : Reader Stmt := do
  let first ← start
  expectWord g.width "try"
  let body ← block g ctx
  let (param, handler) ←
    if ← eatWord g.width "catch" then do
      let param ←
        if ← eatPunct g.width "(" then do
          let p ← bindingTarget g (ctx.allowIn true)
          expectPunct g.width ")"
          pure (some p)
        else pure none
      pure (param, some (← block g ctx))
    else pure (none, none)
  let finalizer ← if ← eatWord g.width "finally" then some <$> block g ctx else pure none
  guard (handler.isSome || finalizer.isSome)
  return .tryCatch (← spanFrom first) body param handler finalizer

/-- A function declaration, possibly async. -/
def functionStatement (g : Grammar) (ctx : Context) (single : Bool) : Reader Stmt := do
  let first ← start
  let isAsync ← eatWord g.width "async"
  let f ← functionTail g ctx first .declaration isAsync true
  match f with
  | .mk _ _ _ a gen _ _ _ _ _ => guard (!(single && (a || gen)))
  return .function f

/-- Whether `async function` is at hand. -/
def atAsyncFunction (g : Grammar) : Reader Bool := do
  if ← atWord "async" then
    next g.width do return (← atWord "function") && !(← lineBefore)
  else return false

/-- An expression statement, or a statement with a label. -/
def expressionStatement (g : Grammar) (ctx : Context) : Reader Stmt := do
  let first ← start
  let e ← expression g (ctx.allowIn true)
  match e with
  | .name s text =>
    if ← eatPunct g.width ":" then
      let body ← g.statement ctx true
      return .labeled (← spanFrom first) ⟨s, text⟩ body
    else
      semicolon g.width
      return .expression (← spanFrom first) e
  | _ =>
    semicolon g.width
    return .expression (← spanFrom first) e

/-- The string a module is read from. -/
def moduleString (g : Grammar) : Reader (Span × String) := do
  let first ← start
  match ← token with
  | .string v =>
    advance g.width
    return (← spanFrom first, v)
  | _ => refuse

/-- A name or a string that names a member of a module. -/
def moduleName (g : Grammar) : Reader ModuleName := do
  match ← token with
  | .string _ =>
    let (s, v) ← moduleString g
    return .string s v
  | _ => .name <$> memberName g

def importAttribute (g : Grammar) : Reader Attribute := do
  let first ← start
  let key ← moduleName g
  expectPunct g.width ":"
  let (_, v) ← moduleString g
  return ⟨← spanFrom first, key, v⟩

/-- A module string with the attributes behind it, no two of which have one key. -/
def moduleSource (g : Grammar) : Reader ModuleSource := do
  let (s, v) ← moduleString g
  let asserts ← pure ((← atWord "assert") && !(← lineBefore))
  if asserts || (← atWord "with") then
    advance g.width
    expectPunct g.width "\x7b"
    let attributes ← commaList g.width "\x7d" (importAttribute g)
    guard (decide (attributes.map fun a => a.key.text).Nodup)
    return ⟨s, v, some ⟨if asserts then "assert" else "with", attributes⟩⟩
  else return ⟨s, v, none⟩

def importSpecifier (g : Grammar) (ctx : Context) : Reader ImportBinding := do
  let first ← start
  match ← moduleName g with
  | .name n =>
    if ← eatWord g.width "as" then
      let binding ← identifier g ctx
      return .named (← spanFrom first) (.name n) binding
    else
      guard (isIdentifier ctx n.text)
      return .named n.span (.name n) n
  | .string s v =>
    expectWord g.width "as"
    let binding ← identifier g ctx
    return .named (← spanFrom first) (.string s v) binding

/-- Bindings after the default one: everything, or a list. -/
def importGroup (g : Grammar) (ctx : Context) : Reader (List ImportBinding) := do
  let first ← start
  if ← eatPunct g.width "*" then
    expectWord g.width "as"
    let n ← identifier g ctx
    return [.all (← spanFrom first) n]
  else
    expectPunct g.width "\x7b"
    commaList g.width "\x7d" (importSpecifier g ctx)

def importStatement (g : Grammar) (ctx : Context) : Reader Stmt := do
  let first ← start
  expectWord g.width "import"
  let finish (bindings : Option (List ImportBinding)) (phase : String) : Reader Stmt := do
    let source ← moduleSource g
    semicolon g.width
    return .importFrom (← spanFrom first) bindings phase source
  match ← token with
  | .string _ => finish none ""
  | _ =>
    let deferred ← if ← atWord "defer" then next g.width (atPunct "*") else pure false
    let sourced ←
      if ← atWord "source" then
        next g.width do
          if ← atIdentifier ctx then
            return !(← atWord "from") || (← next g.width (atWord "from"))
          else return false
      else pure false
    let phase := if deferred then "defer" else if sourced then "source" else ""
    if deferred || sourced then advance g.width
    let bindings ←
      if ← atIdentifier ctx then do
        let n ← identifier g ctx
        if ← eatPunct g.width "," then pure (.default n :: (← importGroup g ctx))
        else pure [.default n]
      else importGroup g ctx
    expectWord g.width "from"
    finish (some bindings) phase

def exportSpecifier (g : Grammar) : Reader ExportSpecifier := do
  let first ← start
  let inner ← moduleName g
  if ← eatWord g.width "as" then
    let outer ← moduleName g
    return ⟨← spanFrom first, inner, outer⟩
  else return ⟨← spanFrom first, inner, inner⟩

/-- Without a source the inner names refer to bindings. -/
def refersToBinding (s : ExportSpecifier) : Bool :=
  match s.inner with
  | .name n => !isReserved n.text
  | .string _ _ => false

/-- Notes names under which the module exports something. -/
def noteExports (names : List String) : Reader Unit :=
  modify fun s => { s with exported := names ++ s.exported }

/-- Whether a word with `behind` after it on the same line is at hand. -/
def atWords (g : Grammar) (word behind : String) : Reader Bool := do
  if ← atWord word then
    next g.width do return (← atWord behind) && !(← lineBefore)
  else return false

/-- An interface, which says nothing to a script. -/
def interfaceDeclaration (g : Grammar) (ctx : Context) : Reader Stmt := do
  let first ← start
  expectWord g.width "interface"
  let n ← identifier g ctx
  expectPunct g.width "\x7b"
  expectPunct g.width "\x7d"
  return .interface (← spanFrom first) n

/-- Whether an interface with its name on the same line is at hand. -/
def atInterface (g : Grammar) (ctx : Context) : Reader Bool := do
  if ← atWord "interface" then
    next g.width do return (← atIdentifier ctx) && !(← lineBefore)
  else return false

/-- The rest of a default export; `outer` are decorators in front of it, which start at `first`. -/
def exportDefaultStatement (g : Grammar) (ctx : Context) (first : Nat) (outer : List Expr) :
    Reader Stmt := do
  expectWord g.width "default"
  noteExports ["default"]
  let inner ← start
  let ds ← decorators g ctx
  guard (outer.isEmpty || ds.isEmpty)
  let isAbstract ← atWords g "abstract" "class"
  if isAbstract || (← atWord "class") then
    let declared ← classDeclaration g ctx inner (outer ++ ds) isAbstract
    return .exportDefault (← spanFrom first) declared
  else
    guard (outer.isEmpty && ds.isEmpty)
    if (← atWord "function") || (← atAsyncFunction g) then
      let isAsync ← eatWord g.width "async"
      let f ← functionTail g ctx inner .declaration isAsync false
      return .exportDefault (← spanFrom first) (.function f)
    else if ← atInterface g ctx then
      let declared ← interfaceDeclaration g ctx
      return .exportDefault (← spanFrom first) declared
    else
      let e ← g.assignment (ctx.allowIn true)
      semicolon g.width
      return .exportDefault (← spanFrom first) (.expression e.span e)

/-- The names that an exported declaration declares. -/
def declaredNames : Stmt → List String
  | .function (.mk _ _ (some n) _ _ _ _ _ _ _) => [n.text]
  | .classLike _ (some n) _ _ | .decorated _ _ _ (.classLike _ (some n) _ _) => [n.text]
  | .variable _ _ ds => Pattern.allBoundNames ds
  | _ => []

/-- An export; `outer` are decorators in front of it, which start at `first`. -/
def exportStatement (g : Grammar) (ctx : Context) (first : Nat) (outer : List Expr) :
    Reader Stmt := do
  expectWord g.width "export"
  if ← atWord "default" then exportDefaultStatement g ctx first outer
  else if (← atWord "class") || (← atPunct "@") then
    let inner ← start
    let ds ← decorators g ctx
    guard ((outer.isEmpty || ds.isEmpty) && (← atWord "class"))
    let declared ← classDeclaration g ctx inner (outer ++ ds) false
    noteExports (declaredNames declared)
    return .exportDeclaration (← spanFrom first) declared
  else
    guard outer.isEmpty
    if ← eatPunct g.width "*" then
      let exported ← if ← eatWord g.width "as" then some <$> moduleName g else pure none
      noteExports (exported.map ModuleName.text).toList
      expectWord g.width "from"
      let source ← moduleSource g
      semicolon g.width
      return .exportAll (← spanFrom first) exported source
    else if ← eatPunct g.width "\x7b" then
      let specifiers ← commaList g.width "\x7d" (exportSpecifier g)
      noteExports (specifiers.map fun s => s.outer.text)
      let source ← if ← eatWord g.width "from" then some <$> moduleSource g else pure none
      guard (source.isSome || specifiers.all refersToBinding)
      semicolon g.width
      return .exportNamed (← spanFrom first) specifiers source
    else
      let kind ← declKind? g ctx false
      guard ((← atWord "function") || (← atAsyncFunction g) ||
        kind.any fun (kind, _) => !kind.disposes)
      let declared ← g.statement ctx false
      noteExports (declaredNames declared)
      return .exportDeclaration (← spanFrom first) declared

/-- A class or an export of one behind decorators. -/
def decoratedStatement (g : Grammar) (ctx : Context) : Reader Stmt := do
  let first ← start
  let ds ← decorators g ctx
  if ← atWord "export" then exportStatement g ctx first ds
  else classDeclaration g ctx first ds false

/-- Any statement; `single` refuses lexical declarations. -/
def statement (g : Grammar) (ctx : Context) (single : Bool) : Reader Stmt := do
  let first ← start
  match ← token with
  | .punct "\x7b" => block g ctx
  | .punct "@" =>
    guard (!single)
    decoratedStatement g ctx
  | .punct ";" =>
    advance g.width
    return .empty (← spanFrom first)
  | .word w false =>
    match w with
    | "if" => conditional g ctx
    | "for" => forStatement g ctx
    | "while" => whileStatement g ctx
    | "do" => doStatement g ctx
    | "break" => jump g ctx .breakTo
    | "continue" => jump g ctx .continueTo
    | "return" => returnStatement g ctx
    | "throw" => throwStatement g ctx
    | "switch" => switchStatement g ctx
    | "try" => tryStatement g ctx
    | "with" =>
      advance g.width
      let object ← condition g ctx
      let body ← nested g ctx
      return .withObject (← spanFrom first) object body
    | "debugger" =>
      advance g.width
      semicolon g.width
      return .debugger (← spanFrom first)
    | "function" => functionStatement g ctx single
    | "class" =>
      guard (!single)
      classDeclaration g ctx first [] false
    | "import" =>
      if ← next g.width do return (← atPunct "(") || (← atPunct ".") then expressionStatement g ctx
      else importStatement g ctx
    | "export" => exportStatement g ctx first []
    | _ =>
      if ← atAsyncFunction g then functionStatement g ctx single
      else
        match ← declKind? g ctx false with
        | some (kind, words) =>
          if single && kind = .letDecl && !(← next g.width (atPunct "[")) then
            expressionStatement g ctx
          else
            guard (!single || kind = .varDecl)
            declaration g ctx kind words
        | none => expressionStatement g ctx
  | _ => expressionStatement g ctx

end ScopedViews.Script.Reader
