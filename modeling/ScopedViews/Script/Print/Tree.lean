import ScopedViews.Script.Print.Level
/-!
# Printing scripts

Main definition: `Program.print`, the text of a module with tabs and line breaks for the reader, or
as tight as it can be without renaming anything.
-/

namespace ScopedViews.Script

/-- The value of a whole number written in any of its ways, without the final letter. -/
def wholeLiteral (raw : String) : Nat :=
  let cs := raw.toList.filter fun c => c != '_' && c != 'n'
  let ofDigits (radix : Nat) (ds : List Char) : Nat :=
    ds.foldl (fun n c => n * radix + (Number.hexDigit? c).getD 0) 0
  match cs with
  | '0' :: m :: rest =>
    match m.toLower with
    | 'x' => ofDigits 16 rest
    | 'o' => ofDigits 8 rest
    | 'b' => ofDigits 2 rest
    | _ => ofDigits 10 cs
  | _ => ofDigits 10 cs

namespace Print

def regex (pattern flags : String) : Print := do
  let s ← get
  if s.last == some '/' ||
    (s.last == some '<' && "script".toList.isPrefixOf (pattern.toList.map Char.toLower)) then
    space
  text "/"
  text pattern
  text "/"
  chars (sortedFlags flags)
  modify fun s => { s with regexEnd := s.size }

/-- Whether a loop goes over items by the name `async`, which is put in brackets. -/
def isAsyncName : List Pattern → Bool
  | [.name _ n] => n == "async"
  | _ => false

/-- A number that may be infinite. -/
def numeral (x : Float) (level : Level) : Print := do
  if x.isInf then
    if (← get).tight then
      wrap (Level.multiply ≤ level) do
        wordGap
        text "1/0"
    else word "Infinity"
  else number x

/-- The pieces of a template with the values between them. -/
def template (quasis : List Quasi) (parts : List Print) : Print := do
  let mark := Quote.backquote.char
  let rec go : List Quasi → List Print → Print
    | [], _ => nothing
    | q :: quasis, [] => do
      chars (hideClosingTags q.raw.toList)
      go quasis []
    | q :: quasis, p :: parts => do
      chars (hideClosingTags q.raw.toList)
      text "$\x7b"
      p
      text "\x7d"
      go quasis parts
  chars [mark]
  go quasis parts
  chars [mark]

/-- Two operands with an operator between them. -/
def infixed (level own : Level) (opText : String) (isWord : Bool) (opSign : Sign)
    (left right : Print) : Print :=
  wrap (own ≤ level) do
    left
    softSpace
    if isWord then word opText else sign opSign opText
    softSpace
    right

def isRegexOrObjectTarget : Pattern → Bool
  | .object _ _ => true
  | _ => false

/-- Whether writing goes on at the start of a statement. -/
def atStatement : StateM Sheet Bool := do
  let s ← get
  return s.statementStart = s.size

def atExport : StateM Sheet Bool := do
  let s ← get
  return s.exportStart = s.size

def atArrow : StateM Sheet Bool := do
  let s ← get
  return s.arrowStart = s.size

/-- Keeps the start of a statement or of an exported value where it is. -/
def keepStart (p : Print) : Print := do
  let s ← get
  let statement := s.statementStart = s.size
  let exported := s.exportStart = s.size
  p
  modify fun s =>
    { s with
      statementStart := if statement && !exported then s.size else s.statementStart
      exportStart := if exported then s.size else s.exportStart }

/-- The elements of an array pattern, of which the last may take the rest. -/
def arrayPattern (items : List (Pattern × Print)) : Print := do
  let rec go : List (Pattern × Print) → Bool → Print
    | [], _ => nothing
    | (.rest _ _, p) :: rest, first => do
      if !first then text ","
      softSpace
      p
      go rest false
    | (e, p) :: rest, first => do
      if !first then comma
      p
      match e, rest with
      | .hole _, [] => text ","
      | _, _ => go rest false
  text "["
  go items true
  text "]"

def objectPattern (items : List Print) : Print := do
  text "\x7b"
  if !items.isEmpty then softSpace
  separated items
  if !items.isEmpty then softSpace
  text "\x7d"

/-- A key in brackets if it is computed. -/
def key (computed : Bool) (p : Print) : Print := do
  if computed then
    text "["
    p
    text "]"
  else p

/-- `key: value`. -/
def keyed (computed : Bool) (k value : Print) : Print := do
  key computed k
  text ":"
  softSpace
  value

/-- `get`, `set`, `async` and the star in front of a method. -/
def methodHead (isStatic : Bool) (behind : Print) (kind : MethodKind) (isAsync generator : Bool) :
    Print := do
  if isStatic then
    word "static"
    softSpace
  behind
  match kind with
  | .getter =>
    word "get"
    softSpace
  | .setter =>
    word "set"
    softSpace
  | _ => nothing
  if isAsync then
    word "async"
    softSpace
  if generator then text "*"

/-- The name of a module member: a word or a quoted text. -/
def moduleName : ModuleName → Print
  | .name n => text n.text
  | .string _ value => quote false value

def attributeList : Option AttributeClause → Print
  | none => nothing
  | some clause => do
    space
    text clause.keyword
    softSpace
    text "\x7b"
    if !clause.entries.isEmpty then
      softSpace
      separated (clause.entries.map fun a => do
        moduleName a.key
        text ":"
        softSpace
        quote false a.value)
      softSpace
    text "\x7d"

def moduleSource (source : ModuleSource) : Print := do
  softSpace
  quote false source.value
  attributeList source.attributes

/-- The bindings of an import; those in braces stand together. -/
def importBindings : List ImportBinding → Bool → Bool → Print
  | [], _, braced => do
    if braced then
      softSpace
      text "\x7d"
      softSpace
    else space
  | b :: rest, first, braced =>
    match b with
    | .default n => do
      if first then space else comma
      text n.text
      importBindings rest false braced
    | .all _ n => do
      if first then softSpace else comma
      text "*"
      softSpace
      text "as "
      text n.text
      importBindings rest false braced
    | .named _ imported binding => do
      if braced then comma
      else
        if !first then text ","
        softSpace
        text "\x7b"
        softSpace
      let same :=
        match imported with
        | .name n => n.text == binding.text
        | .string _ _ => false
      if !same then
        moduleName imported
        text " as "
      text binding.text
      importBindings rest false true

def importFrom (bindings : Option (List ImportBinding)) (phase : String) (source : ModuleSource) :
    Print := do
  word "import"
  if !phase.isEmpty then
    space
    text phase
  match bindings with
  | none => nothing
  | some [] =>
    softSpace
    text "\x7b\x7d"
    softSpace
    text "from"
  | some bs =>
    importBindings bs true false
    text "from"
  moduleSource source
  endStatement

def exportNames (specifiers : List ExportSpecifier) (source : Option ModuleSource) : Print := do
  text "export"
  softSpace
  text "\x7b"
  if !specifiers.isEmpty then
    softSpace
    separated (specifiers.map fun s => do
      inlineComments s.span.start
      moduleName s.inner
      if s.inner.text != s.outer.text then
        text " as "
        moduleName s.outer)
    softSpace
  text "\x7d"
  match source with
  | none => nothing
  | some source =>
    softSpace
    text "from"
    moduleSource { source with attributes := none }
  endStatement

def exportAll (exported : Option ModuleName) (source : ModuleSource) : Print := do
  text "export"
  softSpace
  text "*"
  match exported with
  | some n =>
    softSpace
    text "as "
    moduleName n
    space
  | none => softSpace
  text "from"
  moduleSource source
  endStatement

/-- Comments, indentation, a statement that ends with a semicolon. -/
def simple (span : Span) (p : Print) : Print := do
  commentsAt span.start
  indent
  p
  endStatement

/-- Comments, indentation, a statement that ends with a line break. -/
def compound (span : Span) (p : Print) : Print := do
  commentsAt span.start
  indent
  p

/-- The words of typed dialects in front of `static`. -/
def modifiersBefore (m : Modifiers) : Print := do
  if m.isDeclared then text "declare "
  match m.access with
  | some w =>
    word w
    softSpace
  | none => nothing
  if m.isAbstract then
    word "abstract"
    softSpace

/-- The words of typed dialects behind `static`. -/
def modifiersBehind (m : Modifiers) : Print := do
  if m.isOverride then
    word "override"
    softSpace
  if m.isReadOnly then
    word "readonly"
    softSpace

def keyMark (m : Modifiers) : Print :=
  match m.mark with
  | some c => chars [c]
  | none => nothing

/-- A class behind its decorators. -/
def classText (front : Print) (notes : ClassNotes) (name : Option Name) (parent : Print)
    (items : List (Member × Print)) : Print := do
  front
  if notes.isAbstract then word "abstract "
  word "class"
  match name with
  | some n => text (" " ++ n.text)
  | none => nothing
  parent
  if !notes.interfaces.isEmpty then
    text " implements "
    separated (notes.interfaces.map text)
  softSpace
  classBody items

/-- A decorator is put in brackets unless it is a name with members and calls behind it. -/
def isBareDecorator : Expr → Bool
  | .name _ _ | .member _ _ _ false | .privateMember _ _ _ false => true
  | .call _ callee _ _ => isBareDecorator callee
  | _ => false

/-- What is written in front of a function whose calls have no effect. -/
def quietNote : String := "/* @__NO_SIDE_EFFECTS__ */"

/-- Whether the calls of a function that starts at a position have no effect. -/
def isQuiet (position : Nat) : StateM Sheet Bool := do
  return (← get).quiet.contains position

/-- The note in front of a declared function, on a line of its own. -/
def quietLine (position : Nat) : Print := do
  if ← isQuiet position then
    text quietNote
    newLine
    indent

/-- The note in front of a function that stands in an expression. -/
def quietBlank (position : Nat) : Print := do
  if ← isQuiet position then
    text quietNote
    space

/-- A constant function whose declaration has a note has it too. -/
def passQuiet (position : Nat) (kind : DeclKind) (declarators : List Pattern) : Print := do
  if (← isQuiet position) && kind = .constDecl then
    match declarators with
    | .default _ _ value :: _ =>
      modify fun s => { s with quiet := value.bare.span.start :: s.quiet }
    | _ => nothing

/-- A word with a label behind it. -/
def jump (w : String) (label : Option Name) : Print := do
  word w
  match label with
  | some n =>
    softSpace
    word n.text
  | none => nothing

end Print

open Print

/-- Whether a key and a value can be written once. -/
def isShorthand (key value : Expr) (written : Bool) : Bool :=
  match key with
  | .name _ "__proto__" => written
  | .name _ k => value.name? == some k
  | _ => false

/-- The name that a pattern binds, if it is a name with or without a default. -/
def Pattern.boundName? : Pattern → Option String
  | .name _ text | .default _ (.name _ text) _ => some text
  | _ => none

def Pattern.isShorthandOf (p : Pattern) (key : Expr) : Bool :=
  match key with
  | .name _ k => p.boundName? == some k
  | _ => false

def isUnaryLike : Expr → Bool
  | .unary _ _ _ | .await _ _ => true
  | .paren _ e => isUnaryLike e
  | _ => false

/-- Whether an operand of `??` is another logical operation. -/
def isMixedLogical (op : LogicalOp) (operand : Expr) : Bool :=
  op == .coalesce &&
    match operand.bare with
    | .logical _ inner _ _ => inner != .coalesce
    | _ => false

mutual

def Expr.write : Expr → Level → Surroundings → Print
  | .null _, _, _ => word "null"
  | .boolean _ value, _, _ => word (if value then "true" else "false")
  | .number _ value _, level, _ => numeral value level
  | .string _ value, _, _ => quote true value
  | .bigint _ raw, _, _ => word (toString (wholeLiteral raw) ++ "n")
  | .regex _ pattern flags, _, _ => regex pattern flags
  | .template _ quasis parts, _, _ => template quasis (Expr.writeAll parts Level.lowest .free)
  | .tagged _ tag quasis parts, _, _ => do
    tag.write Level.update .free
    template quasis (Expr.writeAll parts Level.lowest .free)
  | .name _ n, _, _ => word n
  | .privateName _ n, _, _ => text ("#" ++ n)
  | .thisRef _, _, _ => word "this"
  | .superRef _, _, _ => word "super"
  | .paren _ (.function f), level, around => f.write level around true
  | .paren _ inner, level, around => inner.write level around
  | .sequence _ items, level, around =>
    wrap (Level.comma ≤ level) (separated (Expr.writeAll items Level.lowest around.onlyIn))
  | .function f, level, around => f.write level around false
  | .classLike _ name parent members, _, _ => do
    wrap ((← atStatement) || (← atExport))
      (classText nothing { } name (Expr.writeParent parent) (Member.writeAll members))
  | .decorated _ ds notes inner, _, _ => do
    wrap ((← atStatement) || (← atExport))
      (inner.writeDecorated (each (Expr.writeDecorators ds)) notes)
  | .array _ items, _, _ => elements (items.zip (Expr.writeAll items Level.comma .free))
  | .object _ ms, _, _ => do
    let bracketed := (← atStatement) || (← atArrow)
    wrap bracketed (Print.members ((Member.writeAll ms).map Prod.snd))
  | .spread _ value, _, _ => do
    text "..."
    value.write Level.comma .free
  | .hole _, _, _ => nothing
  | .member _ object n optional, _, around => do
    object.write Level.update around.onlyCall
    let s ← get
    if optional then text "?" else if s.numberEnd = s.size then space
    text ("." ++ n.text)
  | .index _ object k optional, _, around => do
    wrap (object.name? == some "let") (object.write Level.update around.onlyCall)
    if optional then text "?."
    text "["
    k.write Level.lowest .free
    text "]"
  | .privateMember _ object n optional, _, around => do
    object.write Level.update around.onlyCall
    text (if optional then "?.#" else ".#")
    text n.text
  | .call span callee arguments optional, level, around =>
    wrap (Level.construct ≤ level || around.noCall) do
      keepStart nothing
      callee.write Level.update .free
      if optional then text "?."
      Print.arguments span (arguments.zip (Expr.writeAll arguments Level.comma .free))
  | .construct span callee arguments, level, _ =>
    wrap (Level.construct ≤ level) do
      word "new"
      softSpace
      callee.write Level.construct .constructed
      if !(← get).tight || !arguments.isEmpty || Level.update ≤ level then
        Print.arguments span (arguments.zip (Expr.writeAll arguments Level.comma .free))
  | .pure _ inner, level, around => do
    if (← get).tight then inner.write level around
    else
      wrap (Level.update ≤ level || around.noCall) do
        keepStart (text "/* @__PURE__ */ ")
        inner.write Level.lowest .free
  | .chain _ inner, level, around =>
    wrap (Level.update ≤ level) (inner.write level around)
  | .unary _ op operand, level, around =>
    wrap (Level.unary ≤ level) do
      if op.isWord then
        word op.text
        softSpace
      else sign op.sign op.text
      operand.write Level.power around
  | .update _ op true target, level, _ =>
    wrap (Level.unary ≤ level) do
      sign op.sign op.text
      target.writeAt Level.unary
  | .update _ op false target, level, _ =>
    wrap (Level.update ≤ level) do
      target.writeAt Level.update
      text op.text
      modify fun s => { s with sign := op.sign, signEnd := s.size }
  | .binary _ op left right, level, around =>
    let bracketed := op == .isIn && around.noIn
    let inner := if bracketed || op.level ≤ level then Surroundings.free else around.onlyIn
    let own := op.level
    let lower := own - 1
    let leftLevel :=
      if op == .power then (if isUnaryLike left then Level.call else own) else lower
    let rightLevel := if op == .power then lower else own
    infixed (if bracketed then own else level) own op.text op.isWord op.sign
      (left.write leftLevel inner) (right.write rightLevel inner)
  | .logical _ op left right, level, around =>
    let inner := if op.level ≤ level then Surroundings.free else around.onlyIn
    infixed level op.level op.text false .other
      (left.write (if isMixedLogical op left then Level.unary else op.level - 1) inner)
      (right.write (if isMixedLogical op right then Level.unary else op.level) inner)
  | .assign _ op target value, level, around => do
    let destructures := isRegexOrObjectTarget target && ((← atStatement) || (← atArrow))
    wrap (destructures || Level.assign ≤ level) do
      target.write false around
      softSpace
      text op.text
      softSpace
      value.write Level.comma around
  | .conditional _ test yes no, level, around =>
    wrap (Level.conditional ≤ level) do
      test.write Level.conditional around.onlyIn
      softSpace
      text "?"
      softSpace
      yes.write Level.yield .free
      softSpace
      text ":"
      softSpace
      no.write Level.yield around.onlyIn
  | .await _ operand, level, around =>
    wrap (Level.unary ≤ level) do
      word "await"
      softSpace
      operand.write Level.power around
  | .yield _ delegate operand, level, _ =>
    wrap (Level.assign ≤ level) do
      word "yield"
      if delegate then text "*"
      Expr.writeYielded operand
  | .metaProperty _ object property, _, _ => do
    word object
    text ("." ++ property)
  | .importCall _ phase source options, level, around =>
    wrap (Level.construct ≤ level || around.noCall) do
      word "import"
      if !phase.isEmpty then text ("." ++ phase)
      text "("
      source.write Level.comma .free
      Expr.writeOptions options
      text ")"

def Expr.writeAll : List Expr → Level → Surroundings → List Print
  | [], _, _ => []
  | e :: rest, level, around => e.write level around :: Expr.writeAll rest level around

/-- Decorators, each with a blank behind it. -/
def Expr.writeDecorators : List Expr → List Print
  | [] => []
  | e :: rest =>
    (do
      text "@"
      wrap (!isBareDecorator e) (e.write Level.lowest .free)
      space) :: Expr.writeDecorators rest

/-- A class expression behind decorators. -/
def Expr.writeDecorated : Expr → (front : Print) → ClassNotes → Print
  | .classLike _ name parent members, front, notes =>
    classText front notes name (Expr.writeParent parent) (Member.writeAll members)
  | _, _, _ => nothing

def Expr.writeYielded : Option Expr → Print
  | none => nothing
  | some e => do
    softSpace
    e.write Level.yield .free

def Expr.writeOptions : Option Expr → Print
  | none => nothing
  | some e => do
    comma
    e.write Level.comma .free

def Expr.writeParent : Option Expr → Print
  | none => nothing
  | some e => do
    text " extends "
    e.write Level.update .free

/-- The value of a field, an initial value or a returned value behind its mark. -/
def Expr.writeBehind : Option Expr → Print → Level → Surroundings → Print
  | none, _, _, _ => nothing
  | some e, mark, level, around => do
    mark
    e.write level around

/-- A key; texts in front of a colon are never templates. -/
def Expr.writeKey : Expr → Print
  | .string _ value => quote false value
  | .name _ n => word n
  | .privateName _ n => text ("#" ++ n)
  | .null _ => word "null"
  | .boolean _ value => word (if value then "true" else "false")
  | .number _ value _ => numeral value Level.comma
  | .bigint _ raw => word (toString (wholeLiteral raw) ++ "n")
  | _ => nothing

/-- What an operator changes, at the level of its operand. -/
def Pattern.writeAt : Pattern → Level → Print
  | .name _ n, _ => word n
  | .target e, level => e.write level .free
  | _, _ => nothing

def Pattern.write : Pattern → (binding : Bool) → Surroundings → Print
  | .name _ n, _, _ => word n
  | .target e, _, _ => e.write Level.comma .free
  | .object _ ms, binding, _ => objectPattern (Pattern.writeAll ms binding .free)
  | .array _ es, binding, _ => arrayPattern (es.zip (Pattern.writeAll es binding .free))
  | .default _ p value, binding, around => do
    p.write binding around
    softSpace
    text "="
    softSpace
    value.write Level.comma around
  | .rest _ p, binding, _ => do
    text "..."
    p.write binding .free
  | .hole _, _, _ => nothing
  | .keyed _ computed k p shorthand, binding, _ => do
    let once :=
      shorthand || (p.isShorthandOf k && !computed && (binding || (← get).tight))
    if once then p.write binding .free
    else
      keyed computed (if computed then k.write Level.comma .free else k.writeKey)
        (p.write binding .free)
  | .decorated _ ds p, binding, _ => do
    each (Expr.writeDecorators ds)
    p.write binding .free

def Pattern.writeAll : List Pattern → (binding : Bool) → Surroundings → List Print
  | [], _, _ => []
  | p :: rest, binding, around => p.write binding around :: Pattern.writeAll rest binding around

def Member.write : Member → Modifiers → Print
  | .keyed _ computed k value shorthand, _ => do
    if !computed && isShorthand k value shorthand then value.write Level.comma .free
    else
      keyed computed (if computed then k.write Level.comma .free else k.writeKey)
        (value.write Level.comma .free)
  | .method _ isStatic computed k kind f, modifiers => do
    modifiersBefore modifiers
    methodHead isStatic (modifiersBehind modifiers) kind f.isAsync f.isGenerator
    key computed (if computed then k.write Level.comma .free else k.writeKey)
    keyMark modifiers
    f.writeParts
  | .spread _ value, _ => do
    text "..."
    value.write Level.comma .free
  | .field _ isStatic accessor computed k value, modifiers => do
    modifiersBefore modifiers
    if isStatic then
      word "static"
      softSpace
    modifiersBehind modifiers
    if accessor then
      word "accessor"
      softSpace
    key computed (if computed then k.write Level.comma .free else k.writeKey)
    keyMark modifiers
    Expr.writeBehind value
      (do
        softSpace
        text "="
        softSpace)
      Level.comma .free
  | .block _ body, _ => do
    text "static"
    softSpace
    braces false (statements [] (body.zip (Stmt.writeAll body)))
    forgetSemicolon
  | .marked _ ds modifiers m, _ => do
    each (Expr.writeDecorators ds)
    m.write modifiers

def Member.writeAll : List Member → List (Member × Print)
  | [] => []
  | m :: rest => (m, m.write { }) :: Member.writeAll rest

/-- A function where an expression stands.  `bracketed` functions are about to be called. -/
def Function.write : Function → Level → Surroundings → (bracketed : Bool) → Print
  | .mk span .arrow _ isAsync _ params bodySpan directives body concise, level, around, bracketed =>
    wrap (Level.assign ≤ level || bracketed) do
      quietBlank span.start
      if isAsync then
        word "async"
        softSpace
      let bare := (← get).tight && isSingleName params
      wrap (!bare) (separated (Pattern.writeAll params true .free))
      softSpace
      text "=>"
      softSpace
      if concise then
        modify fun s => { s with arrowStart := s.size }
        Stmt.writeConcise body around
      else
        functionBraces bodySpan (directives.isEmpty && body.isEmpty)
          (statements directives (body.zip (Stmt.writeAll body)))
  | .mk span form name isAsync generator params bodySpan directives body _, _, _, bracketed => do
    let bracketed := form != .declaration &&
      ((← atStatement) || (← atExport) || bracketed)
    wrap bracketed do
      if form != .declaration then quietBlank span.start
      wordGap
      if isAsync then text "async "
      text "function"
      if generator then
        text "*"
        softSpace
      match name with
      | some n => word n.text
      | none => nothing
      wrap true (separated (Pattern.writeAll params true .free))
      softSpace
      functionBraces bodySpan (directives.isEmpty && body.isEmpty)
        (statements directives (body.zip (Stmt.writeAll body)))

/-- The parameters and the body of a method. -/
def Function.writeParts : Function → Print
  | .mk _ _ _ _ _ params bodySpan directives body _ => do
    wrap true (separated (Pattern.writeAll params true .free))
    softSpace
    functionBraces bodySpan (directives.isEmpty && body.isEmpty)
      (statements directives (body.zip (Stmt.writeAll body)))

/-- The expression of an arrow function without braces. -/
def Stmt.writeConcise : List Stmt → Surroundings → Print
  | .expression _ e :: _, around => e.write Level.comma around
  | _, _ => nothing

def Case.write : Case → Print
  | .mk _ test body => do
    paySemicolon
    indent
    match test with
    | some _ => text "case"
    | none => text "default"
    Expr.writeBehind test softSpace Level.lowest .free
    text ":"
    caseBody (Stmt.branches body)

def Case.writeAll : List Case → List Print
  | [] => []
  | c :: rest => c.write :: Case.writeAll rest

/-- Statements with the ways to write them. -/
def Stmt.branches : List Stmt → List Branch
  | [] => []
  | s :: rest => ⟨s, s.write, s.writeBare⟩ :: Stmt.branches rest

def Stmt.writeAll : List Stmt → List Print
  | [] => []
  | s :: rest => s.write :: Stmt.writeAll rest

def Stmt.branch? : Option Stmt → Option Branch
  | none => none
  | some s => some ⟨s, s.write, s.writeBare⟩

/-- The initial part of a loop head. -/
def Stmt.writeInitial : Option Stmt → Print
  | some (.variable _ kind declarators) => do
    word kind.text
    softSpace
    separated (Pattern.writeAll declarators true .loopHead)
  | some (.expression _ e) => e.write Level.lowest .loopHead
  | _ => nothing

/-- A block or an `if` without indentation in front and line break behind. -/
def Stmt.writeBare : Stmt → Print
  | .block _ body =>
    blockBraces body.isEmpty (each ((Stmt.writeAll body).map fun p => do
      paySemicolon
      p))
  | .cond _ test yes no =>
    ifElse (test.write Level.lowest .free) ⟨yes, yes.write, yes.writeBare⟩ (Stmt.branch? no)
  | _ => nothing

/-- The handler and the finalizer of a `try` are blocks. -/
def Stmt.writeFinally : Option Stmt → (head : Print) → Print
  | some (.block _ body), head => do
    softSpace
    head
    softSpace
    blockBraces body.isEmpty (each ((Stmt.writeAll body).map fun p => do
      paySemicolon
      p))
  | _, _ => nothing

def Pattern.writeCaught : Option Pattern → Print
  | none => nothing
  | some p => do
    softSpace
    text "("
    p.write true .free
    text ")"

def Stmt.write : Stmt → Print
  | .empty span => do
    compound span do
      text ";"
      softLine
  | .expression span e => do
    commentsAt span.start
    let s ← get
    if 0 < s.depth || s.indentIsBlank then indent
    modify fun s => { s with statementStart := s.size }
    e.write Level.lowest .free
    endStatement
  | .variable span kind declarators => simple span do
    passQuiet span.start kind declarators
    word kind.text
    if !declarators.isEmpty then softSpace
    separated (Pattern.writeAll declarators true .free)
  | .function f => do
    compound f.span do
      quietLine f.span.start
      f.write Level.lowest .free false
      softLine
  | .classLike span name parent members => compound span do
    classText nothing { } name (Expr.writeParent parent) (Member.writeAll members)
    softLine
  | .decorated span ds notes inner => compound span do
    inner.writeDecorated (each (Expr.writeDecorators ds)) notes
    softLine
  | .interface span n => compound span do
    text ("interface " ++ n.text)
    softSpace
    text "\x7b\x7d"
    softLine
  | .block span body => compound span do
    blockBraces body.isEmpty (each ((Stmt.writeAll body).map fun p => do
      paySemicolon
      p))
    softLine
  | .cond span test yes no => compound span do
    ifElse (test.write Level.lowest .free) ⟨yes, yes.write, yes.writeBare⟩ (Stmt.branch? no)
  | .forLoop span init test update body => compound span do
    headed "for"
      (do
        Stmt.writeInitial init
        text ";"
        Expr.writeBehind test softSpace Level.lowest .free
        text ";"
        Expr.writeBehind update softSpace Level.lowest .free)
      ⟨body, body.write, body.writeBare⟩
  | .forOf span isAwait declared targets source body => compound span do
    headed (if isAwait then "for await" else "for")
      (do
        declaredKind declared
        wrap (declared.isNone && isAsyncName targets)
          (separated (Pattern.writeAll targets declared.isSome .loopHead))
        softSpace
        word "of"
        softSpace
        source.write Level.comma .free)
      ⟨body, body.write, body.writeBare⟩
  | .forIn span declared targets source body => compound span do
    headed "for"
      (do
        declaredKind declared
        separated (Pattern.writeAll targets declared.isSome .loopHead)
        softSpace
        word "in"
        softSpace
        source.write Level.lowest .free)
      ⟨body, body.write, body.writeBare⟩
  | .whileLoop span test body => compound span do
    headed "while" (test.write Level.lowest .free) ⟨body, body.write, body.writeBare⟩
  | .doWhile span body test => compound span do
    doWhile ⟨body, body.write, body.writeBare⟩ (test.write Level.lowest .free)
  | .breakTo span label => simple span (jump "break" label)
  | .continueTo span label => simple span (jump "continue" label)
  | .ret span value => simple span do
    word "return"
    Expr.writeBehind value softSpace Level.lowest .free
  | .switch span subject cases => compound span do
    word "switch"
    softSpace
    text "("
    subject.write Level.lowest .free
    text ")"
    softSpace
    braces cases.isEmpty (each (Case.writeAll cases))
    softLine
    forgetSemicolon
  | .tryCatch span tried param handler finalizer => compound span do
    word "try"
    softSpace
    tried.writeBare
    Stmt.writeFinally handler do
      text "catch"
      Pattern.writeCaught param
    Stmt.writeFinally finalizer (text "finally")
    softLine
  | .throwing span value => simple span do
    word "throw"
    softSpace
    value.write Level.lowest .free
  | .debugger span => simple span (word "debugger")
  | .labeled span label body => do
    commentsAt span.start
    let s ← get
    if 0 < s.depth || s.indentIsBlank then indent
    word label.text
    text ":"
    Print.body ⟨body, body.write, body.writeBare⟩ false
  | .withObject span object body => compound span do
    headed "with" (object.write Level.lowest .free) ⟨body, body.write, body.writeBare⟩
  | .importFrom span bindings phase source => compound span (importFrom bindings phase source)
  | .exportNamed span specifiers source => compound span (exportNames specifiers source)
  | .exportAll span exported source => compound span (exportAll exported source)
  | .exportDeclaration span declared => compound span do
    match declared with
    | .variable _ kind ds => passQuiet span.start kind ds
    | .function f =>
      quietLine span.start
      quietLine f.span.start
    | _ => nothing
    text "export "
    declared.writeExported
  | .exportDefault span value => compound span do
    match value with
    | .function f =>
      quietLine span.start
      quietLine f.span.start
    | .expression _ e => do
      if ← isQuiet span.start then
        modify fun s => { s with quiet := e.bare.span.start :: s.quiet }
    | _ => nothing
    text "export default "
    value.writeExported

/-- A class declaration behind decorators. -/
def Stmt.writeDecorated : Stmt → (front : Print) → ClassNotes → Print
  | .classLike _ name parent members, front, notes =>
    classText front notes name (Expr.writeParent parent) (Member.writeAll members)
  | _, _, _ => nothing

/-- An exported declaration or value. -/
def Stmt.writeExported : Stmt → Print
  | .variable _ kind declarators => do
    word kind.text
    softSpace
    separated (Pattern.writeAll declarators true .free)
    endStatement
  | .function f => do
    f.write Level.lowest .free false
    softLine
    forgetSemicolon
  | .classLike _ name parent members => do
    classText nothing { } name (Expr.writeParent parent) (Member.writeAll members)
    softLine
    forgetSemicolon
  | .decorated _ ds notes inner => do
    inner.writeDecorated (each (Expr.writeDecorators ds)) notes
    softLine
    forgetSemicolon
  | .interface _ n => do
    text ("interface " ++ n.text)
    softSpace
    text "\x7b\x7d"
    softLine
    forgetSemicolon
  | .expression _ e => do
    modify fun s => { s with exportStart := s.size }
    e.write Level.comma .free
    endStatement
  | _ => nothing

end

/-- The text of a module and of its comments. -/
def Program.print (p : Program) (comments : List Comment) (tight : Bool) : String :=
  let write : Print := do
    match p.hashbang with
    | some line => text ("#!" ++ line ++ "\n")
    | none => nothing
    statements p.directives (p.body.zip (Stmt.writeAll p.body))
    paySemicolon
    commentsAt p.span.stop
  let kept := if tight then [] else comments.filter fun c => c.leads.isSome && c.note.isNone
  let quiet := if tight then [] else
    (comments.filter fun c => c.note == some .pureFunction).filterMap (·.leads)
  (write.run { tight, comments := kept, quiet }).2.out

end ScopedViews.Script
