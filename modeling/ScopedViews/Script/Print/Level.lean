import ScopedViews.Script.Print.Sheet
import ScopedViews.Script.Reader
/-!
# Levels of binding

How tightly an expression has to bind where it stands, and the words and signs of operators.
-/

namespace ScopedViews.Script

/-- An expression is put in brackets where it does not bind more tightly than its level. -/
abbrev Level := Nat

namespace Level

def lowest : Level := 0
def comma : Level := 1
def yield : Level := 3
def assign : Level := 4
def conditional : Level := 5
def coalesce : Level := 6
def or : Level := 7
def and : Level := 8
def bitOr : Level := 9
def bitXor : Level := 10
def bitAnd : Level := 11
def equals : Level := 12
def compare : Level := 13
def shift : Level := 14
def add : Level := 15
def multiply : Level := 16
def power : Level := 17
def unary : Level := 18
def update : Level := 19
def construct : Level := 20
def call : Level := 21

end Level

/-- What may not be written bare inside an expression: `in` in the head of a loop, and calls in
what `new` is applied to. -/
structure Surroundings where
  noIn : Bool := false
  noCall : Bool := false

namespace Surroundings

def free : Surroundings := { }
def loopHead : Surroundings := { noIn := true }
def constructed : Surroundings := { noCall := true }
def onlyIn (s : Surroundings) : Surroundings := { s with noCall := false }
def onlyCall (s : Surroundings) : Surroundings := { s with noIn := false }

end Surroundings

namespace UnaryOp

def text : UnaryOp → String
  | .minus => "-"
  | .plus => "+"
  | .not => "!"
  | .bitNot => "~"
  | .typeof => "typeof"
  | .void => "void"
  | .delete => "delete"

def isWord : UnaryOp → Bool
  | .typeof | .void | .delete => true
  | _ => false

def sign : UnaryOp → Sign
  | .minus => .minus
  | .plus => .plus
  | .not => .not
  | _ => .other

end UnaryOp

namespace UpdateOp

def text : UpdateOp → String
  | .increment => "++"
  | .decrement => "--"

def sign : UpdateOp → Sign
  | .increment => .increment
  | .decrement => .decrement

end UpdateOp

namespace BinaryOp

def text : BinaryOp → String
  | .equal => "=="
  | .notEqual => "!="
  | .identical => "==="
  | .notIdentical => "!=="
  | .less => "<"
  | .lessEqual => "<="
  | .greater => ">"
  | .greaterEqual => ">="
  | .shiftLeft => "<<"
  | .shiftRight => ">>"
  | .shiftRightUnsigned => ">>>"
  | .add => "+"
  | .subtract => "-"
  | .multiply => "*"
  | .divide => "/"
  | .remainder => "%"
  | .power => "**"
  | .bitAnd => "&"
  | .bitOr => "|"
  | .bitXor => "^"
  | .isIn => "in"
  | .instanceOf => "instanceof"

def isWord : BinaryOp → Bool
  | .isIn | .instanceOf => true
  | _ => false

def sign : BinaryOp → Sign
  | .add => .add
  | .subtract => .subtract
  | .greater => .greater
  | _ => .other

def level : BinaryOp → Level
  | .equal | .notEqual | .identical | .notIdentical => Level.equals
  | .less | .lessEqual | .greater | .greaterEqual | .isIn | .instanceOf => Level.compare
  | .shiftLeft | .shiftRight | .shiftRightUnsigned => Level.shift
  | .add | .subtract => Level.add
  | .multiply | .divide | .remainder => Level.multiply
  | .power => Level.power
  | .bitAnd => Level.bitAnd
  | .bitOr => Level.bitOr
  | .bitXor => Level.bitXor

end BinaryOp

namespace LogicalOp

def text : LogicalOp → String
  | .or => "||"
  | .and => "&&"
  | .coalesce => "??"

def level : LogicalOp → Level
  | .or => Level.or
  | .and => Level.and
  | .coalesce => Level.coalesce

end LogicalOp

def AssignOp.text : AssignOp → String
  | .plain => "="
  | .combined op => op.text ++ "="
  | .logical op => op.text ++ "="

def DeclKind.text : DeclKind → String
  | .varDecl => "var"
  | .letDecl => "let"
  | .constDecl => "const"
  | .usingDecl => "using"
  | .awaitUsingDecl => "await using"

namespace Expr

/-- The expression inside any brackets. -/
def bare : Expr → Expr
  | .paren _ inner => inner.bare
  | e => e

/-- The name that an expression is, inside any brackets. -/
def name? (e : Expr) : Option String :=
  match e.bare with
  | .name _ text => some text
  | _ => none

end Expr

namespace Function

def span : Function → Span
  | .mk s _ _ _ _ _ _ _ _ _ => s

def isAsync : Function → Bool
  | .mk _ _ _ b _ _ _ _ _ _ => b

def isGenerator : Function → Bool
  | .mk _ _ _ _ b _ _ _ _ _ => b

end Function

def Member.span : Member → Span
  | .keyed s _ _ _ _ | .method s _ _ _ _ _ | .spread s _ | .field s _ _ _ _ _ | .block s _
  | .marked s _ _ _ => s

/-- Whether a member ends with a semicolon. -/
def Member.isField : Member → Bool
  | .field _ _ _ _ _ _ => true
  | .marked _ _ _ m => m.isField
  | _ => false

/-- The flags of a regular expression in alphabetical order. -/
def sortedFlags (flags : String) : List Char := flags.toList.mergeSort fun a b => a ≤ b

/-- Whether an `else` behind a statement would belong to an `if` inside it. -/
def Stmt.hasOpenIf : Stmt → Bool
  | .cond _ _ _ none => true
  | .cond _ _ _ (some no) => no.hasOpenIf
  | .forLoop _ _ _ _ body | .forOf _ _ _ _ _ body | .forIn _ _ _ _ body | .whileLoop _ _ body
  | .withObject _ _ body | .labeled _ _ body => body.hasOpenIf
  | _ => false

/-- A statement with two ways to write it: as a whole, and without indentation and line break. -/
structure Branch where
  stmt : Stmt
  whole : Print
  bare : Print

namespace Print

/-- The body of a loop or a branch.  `apart` keeps it apart from a word in front of it. -/
def body (b : Branch) (apart : Bool) : Print := do
  match b.stmt with
  | .block _ _ =>
    softSpace
    b.bare
    softLine
  | .empty _ =>
    text ";"
    softLine
  | _ =>
    if apart && (← get).tight then space
    modify fun s => { s with indentIsBlank := true }
    b.whole

/-- The end of the first branch of an `if`. -/
def afterBranch (hasElse : Bool) : Print := if hasElse then softSpace else softLine

/-- A single statement stands behind the colon of a case, several on lines of their own. -/
def caseBody : List Branch → Print
  | [b] => body b false
  | bs => do
    softLine
    deeper (each (bs.map fun b => do
      paySemicolon
      b.whole))

/-- The branch of an `if`, which is put in braces where an `else` would be misread. -/
def firstBranch (yes : Branch) (hasElse : Bool) : Print := do
  match yes.stmt with
  | .block _ _ =>
    softSpace
    yes.bare
    afterBranch hasElse
  | _ =>
    if yes.stmt.hasOpenIf then
      softSpace
      braces false do
        yes.whole
        forgetSemicolon
      afterBranch hasElse
    else
      body yes false
      if hasElse then indent

/-- The other branch of an `if`. -/
def otherBranch (no : Branch) : Print := do
  paySemicolon
  word "else"
  match no.stmt with
  | .block _ _ =>
    softSpace
    no.bare
    softLine
  | .cond _ _ _ _ =>
    space
    no.bare
  | _ => body no true

def ifElse (test : Print) (yes : Branch) (no : Option Branch) : Print := do
  word "if"
  softSpace
  text "("
  test
  text ")"
  firstBranch yes no.isSome
  match no with
  | none => nothing
  | some no => otherBranch no

/-- A word with its body in front of the loop's condition. -/
def doWhile (b : Branch) (test : Print) : Print := do
  word "do"
  match b.stmt with
  | .block _ _ =>
    softSpace
    b.bare
    softSpace
  | _ =>
    softLine
    deeper do
      b.whole
      paySemicolon
    indent
  text "while"
  softSpace
  text "("
  test
  text ")"
  endStatement

/-- `head (inner)` with the body of a loop behind it. -/
def headed (head : String) (inner : Print) (b : Branch) : Print := do
  word head
  softSpace
  text "("
  inner
  text ")"
  body b false

/-- Arguments in brackets.  Each one may have comments in front of it, and the closing bracket
too. -/
def arguments (span : Span) (items : List (Expr × Print)) : Print := do
  text "("
  let atEnd ← hasComments (span.stop - 1)
  let atItems ← items.anyM fun (e, _) => hasComments e.span.start
  if atEnd || atItems then
    modify fun s => { s with depth := s.depth + 1 }
    let rec lines : List (Expr × Print) → Bool → Print
      | [], _ => nothing
      | (e, p) :: rest, first => do
        if !first then text ","
        if !(← expressionComments e.span.start) then softLine
        indent
        p
        lines rest false
    lines items true
    let commented ← if atEnd then expressionComments (span.stop - 1) else pure false
    if !commented then softLine
    modify fun s => { s with depth := s.depth - 1 }
    indent
  else separated (items.map Prod.snd)
  text ")"

/-- The elements of an array literal, on lines of their own if there are more than two. -/
def elements (items : List (Expr × Print)) : Print := do
  let long := 2 < items.length
  text "["
  let inner : Print := do
    let rec go : List (Expr × Print) → Bool → Print
      | [], _ => nothing
      | (e, p) :: rest, first => do
        if !first then text ","
        if long then
          softLine
          indent
        else if !first then softSpace
        p
        match e, rest with
        | .hole _, [] => text ","
        | _, _ => go rest false
    go items true
    if long then softLine
  if long then
    deeper inner
    indent
  else inner
  text "]"

/-- The members of an object literal, on lines of their own if there are more than one. -/
def members (items : List Print) : Print := do
  text "\x7b"
  match items with
  | [] => nothing
  | [p] =>
    softSpace
    p
    softSpace
  | p :: rest =>
    deeper do
      softLine
      indent
      p
      each (rest.map fun p => do
        text ","
        softLine
        indent
        p)
      softLine
    indent
  text "\x7d"

/-- Braces around the statements of a block. -/
def blockBraces (isEmpty : Bool) (inner : Print) : Print := do
  braces isEmpty inner
  forgetSemicolon

/-- Braces around the statements of a function, with the comments in front of the closing brace. -/
def functionBraces (span : Span) (isEmpty : Bool) (inner : Print) : Print := do
  let atEnd ← takeComments (span.stop - 1)
  let flat := isEmpty && atEnd.all fun c => c.block && !c.lineBefore && !c.lineAfter
  braces flat do
    inner
    comments atEnd
    modify fun s => { s with indentIsBlank := false }
  forgetSemicolon

/-- The members of a class, each on lines of its own. -/
def classBody (items : List (Member × Print)) : Print := do
  braces items.isEmpty (each (items.map fun (m, p) => do
    paySemicolon
    commentsAt m.span.start
    indent
    p
    if m.isField then endStatement else softLine))
  forgetSemicolon

/-- `var` and the like in the head of a loop. -/
def declaredKind : Option (Span × DeclKind) → Print
  | some (_, kind) => do
    word kind.text
    softSpace
  | none => nothing

/-- Whether a parameter list is one plain name. -/
def isSingleName : List Pattern → Bool
  | [.name _ _] => true
  | _ => false

/-- A string statement in front of a body. -/
def directive (d : Directive) : Print := do
  commentsAt d.span.start
  indent
  let q := directiveQuote d.raw.toList
  chars (q.char :: d.raw.toList ++ [q.char])
  text ";"
  softLine

/-- Statements behind directives.  A string in front is put in brackets, so that it does not become
a directive. -/
def statements (directives : List Directive) (items : List (Stmt × Print)) : Print := do
  each (directives.map directive)
  let firstIsString (e : Expr) : Bool :=
    match e.bare with
    | .string _ _ => true
    | _ => false
  match items with
  | [] => nothing
  | (s, p) :: rest =>
    match s with
    | .expression _ e =>
      match e.bare with
      | .string _ value =>
        if directives.isEmpty && !(← get).tight && firstIsString e then
          text "("
          quote true value
          text ")"
          endStatement
        else p
      | _ => p
    | _ => p
    each (rest.map fun (_, p) => do
      paySemicolon
      p)

end Print

end ScopedViews.Script
