import ScopedViews.Script.Token
/-!
# Reading a script token by token

The state of a reader is the token at hand and the cursor behind it.  A reader refuses by failing,
and keeps its state when it does, so that what has been learned about a position outlives an
attempt that is taken back.
-/

namespace ScopedViews.Script

structure ReaderState where
  /-- After the token at hand. -/
  cursor : Cursor
  /-- Before the token at hand. -/
  tokenCursor : Cursor
  token : Token
  /-- Whether a line break stands before the token at hand. -/
  lineBefore : Bool
  /-- Where the previous token ended. -/
  prevStop : Nat
  comments : Array Comment
  /-- Initial values of shorthand members that must still turn out to be patterns, by position. -/
  initials : List (Nat × Expr)
  /-- Array literals and objects in which a comma follows a spread, by position. -/
  spreadCommas : List Nat
  /-- Positions of parentheses that do not open the parameters of an arrow. -/
  notArrow : List Nat
  /-- Names under which the module exports something. -/
  exported : List String
  /-- Whether a comment in front of the token at hand says that a call has no effect. -/
  pureBefore : Bool
deriving Inhabited

/-- A text that the grammar does not admit, and where it was refused. -/
structure Refusal where
  offset : Nat
deriving Repr, DecidableEq, Inhabited

abbrev Reader := EStateM Refusal ReaderState

/-- Which of the context-dependent forms the grammar admits. -/
structure Context where
  isIn : Bool
  isAwait : Bool
  isYield : Bool
  returns : Bool
deriving Inhabited

def Context.module : Context := ⟨true, true, false, false⟩

def Context.allowIn (ctx : Context) (b : Bool) : Context := { ctx with isIn := b }

/-- The context inside a function. -/
def Context.ofFunction (isAsync generator : Bool) : Context := ⟨true, isAsync, generator, true⟩

/-- The productions that refer to one another, and a bound for repetitions. -/
structure Grammar where
  source : String
  width : Nat
  assignment : Context → Reader Expr
  binary : Context → Nat → Reader Expr
  unary : Context → Reader Expr
  member : Context → Reader (Expr × Bool)
  decorator : Context → Reader Expr
  pattern : Context → Reader Pattern
  statement : Context → (single : Bool) → Reader Stmt

/-- The text of a range of bytes. -/
def slice (source : String) (s : Span) : String :=
  String.Pos.Raw.extract source ⟨s.start⟩ ⟨s.stop⟩

namespace Reader

def refuse {α : Type} : Reader α := fun s => .error ⟨s.tokenCursor.offset⟩ s

def ofOption {α : Type} : Option α → Reader α
  | some a => pure a
  | none => refuse

def guard (b : Bool) : Reader Unit := if b then pure () else refuse

/-- Runs `m` and takes its effects back. -/
def ahead (m : Reader Bool) : Reader Bool := fun s =>
  match m s with
  | .ok b _ => .ok b s
  | .error _ _ => .ok false s

def token : Reader Token := do return (← get).token

/-- Start of the token at hand. -/
def start : Reader Nat := do return (← get).tokenCursor.offset

/-- From `first` to the end of the previous token. -/
def spanFrom (first : Nat) : Reader Span := do return ⟨first, (← get).prevStop⟩

def lineBefore : Reader Bool := do return (← get).lineBefore

/-- Whether a comment in front of which no line has ended belongs to the token before it: a line
ends after it, or after a comment behind it, and no line comment opens a bracket or a value. -/
def trailing (before : Token) : List Comment → Bool
  | [] => false
  | c :: rest =>
    if c.block then c.lineAfter || trailing before rest
    else
      match before with
      | .punct "(" | .punct "=" => false
      | _ => true

/-- The comments in front of a token at `offset`, told what they stand in front of. -/
def attach (before : Token) (offset : Nat) : List Comment → List Comment
  | [] => []
  | c :: rest =>
    let trails := !c.lineBefore && c.note.isNone && trailing before (c :: rest)
    { c with leads := if trails then none else some offset } :: attach before offset rest

/-- Puts the token that starts at the next non-blank position at hand. -/
def advance (fuel : Nat) : Reader Unit := fun s =>
  let atOrigin :=
    match s.token with
    | .eof => true
    | _ => false
  match scanTrivia fuel s.cursor atOrigin [] with
  | none => .error ⟨s.cursor.offset⟩ s
  | some t =>
    match lexToken fuel t.cursor with
    | none => .error ⟨t.cursor.offset⟩ s
    | some (tok, after) =>
      .ok () { s with
        cursor := after
        tokenCursor := t.cursor
        token := tok
        lineBefore := t.lines
        prevStop := s.cursor.offset
        pureBefore := t.comments.any fun c => c.note == some .pureCall
        comments := s.comments.appendList (attach s.token t.cursor.offset t.comments) }

/-- Reads the token at hand as a regular expression. -/
def asRegex : Reader Token := do
  let s ← get
  match s.tokenCursor.rest with
  | _ :: rest =>
    let (tok, after) ← ofOption (lexRegex ⟨rest, s.tokenCursor.offset + 1⟩)
    set { s with cursor := after, token := tok }
    return tok
  | [] => refuse

/-- Reads the closing brace at hand and what follows it as text of a template. -/
def asTemplate (fuel : Nat) : Reader Token := do
  let s ← get
  match s.tokenCursor.rest with
  | _ :: rest =>
    let (tok, after) ← ofOption (lexTemplate fuel ⟨rest, s.tokenCursor.offset + 1⟩)
    set { s with cursor := after, token := tok }
    return tok
  | [] => refuse

def atPunct (p : String) : Reader Bool := do
  match (← get).token with
  | .punct q => return p == q
  | _ => return false

def atWord (w : String) : Reader Bool := do
  match (← get).token with
  | .word v false => return w == v
  | _ => return false

def atEof : Reader Bool := do
  match (← get).token with
  | .eof => return true
  | _ => return false

/-- Whether the token after the one at hand satisfies `m`. -/
def next (fuel : Nat) (m : Reader Bool) : Reader Bool :=
  ahead do advance fuel; m

def expectPunct (fuel : Nat) (p : String) : Reader Unit := do
  guard (← atPunct p)
  advance fuel

def expectWord (fuel : Nat) (w : String) : Reader Unit := do
  guard (← atWord w)
  advance fuel

def eatPunct (fuel : Nat) (p : String) : Reader Bool := do
  if ← atPunct p then
    advance fuel
    return true
  else return false

def eatWord (fuel : Nat) (w : String) : Reader Bool := do
  if ← atWord w then
    advance fuel
    return true
  else return false

/-- Whether a statement may end here without a semicolon. -/
def mayEnd : Reader Bool := do
  let s ← get
  match s.token with
  | .eof => return true
  | .punct "\x7d" => return true
  | .punct ";" => return true
  | _ => return s.lineBefore

/-- The end of a statement: a semicolon, or a place where one is understood. -/
def semicolon (fuel : Nat) : Reader Unit := do
  if ← eatPunct fuel ";" then return ()
  guard (← mayEnd)

/-- Items read by `item` up to, but without, the token that `stop` recognises. -/
def untilStop {α : Type} (stop : Reader Bool) (item : Reader α) : Nat → List α → Reader (List α)
  | 0, _ => refuse
  | fuel + 1, acc => do
    if ← stop then return acc.reverse
    else
      let a ← item
      untilStop stop item fuel (a :: acc)

/-- Items separated by commas, a trailing comma allowed, with the token that ends them. -/
def commaList {α : Type} (width : Nat) (close : String) (item : Reader α) : Reader (List α) :=
  go width []
where
  go : Nat → List α → Reader (List α)
    | 0, _ => refuse
    | fuel + 1, acc => do
      if ← eatPunct width close then return acc.reverse
      else
        let a ← item
        if ← eatPunct width close then return (a :: acc).reverse
        else
          expectPunct width ","
          go fuel (a :: acc)

/-- One or more items separated by commas. -/
def separated {α : Type} (width : Nat) (item : Reader α) : Nat → List α → Reader (List α)
  | 0, _ => refuse
  | fuel + 1, acc => do
    let a ← item
    if ← eatPunct width "," then separated width item fuel (a :: acc)
    else return (a :: acc).reverse

end Reader

/-- Words that are never identifiers. -/
def reservedWords : List String :=
  ["break", "case", "catch", "class", "const", "continue", "debugger", "default", "delete", "do",
   "else", "enum", "export", "extends", "false", "finally", "for", "function", "if", "import", "in",
   "instanceof", "new", "null", "return", "super", "switch", "this", "throw", "true", "try",
   "typeof", "var", "void", "while", "with"]

def isReserved (w : String) : Bool := reservedWords.contains w

/-- Whether a word may be used as an identifier. -/
def isIdentifier (ctx : Context) (w : String) : Bool :=
  !isReserved w && !(ctx.isAwait && w == "await") && !(ctx.isYield && w == "yield")

namespace Reader

/-- An identifier that binds or refers. -/
def identifier (g : Grammar) (ctx : Context) : Reader Name := do
  let first ← start
  match ← token with
  | .word w _ =>
    guard (isIdentifier ctx w)
    advance g.width
    return ⟨← spanFrom first, w⟩
  | _ => refuse

/-- Whether an identifier is at hand. -/
def atIdentifier (ctx : Context) : Reader Bool := do
  match ← token with
  | .word w _ => return isIdentifier ctx w
  | _ => return false

/-- Any word, as a name of a member. -/
def memberName (g : Grammar) : Reader Name := do
  let first ← start
  match ← token with
  | .word w _ =>
    advance g.width
    return ⟨← spanFrom first, w⟩
  | _ => refuse

end Reader

namespace Expr

def span : Expr → Span
  | .null s | .boolean s _ | .number s _ _ | .string s _ | .bigint s _ | .regex s _ _
  | .template s _ _ | .tagged s _ _ _ | .name s _ | .privateName s _ | .thisRef s | .superRef s
  | .paren s _ | .sequence s _ | .classLike s _ _ _ | .array s _ | .object s _ | .spread s _
  | .decorated s _ _ _ | .hole s | .member s _ _ _ | .index s _ _ _ | .privateMember s _ _ _
  | .call s _ _ _ | .construct s _ _ | .pure s _ | .chain s _ | .unary s _ _ | .update s _ _ _
  | .binary s _ _ _ | .logical s _ _ _ | .assign s _ _ _ | .conditional s _ _ _ | .await s _
  | .yield s _ _ | .metaProperty s _ _ | .importCall s _ _ _ => s
  | .function (.mk s _ _ _ _ _ _ _ _ _) => s

end Expr

def Pattern.span : Pattern → Span
  | .name s _ | .object s _ | .array s _ | .default s _ _ | .rest s _ | .hole s
  | .keyed s _ _ _ _ | .decorated s _ _ => s
  | .target e => e.span

end ScopedViews.Script
