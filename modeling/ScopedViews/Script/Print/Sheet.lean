import ScopedViews.Script.Print.Literal
import ScopedViews.Script.Token
/-!
# The sheet that scripts are written on

The text written so far with what decides how it goes on: the indentation, a semicolon that is
still owed, and the places at which a blank or a pair of brackets is needed.
-/

namespace ScopedViews.Script

/-- Signs that must not run into one another. -/
inductive Sign where
  | plus | minus | add | subtract | increment | decrement | not | greater | other
deriving Repr, DecidableEq

namespace Sign

/-- Whether two signs written without a blank would be read as another one. -/
def runsInto : Sign → Sign → Bool
  | .add, s | .plus, s => s == .add || s == .plus || s == .increment
  | .subtract, s | .minus, s => s == .subtract || s == .minus || s == .decrement
  | .decrement, s => s == .greater
  | _, _ => false

end Sign

structure Sheet where
  /-- Whether blanks and line breaks without meaning are left out. -/
  tight : Bool
  /-- Comments that have not been written yet. -/
  comments : List Comment
  /-- Where functions start whose calls have no effect. -/
  quiet : List Nat := []
  out : String := ""
  size : Nat := 0
  last : Option Char := none
  beforeLast : Option Char := none
  depth : Nat := 0
  /-- The next indentation is one blank. -/
  indentIsBlank : Bool := false
  owesSemicolon : Bool := false
  sign : Sign := .other
  signEnd : Nat := 0
  regexEnd : Nat := 0
  numberEnd : Nat := 0
  statementStart : Nat := 0
  arrowStart : Nat := 0
  exportStart : Nat := 0

abbrev Print := StateM Sheet Unit

namespace Print

/-- Writes characters. -/
def chars (cs : List Char) : Print := modify fun s =>
  let ends : Option Char × Option Char :=
    match cs.reverse with
    | [] => (s.last, s.beforeLast)
    | [c] => (some c, s.last)
    | c :: d :: _ => (some c, some d)
  { s with
    out := s.out ++ String.ofList cs
    size := s.size + cs.length
    last := ends.1
    beforeLast := ends.2 }

def text (t : String) : Print := chars t.toList

def nothing : Print := pure ()

def space : Print := text " "

/-- A blank for the reader only. -/
def softSpace : Print := do
  if (← get).tight then nothing else space

def newLine : Print := text "\n"

/-- A line break for the reader only. -/
def softLine : Print := do
  if (← get).tight then nothing else newLine

def deeper (p : Print) : Print := do
  modify fun s => { s with depth := s.depth + 1 }
  p
  modify fun s => { s with depth := s.depth - 1 }

def indent : Print := do
  let s ← get
  if s.tight then nothing
  else if s.indentIsBlank then
    space
    modify fun s => { s with indentIsBlank := false }
  else chars (List.replicate s.depth '\t')

/-- Keeps a word apart from a word or a regular expression in front of it. -/
def wordGap : Print := do
  let s ← get
  match s.last with
  | none => nothing
  | some c =>
    if s.regexEnd = s.size || Text.continuesIdentifier c || c = '$' || c = '_' then space
    else nothing

def word (t : String) : Print := do
  wordGap
  text t

/-- Keeps a sign apart from a sign in front of it. -/
def signGap (next : Sign) : Print := do
  let s ← get
  if s.signEnd = s.size then
    if s.sign.runsInto next ||
      (s.sign == .not && next == .decrement && s.beforeLast == some '<') then space
    else nothing
  else nothing

/-- Writes a sign and remembers it. -/
def sign (next : Sign) (t : String) : Print := do
  signGap next
  text t
  modify fun s => { s with sign := next, signEnd := s.size }

def wrap (b : Bool) (p : Print) : Print := do
  if b then
    text "("
    p
    text ")"
  else p

/-- A semicolon where one is due, or later when the text is tight. -/
def endStatement : Print := do
  if (← get).tight then modify fun s => { s with owesSemicolon := true } else text ";\n"

def paySemicolon : Print := do
  if (← get).owesSemicolon then
    text ";"
    modify fun s => { s with owesSemicolon := false }
  else nothing

def forgetSemicolon : Print := modify fun s => { s with owesSemicolon := false }

def comma : Print := do
  text ","
  softSpace

/-- Items with commas between them. -/
def separated : List Print → Print
  | [] => nothing
  | [p] => p
  | p :: rest => do
    p
    comma
    separated rest

def each : List Print → Print
  | [] => nothing
  | p :: rest => do
    p
    each rest

/-- Braces around `inner`, on lines of its own unless there is nothing inside. -/
def braces (onOneLine : Bool) (inner : Print) : Print := do
  text "\x7b"
  if onOneLine then inner
  else
    softLine
    deeper inner
    indent
  text "\x7d"

/-- The comments in front of the token at a position, which are then no longer on hand. -/
def takeComments (position : Nat) : StateM Sheet (List Comment) := do
  let s ← get
  if s.comments.isEmpty then return []
  let (taken, left) := s.comments.partition fun c => c.leads == some position
  set { s with comments := left }
  return taken

def hasComments (position : Nat) : StateM Sheet Bool := do
  return (← get).comments.any fun c => c.leads == some position

/-- The lines of a text. -/
def linesOf : List Char → List (List Char)
  | [] => [[]]
  | c :: rest =>
    if isLineBreak c then
      match c, rest with
      | '\r', '\n' :: _ => linesOf rest
      | _, _ => [] :: linesOf rest
    else
      match linesOf rest with
      | line :: more => (c :: line) :: more
      | [] => [[c]]

/-- A comment as it was written, but with every line of a block indented. -/
def comment (c : Comment) : Print := do
  if c.block then
    match linesOf (("/*".toList ++ c.text.toList) ++ "*/".toList) with
    | [] => nothing
    | first :: rest =>
      chars (hideClosingTags first)
      each (rest.map fun line => do
        newLine
        indent
        chars (hideClosingTags (line.dropWhile Text.isBlank)))
  else
    text "//"
    chars (hideClosingTags c.text.toList)

/-- Comments in front of a statement. -/
def comments : List Comment → Print
  | [] => nothing
  | first :: rest => do
    if first.lineBefore then
      match (← get).last with
      | none | some '\t' => nothing
      | some '\n' => indent
      | some _ =>
        newLine
        indent
    else indent
    comment first
    each (rest.map fun c => do
      if c.lineBefore then
        newLine
        indent
      comment c)
    let final := (first :: rest).getLast (List.cons_ne_nil first rest)
    if !final.block || final.lineAfter then newLine
    else modify fun s => { s with indentIsBlank := true }

def commentsAt (position : Nat) : Print := do
  comments (← takeComments position)

/-- Comments in front of a name in a list, on lines of their own where they were. -/
def inlineComments (position : Nat) : Print := do
  let cs ← takeComments position
  each (cs.map fun c => do
    if c.lineBefore then
      newLine
      indent
    comment c
    if !c.block then newLine)
  if !cs.isEmpty then softSpace

/-- Comments in front of an expression, each on a line of its own. -/
def expressionComments (position : Nat) : StateM Sheet Bool := do
  let cs ← takeComments position
  each (cs.map fun c => do
    newLine
    indent
    comment c)
  if cs.isEmpty then return false
  newLine
  return true

/-- A number; one that is negative or infinite may need brackets at its level. -/
def number (x : Float) : Print := do
  let cs := numberChars x
  wordGap
  chars cs
  if takesDot cs then modify fun s => { s with numberEnd := s.size }

/-- A quoted text. -/
def quote (backquotes : Bool) (t : String) : Print := do
  let q := if (← get).tight then bestQuote backquotes t.toList else .double
  chars (quoted q t.toList)

end Print

end ScopedViews.Script
