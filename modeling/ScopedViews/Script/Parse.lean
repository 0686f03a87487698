import ScopedViews.Script.Grammar.Statement
/-!
# Parsing script modules

The productions are tied together level by level: a production of one level refers to those of the
level below, and there are more levels than the text can nest.
-/

namespace ScopedViews.Script

open Reader

/-- The productions that may nest `depth` deep. -/
def Grammar.ofDepth (source : String) (width : Nat) : Nat → Grammar
  | 0 =>
    { source := source
      width := width
      assignment := fun _ => refuse
      binary := fun _ _ => refuse
      unary := fun _ => refuse
      member := fun _ => refuse
      decorator := fun _ => refuse
      pattern := fun _ => refuse
      statement := fun _ _ => refuse }
  | depth + 1 =>
    { source := source
      width := width
      assignment := fun ctx s => assignmentExpression (Grammar.ofDepth source width depth) ctx s
      binary := fun ctx level s => binaryExpression (Grammar.ofDepth source width depth) ctx level s
      unary := fun ctx s => unaryExpression (Grammar.ofDepth source width depth) ctx s
      member := fun ctx s => memberExpression (Grammar.ofDepth source width depth) ctx s
      decorator := fun ctx s => decoratorExpression (Grammar.ofDepth source width depth) ctx s
      pattern := fun ctx s => bindingPattern (Grammar.ofDepth source width depth) ctx s
      statement := fun ctx single s =>
        Reader.statement (Grammar.ofDepth source width depth) ctx single s }

/-- A module with the comments of its text. -/
structure Parsed where
  program : Program
  comments : Array Comment

/-- The first line of a text that begins with `#!`, without the line break. -/
def hashbang? (c : Cursor) : Option (String × Cursor) :=
  match c.rest with
  | '#' :: '!' :: _ =>
    let (line, after) := Cursor.span (fun ch => !isLineBreak ch) c
    some (String.ofList (line.drop 2), after)
  | _ => none

/-- Reads a text as a module. -/
def readModule (source : String) : Except Refusal Parsed :=
  let origin : Cursor := ⟨source.toList, 0⟩
  let width := source.utf8ByteSize + 2
  let (hashbang, origin) :=
    match hashbang? origin with
    | some (line, after) => (some line, after)
    | none => (none, origin)
  let g := Grammar.ofDepth source width (8 * width)
  let state : ReaderState := ⟨origin, origin, .eof, false, 0, #[], [], [], [], [], false⟩
  let read : Reader (List Stmt) := do
    advance width
    let body ← untilStop atEof (g.statement Context.module false) width []
    guard (← get).initials.isEmpty
    guard (decide (← get).exported.Nodup)
    return body
  match read state with
  | .error r _ => .error r
  | .ok body s =>
    let (directives, body) := splitDirectives source body
    .ok ⟨⟨⟨0, source.utf8ByteSize⟩, hashbang, directives, body⟩, s.comments⟩

/-- The module that a text stands for, if the grammar admits it. -/
def Program.parse? (source : String) : Option Program :=
  match readModule source with
  | .ok parsed => some parsed.program
  | .error _ => none

end ScopedViews.Script
