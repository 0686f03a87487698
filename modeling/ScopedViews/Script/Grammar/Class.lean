import ScopedViews.Script.Grammar.Literal
/-!
# Classes

Members of classes with the words in front of them.  The words of typed dialects are read wherever
they may stand, in the order that those dialects ask for, and have no effect.
-/

namespace ScopedViews.Script.Reader

/-- The text of a key that is not computed. -/
def keyText? (computed : Bool) : Expr → Option String
  | .name _ text => if computed then none else some text
  | .string _ text => if computed then none else some text
  | _ => none

/-- A word in front of a member. -/
inductive ModifierWord where
  | access (word : String)
  | isStatic | declared | abstracted | overriding | readOnly | accessor | asynchronous
deriving Repr, DecidableEq

namespace ModifierWord

def all : List (String × ModifierWord) := [
  ("public", .access "public"), ("private", .access "private"),
  ("protected", .access "protected"), ("static", .isStatic), ("declare", .declared),
  ("abstract", .abstracted), ("override", .overriding), ("readonly", .readOnly),
  ("accessor", .accessor), ("async", .asynchronous)]

def isAccess : ModifierWord → Bool
  | .access _ => true
  | _ => false

/-- Whether a word may not stand somewhere behind `earlier`. -/
def refusesAfter (word earlier : ModifierWord) : Bool :=
  let refused : List ModifierWord :=
    match word with
    | .access _ => [.isStatic, .abstracted, .overriding, .readOnly, .accessor, .asynchronous]
    | .isStatic => [.isStatic, .abstracted, .overriding, .readOnly, .accessor, .asynchronous]
    | .declared => [.declared, .overriding, .accessor, .asynchronous]
    | .abstracted => [.abstracted, .access "private", .isStatic, .overriding, .accessor,
        .asynchronous]
    | .overriding => [.overriding, .declared, .readOnly, .accessor, .asynchronous]
    | .readOnly => [.readOnly, .accessor]
    | .accessor => [.accessor, .readOnly, .declared]
    | .asynchronous => [.asynchronous, .declared, .abstracted]
  refused.contains earlier || (word.isAccess && earlier.isAccess)

/-- Whether a method may have a word in front. -/
def fitsMethod : ModifierWord → Bool
  | .declared | .readOnly | .accessor => false
  | _ => true

/-- What typed dialects are told by words. -/
def notes (words : List ModifierWord) (mark : Option Char) : Modifiers where
  isDeclared := words.contains .declared
  access := words.findSome? fun | .access w => some w | _ => none
  isAbstract := words.contains .abstracted
  isOverride := words.contains .overriding
  isReadOnly := words.contains .readOnly
  mark := mark

end ModifierWord

/-- Whether the token at hand may follow a modifier. -/
def followsModifier : Reader Bool := do
  match ← token with
  | .punct p => return ["[", "\x7b", "*", "..."].contains p
  | _ => atKey

/-- The modifier at hand, unless the word is a key.  All but `static` and what follows them stand
on one line. -/
def modifierWord? (g : Grammar) (seen : List ModifierWord) : Reader (Option ModifierWord) := do
  match ← token with
  | .word w false =>
    match ModifierWord.all.lookup w with
    | none => return none
    | some m =>
      if m = .isStatic && seen.contains .isStatic then return none
      let follows ← next g.width do
        if m = .isStatic then
          if ← atPunct "\x7b" then return false
        else if ← lineBefore then return false
        followsModifier
      return if follows then some m else none
  | _ => return none

/-- The modifiers in front of a member, the last one first. -/
def modifierWords (g : Grammar) : Nat → List ModifierWord → Reader (List ModifierWord)
  | 0, _ => refuse
  | fuel + 1, seen => do
    match ← modifierWord? g seen with
    | none => return seen
    | some m =>
      guard (seen.all fun earlier => !m.refusesAfter earlier)
      advance g.width
      modifierWords g fuel (m :: seen)

/-- `get` or `set` in front of the key of a method. -/
def accessorKind (g : Grammar) : Reader MethodKind := do
  let isGetter ← atWord "get"
  if isGetter || (← atWord "set") then
    if ← next g.width atKey then
      advance g.width
      return if isGetter then .getter else .setter
  return .method

/-- A mark behind the key of a member. -/
def keyMark (g : Grammar) : Reader (Option Char) := do
  if ← eatPunct g.width "?" then
    guard !((← atPunct "!") && !(← lineBefore))
    return some '?'
  else if (← atPunct "!") && !(← lineBefore) then
    advance g.width
    guard !(← atPunct "?")
    return some '!'
  else return none

/-- A member of a class after its modifiers, and the mark behind its key. -/
def classMemberTail (g : Grammar) (ctx : Context) (first : Nat) (words : List ModifierWord) :
    Reader (Member × Option Char) := do
  let isStatic := words.contains .isStatic
  let isAsync := words.contains .asynchronous
  let kind ← accessorKind g
  let generator ← if kind = .method then eatPunct g.width "*" else pure false
  let (computed, key) ← memberKey g ctx true
  let mark ← keyMark g
  let text := keyText? computed key
  let isPrivate := match key with | .privateName _ _ => !computed | _ => false
  if (← atPunct "(") && mark != some '!' then
    guard (words.all ModifierWord.fitsMethod)
    let isConstructor := !isStatic && text == some "constructor" && !isPrivate
    guard (!(isStatic && text == some "prototype"))
    guard (!isConstructor || (kind = .method && !isAsync && !generator))
    let f ← methodFunction g isAsync generator
    guard (fitsAccessor kind f)
    let kind := if isConstructor then MethodKind.constructor else kind
    return (.method (← spanFrom first) isStatic computed key kind f, mark)
  else
    guard (kind = .method && !isAsync && !generator)
    guard (text != some "constructor" && !(isStatic && text == some "prototype"))
    let value ←
      if ← eatPunct g.width "=" then
        some <$> g.assignment { ctx with isIn := true, isAwait := false, isYield := false }
      else pure none
    let span ← spanFrom first
    semicolon g.width
    return (.field span isStatic (words.contains .accessor) computed key value, mark)

/-- A member of a class, or none for a semicolon. -/
def classMember (g : Grammar) (ctx : Context) : Reader (Option Member) := do
  let first ← start
  if ← eatPunct g.width ";" then return none
  let ds ← decorators g ctx
  let words ← modifierWords g g.width []
  if (← atWord "static") && (← next g.width (atPunct "\x7b")) then
    guard (ds.isEmpty && words.isEmpty)
    advance g.width
    expectPunct g.width "\x7b"
    let body ← statementsToBrace g ⟨true, true, false, false⟩
    return some (.block (← spanFrom first) body)
  let (m, mark) ← classMemberTail g ctx first words
  let notes := ModifierWord.notes words mark
  let span ← spanFrom first
  return some (if ds.isEmpty && notes = {} then m else .marked span ds notes m)

/-- A class from its word on. -/
structure ClassParts where
  name : Option Name
  parent : Option Expr
  members : List Member
  notes : ClassNotes

/-- The name of an interface, with points between its words. -/
def interfaceName (g : Grammar) (ctx : Context) : Reader String := do
  let n ← identifier g ctx
  let rec more : Nat → String → Reader String
    | 0, _ => refuse
    | fuel + 1, name => do
      if ← eatPunct g.width "." then
        let n ← memberName g
        more fuel (name ++ "." ++ n.text)
      else return name
  more g.width n.text

/-- A class from its word on. -/
def classTail (g : Grammar) (ctx : Context) (isAbstract : Bool) : Reader ClassParts := do
  expectWord g.width "class"
  let name ←
    if (← atIdentifier ctx) && !(← atWord "implements") then some <$> identifier g ctx
    else pure none
  let parent ←
    if ← eatWord g.width "extends" then do
      let (e, _) ← g.member ctx
      pure (some e)
    else pure none
  let interfaces ←
    if ← eatWord g.width "implements" then separated g.width (interfaceName g ctx) g.width []
    else pure []
  expectPunct g.width "\x7b"
  let members ← untilStop (atPunct "\x7d") (classMember g ctx) g.width []
  expectPunct g.width "\x7d"
  return ⟨name, parent, members.filterMap id, ⟨isAbstract, interfaces⟩⟩

/-- A class expression behind its decorators, which start at `first`. -/
def classExpression (g : Grammar) (ctx : Context) (first : Nat) (ds : List Expr) :
    Reader Expr := do
  let inner ← start
  let c ← classTail g ctx false
  let e := Expr.classLike (← spanFrom inner) c.name c.parent c.members
  let span ← spanFrom first
  return if ds.isEmpty && c.notes = {} then e else .decorated span ds c.notes e

/-- A class declaration behind its decorators, which start at `first`. -/
def classDeclaration (g : Grammar) (ctx : Context) (first : Nat) (ds : List Expr)
    (isAbstract : Bool) : Reader Stmt := do
  let inner ← start
  if isAbstract then advance g.width
  let c ← classTail g ctx isAbstract
  let s := Stmt.classLike (← spanFrom inner) c.name c.parent c.members
  let span ← spanFrom first
  return if ds.isEmpty && c.notes = {} then s else .decorated span ds c.notes s

end ScopedViews.Script.Reader
