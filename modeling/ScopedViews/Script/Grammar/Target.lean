import ScopedViews.Script.Reader
/-!
# Assignment targets

An assignment is recognised only when its sign is reached, so its left side is first read as an
expression and then turned into a pattern.  Shorthand members with an initial value, which are no
expressions, wait in the reader's state until this happens.
-/

namespace ScopedViews.Script.Reader

/-- A target that is not a pattern: a name or a member, in any number of parentheses. -/
def simpleTarget? : Expr → Option Pattern
  | .name s text => some (.name s text)
  | .paren _ inner => simpleTarget? inner
  | .member s object name false => some (.target (.member s object name false))
  | .index s object key false => some (.target (.index s object key false))
  | .privateMember s object name false => some (.target (.privateMember s object name false))
  | _ => none

/-- Takes the initial value that waits at a position. -/
def takeInitial (position : Nat) : Reader (Option Expr) := do
  let s ← get
  match s.initials.find? (·.1 == position) with
  | none => return none
  | some (_, e) =>
    set { s with initials := s.initials.filter (·.1 != position) }
    return some e

mutual

/-- The pattern that an expression stands for in target position, where it may be a target with a
default value if `mayDefault`. -/
def toPattern : Bool → Expr → Reader Pattern
  | _, .array s elements => do
    guard !((← get).spreadCommas.contains s.start)
    return .array s (← toElements elements)
  | _, .object s members => do
    guard !((← get).spreadCommas.contains s.start)
    return .object s (← toMembers members)
  | true, .assign s .plain target value => return .default s target value
  | _, e => ofOption (simpleTarget? e)

def toElements : List Expr → Reader (List Pattern)
  | [] => return []
  | .hole s :: rest => return .hole s :: (← toElements rest)
  | .spread s value :: rest => do
    guard rest.isEmpty
    return [.rest s (← toPattern false value)]
  | e :: rest => do
    let p ← toPattern true e
    return p :: (← toElements rest)

def toMembers : List Member → Reader (List Pattern)
  | [] => return []
  | .spread s value :: rest => do
    guard rest.isEmpty
    return [.rest s (← ofOption (simpleTarget? value))]
  | .keyed s computed key value shorthand :: rest => do
    let p ← toPattern true value
    let p ←
      if shorthand then
        match ← takeInitial s.start with
        | some e => pure (.default ⟨s.start, e.span.stop⟩ p e)
        | none => pure p
      else pure p
    return .keyed s computed key p shorthand :: (← toMembers rest)
  | _ :: _ => refuse

end

/-- The pattern that the left side of an assignment stands for. -/
def toTarget (e : Expr) : Reader Pattern := toPattern false e

end ScopedViews.Script.Reader
