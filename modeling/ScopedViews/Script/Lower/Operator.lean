import ScopedViews.Script.Lower.Draft
import ScopedViews.Script.Print.Level
import ScopedViews.Text.Find
/-!
# Operators and literals

Operators that older editions lack are written out by older ones, and regular expressions that they
cannot read become calls.
-/

namespace ScopedViews.Script

namespace Lower

/-- A target that is read and then assigned to: how it is read and how it is assigned to. -/
def targetTwice (st : Setting) : Pattern → Lower (Expr × Pattern)
  | .name s n => return (.name s n, .name s n)
  | .target (.member s o n optional) => do
    let (first, again) ← twice st false o
    return (.member s first n optional, .target (.member s again n optional))
  | .target (.privateMember s o n optional) => do
    let (first, again) ← twice st false o
    return (.privateMember s first n optional, .target (.privateMember s again n optional))
  | .target (.index s o k optional) => do
    let (first, again) ← twice st false o
    let (firstKey, againKey) ← twice st false k
    return (.index s first firstKey optional, .target (.index s again againKey optional))
  | .target e => return (e, .target e)
  | p => return (Build.voidZero, p)

/-- `target op= value` for a logical operation. -/
def lowerLogicalAssignment (st : Setting) (e : Expr) : Lower Expr := do
  match e with
  | .assign s (.logical op) t value =>
    if !st.lacks .logicalAssignment then return e
    let (read, target) ← targetTwice st t
    return .logical s op read (Build.assign target value)
  | e => return e

/-- `a ?? b`.  The variable of a parameter's default value is a parameter of a function around
it. -/
def lowerCoalescing (st : Setting) (e : Expr) : Lower Expr := do
  match e with
  | .logical _ .coalesce a b =>
    if !st.lacks .coalescing then return e
    let chosen (first again : Expr) : Expr :=
      Build.conditional (Build.isPresent first again) again b
    if st.place matches .parameterDefault then
      let known ← match a with
        | .thisRef _ | .superRef _ => pure true
        | .name _ n => do pure ((← isBound st n) && !isWritten st n)
        | _ => pure false
      if known then return chosen a a
      let n ← fresh a.variableName
      return Build.call
        (Build.arrow [Build.target n] (chosen (Build.assignName n a) (Build.name n))) []
    let (first, again) ← twice st true a
    return chosen first again
  | e => return e

/-- Whether an expression gives a variable its value. -/
def isTaken : Expr → Bool
  | .assign _ _ _ _ => true
  | _ => false

/-- `target **= value`, with the parts of the target read before. -/
def lowerPowerAssignment (st : Setting) (t : Pattern) (value : Expr) : Lower Expr := do
  match t with
  | .name s n =>
    if ← isBound st n then return Build.assignName n (Build.power (.name s n) value)
    let held ← temporary n
    return .sequence nowhere [Build.assignName held (.name s n),
      Build.assignName n (Build.power (Build.name held) value)]
  | .target (.member s o n optional) =>
    let (first, again) ← twice st false o
    let place : Expr := .index s again (.string n.span n.text) optional
    let assigned := Build.assign (.target place) (Build.power place value)
    return Build.sequence ([first].filter isTaken ++ [assigned])
  | .target (.index s o k optional) =>
    let (first, again) ← twice st false o
    let (firstKey, againKey) ← twice st false k
    let place : Expr := .index s again againKey optional
    let assigned := Build.assign (.target place) (Build.power place value)
    return Build.sequence ([first, firstKey].filter isTaken ++ [assigned])
  | .target e => return Build.assign (.target e) (Build.power e value)
  | p => return Build.assign p value

def lowerPower (st : Setting) (e : Expr) : Lower Expr := do
  if !st.lacks .power then return e
  match e with
  | .binary _ .power a b => return Build.power a b
  | .assign _ (.combined .power) t value => lowerPowerAssignment st t value
  | e => return e

/-- Whether a pattern has a group with a name. -/
def namesGroup : List Char → Bool
  | '(' :: '?' :: '<' :: c :: rest => (c != '=' && c != '!') || namesGroup (c :: rest)
  | _ :: rest => namesGroup rest
  | [] => false

/-- Whether the platform reads a regular expression. -/
def hasRegex (st : Setting) (pattern flags : String) : Bool :=
  let lacksFlag (c : Char) (f : Feature) : Bool := flags.toList.contains c && st.lacks f
  let escapesClass := (flags.toList.contains 'u' || flags.toList.contains 'v') &&
    (Text.contains pattern "\\p\x7b" || Text.contains pattern "\\P\x7b")
  let looksBehind := Text.contains pattern "(?<=" || Text.contains pattern "(?<!"
  let namesGroup := namesGroup pattern.toList
  !(lacksFlag 's' .dotAll || lacksFlag 'd' .matchIndices || lacksFlag 'v' .characterSets ||
    (st.lacks .namedGroups && namesGroup) || (st.lacks .lookbehind && looksBehind) ||
    (st.lacks .characterClasses && escapesClass))

def lowerRegex (st : Setting) (e : Expr) : Lower Expr := do
  match e with
  | .regex s pattern flags =>
    if hasRegex st pattern flags then return e
    return .construct s (Build.name "RegExp")
      [Build.text pattern, Build.text (String.ofList (sortedFlags flags))]
  | e => return e

/-- What has no older form. -/
def rejectLiterals (st : Setting) (e : Expr) : Lower Unit := do
  match e with
  | .bigint _ _ => if st.lacks .bigints then fail
  | .await _ _ => if st.role == .none && st.lacks .topLevelWaiting then fail
  | _ => return

end Lower

end ScopedViews.Script
