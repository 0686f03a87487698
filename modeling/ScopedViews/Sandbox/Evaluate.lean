import ScopedViews.Sandbox.Builtins
import ScopedViews.Sandbox.Operators
import ScopedViews.Script.Reader
/-!
# Evaluation

Expressions and statements denote computations over the machine.  The denotation follows the tree;
the only step outside the tree is a call, which goes through `Invoke` and so to a smaller number of
free frames.  Loops are bounded by the steps of a whole evaluation.
-/

namespace ScopedViews.Sandbox

open Script

/-- How a statement was left. -/
inductive Flow where
  | normal
  | returned (v : Value)
  | broke
  | continued
deriving Repr

/-- What an evaluation needs besides the machine: the text that spans refer to, and calls. -/
structure Scene where
  source : String
  invoke : Invoke

/-- A value, or none when an optional link cut its chain short. -/
abbrev Link := Option Value

namespace Link

/-- The value of a chain; one that was cut short is undefined. -/
def settle (m : Run Link) : Run Value := do return (← m).getD .undefined

/-- Goes on with the object of a link, unless the chain was cut short or the link is optional and
the object undefined or null. -/
def follow (object : Run Link) (optional : Bool) (k : Value → Run Link) : Run Link := do
  match ← object with
  | none => return none
  | some v => if optional && v.isNullish then return none else k v

/-- Reads a property whose key is computed after the object. -/
def readProperty (object : Run Link) (optional : Bool) (key : Run String) : Run Link :=
  follow object optional fun v => do
    let k ← key
    some <$> Run.readProperty v k

end Link

/-- Calls what a value is, after the arguments have been evaluated. -/
def callValue (scene : Scene) (callee : Value) (args : Run (Array Value)) : Run Link := do
  let args ← args
  match callee with
  | .function f => some <$> scene.invoke f.start args
  | v => Run.raise (.type (.notFunction v.typeName))

/-- What an object holds under a name; other values hold nothing of their own. -/
def heldMember (receiver : Value) (name : String) : Run (Option Value) :=
  match receiver with
  | .object _ => Run.view fun m => some (receiver.get m.heap name)
  | _ => pure none

/-- Calls the function that a receiver holds, or else a built-in method. -/
def callHeld (scene : Scene) (receiver : Value) (method : String) (optional : Bool)
    (args : Run (Array Value)) : Option Value → Run Link
  | some (.function f) => do some <$> scene.invoke f.start (← args)
  | some v =>
    if v.isNullish && optional then pure none
    else do some <$> Builtin.callMethod scene.invoke receiver method (← args)
  | none => do some <$> Builtin.callMethod scene.invoke receiver method (← args)

/-- Calls a method of a receiver. -/
def callMember (scene : Scene) (receiver : Value) (method : String) (optional : Bool)
    (args : Run (Array Value)) : Run Link :=
  if receiver.isNullish then Run.raise (.type (.readOfNullish receiver.typeName method))
  else do
    let held ← heldMember receiver method
    callHeld scene receiver method optional args held

/-- Calls one of the functions of `Object` or `Array`. -/
def callOwned (owner method : String) (args : Run (Array Value)) : Run Link := do
  some <$> Builtin.callStatic owner method (← args)

/-- Calls a name: a conversion if it is unbound, else the value bound to it. -/
def callName (scene : Scene) (name : String) (optional : Bool) (args : Run (Array Value)) :
    Run Link := do
  if ← Run.isBound name then
    Link.follow (some <$> Run.lookup name) optional fun v => callValue scene v args
  else
    match Builtin.convert? name (← args) with
    | some m => some <$> m
    | none => Run.raise (.reference name)

/-- The name of the object of a method call, if it is one whose functions need no binding. -/
def owner? : Expr → Option String
  | .name _ name => if name = "Object" || name = "Array" then some name else none
  | _ => none

/-- Calls a function of an owner that is not bound, and otherwise does as for any receiver. -/
def callOwner (owner : Option String) (method : String) (args : Run (Array Value))
    (ordinary : Run Link) : Run Link :=
  match owner with
  | none => ordinary
  | some name => do if ← Run.isBound name then ordinary else callOwned name method args

/-- Calls and member accesses, which chains are made of. -/
def isLink : Expr → Bool
  | .pure _ (.call _ _ _ _) | .call _ _ _ _ | .member _ _ _ _ | .index _ _ _ _ => true
  | _ => false

/-- The value of a function expression or declaration. -/
def functionValue (scene : Scene) (f : Function) : Run Value :=
  match f with
  | .mk span _ _ _ _ _ _ _ _ _ => Run.makeFunction f span.start (slice scene.source span)

/-- The value of a method, whose text starts at its parameters. -/
def methodValue (scene : Scene) (f : Function) : Run Value :=
  match f with
  | .mk span _ _ _ _ _ _ _ _ _ =>
    Run.makeFunction f span.start ("function" ++ slice scene.source span)

/-- The text of a key that is not computed. -/
def staticKey? : Expr → Option String
  | .name _ text => some text
  | .string _ text => some text
  | .number _ value _ => some (Number.plain value)
  | .bigint _ raw => some (bigintText raw)
  | _ => none
where
  bigintText (raw : String) : String :=
    match raw.toList.filter (fun c => c != '_' && c != 'n') with
    | '0' :: x :: rest =>
      let radix := if x = 'x' || x = 'X' then 16 else if x = 'o' || x = 'O' then 8 else 2
      toString (rest.foldl (fun n c => radix * n + (Number.hexDigit? c).getD 0) 0)
    | digits => toString (Number.digitsValue digits)

/-- The text of a key; only one that is computed, or is no name or literal, is evaluated. -/
def keyText (computed : Bool) (key : Expr) (value : Run Value) : Run String :=
  match computed, staticKey? key with
  | false, some text => pure text
  | _, _ => do Run.text (← value)

/-- Declares a variable: without an initial value an existing binding stays. -/
def declareName (name : String) (initial : Option (Run Value)) : Run Unit := do
  match initial with
  | some m => Run.define name (← m)
  | none => if ← Run.definedHere name then pure () else Run.define name .undefined

/-- One round of a loop that has been let in: the body, then `update`, then the next round. -/
def afterBody (flow : Flow) (next : Run Flow) : Run Flow :=
  match flow with
  | .broke => pure .normal
  | .returned v => pure (.returned v)
  | .normal | .continued => next

/-- A loop that tests before each round. -/
def loopWhile (test : Run Bool) (body : Run Flow) (update : Run Unit) : Nat → Run Flow
  | 0 => Run.halt .stepLimit
  | rounds + 1 => do
    Run.tick
    if ← test then
      let flow ← body
      afterBody flow do
        update
        loopWhile test body update rounds
    else return .normal

/-- A loop that tests after each round. -/
def loopUntil (body : Run Flow) (test : Run Bool) : Nat → Run Flow
  | 0 => Run.halt .stepLimit
  | rounds + 1 => do
    Run.tick
    let flow ← body
    afterBody flow do
      if ← test then loopUntil body test rounds else return .normal

/-- A loop over given items. -/
def loopOver (bind : Value → Run Unit) (body : Run Flow) : List Value → Run Flow
  | [] => pure .normal
  | item :: rest => do
    Run.tick
    bind item
    let flow ← body
    afterBody flow (loopOver bind body rest)

/-- The rounds that a loop can start before the steps are spent. -/
def maxRounds : Nat := maxSteps + 1

/-- A handler for exceptions: how it takes the text of one, and what it does then. -/
structure Handler where
  take : String → Run Unit
  run : Run Flow

/-- A block with a handler for exceptions, and what is done at the end unless a fault is on its
way out.  A handler that cannot take an exception ends the whole statement. -/
def tryHandle (block : Run Flow) (handler : Option Handler) (finalizer : Option (Run Flow)) :
    Run Flow := fun m =>
  let finish (outcome : Run Flow) : Run Flow :=
    match finalizer with
    | none => outcome
    | some f => do
      match ← f with
      | .normal => outcome
      | flow => pure flow
  match block m, handler with
  | .ok flow m, _ => finish (pure flow) m
  | .error (.exception e) m, some h =>
    match h.take e.caught m with
    | .error fault m => .error fault m
    | .ok () m =>
      match h.run m with
      | .ok flow m => finish (pure flow) m
      | .error fault m => finish (throw fault) m
  | .error fault m, _ => .error fault m

/-- What an uncaught value is reported as. -/
def thrownText (v : Run Value) : Run String := do Run.text (← v)

/-- What an error that is constructed and thrown is reported as. -/
def errorText (name : String) (message : Run String) : Run String := do
  let message ← message
  return if message.isEmpty then name else name ++ ": " ++ message

/-- Whether a constructor's name is that of an error. -/
def isErrorName (name : String) : Bool := "Error".toList.isSuffixOf name.toList

/-- The operand of `typeof` when it is a name that is not bound. -/
def unboundType (name : String) : String :=
  if name = "NaN" || name = "Infinity" then "number" else "undefined"

/-- A unary operator applied to a value. -/
def applyUnary (op : UnaryOp) (v : Value) : Run Value :=
  match op with
  | .minus => do return .number (-(← Run.number v))
  | .plus => do return .number (← Run.number v)
  | .not => pure (.bool !v.isTruthy)
  | .bitNot => do
    let x ← Run.number v
    return .number (Float.ofInt (-(Number.toInt32 x) - 1))
  | .typeof => pure (.string v.typeOf)
  | .void => pure .undefined
  | .delete => pure .undefined

/-- Assigns with an operator: the place is read before the right side is evaluated. -/
def assignTo (op : AssignOp) (place : Run Place) (right : Run Value) (span : Span) : Run Value := do
  let place ← place
  match op with
  | .plain =>
    let v ← right
    place.write v
    return v
  | .combined op =>
    let current ← place.read
    let v ← applyBinary op current (← right) span
    place.write v
    return v
  | .logical op =>
    let current ← place.read
    if shortCircuits op current then return current
    else
      let v ← right
      place.write v
      return v

/-- Adds or subtracts one in place. -/
def updateAt (op : UpdateOp) (before : Bool) (place : Run Place) : Run Value := do
  let place ← place
  let old ← Run.number (← place.read)
  let new := match op with
    | .increment => old + 1.0
    | .decrement => old - 1.0
  place.write (.number new)
  return .number (if before then new else old)

/-- Properties of `source` copied into a literal. -/
def spreadInto (members : Properties) (source : Value) : Run Properties :=
  Run.view fun m =>
    (source.keys m.heap).foldl (fun acc key => acc.insert key (source.get m.heap key)) members

/-- Fixed pieces of a template appended to `text`, the length checked after each. -/
def appendQuasis : List Quasi → String → Run String
  | [], text => pure text
  | quasi :: quasis, text => do
    let text := text ++ quasi.cooked.getD quasi.raw
    Run.checkLength text
    appendQuasis quasis text

mutual

/-- The computation that an expression denotes. -/
def evaluate (scene : Scene) : Expr → Run Link
  | .null _ => pure (some .null)
  | .boolean _ b => pure (some (.bool b))
  | .number _ x _ => pure (some (.number x))
  | .string _ s => pure (some (.string s))
  | .template _ quasis parts => do
    let text ← evaluateTemplate scene parts quasis ""
    Run.checkString text
    return some (.string text)
  | .name _ text => some <$> Run.lookup text
  | .thisRef _ => pure (some .undefined)
  | .paren _ inner => do return some (← Link.settle (evaluate scene inner))
  | .sequence _ items => some <$> evaluateLast scene items .undefined
  | .function f => some <$> functionValue scene f
  | .array _ elements => do
    let items ← evaluateItems scene elements #[]
    some <$> Run.newArray items
  | .object _ members => do
    let props ← evaluateMembers scene members .empty
    some <$> Run.newObject props
  | .member _ object name optional =>
    Link.readProperty (evaluate scene object) optional (pure name.text)
  | .index _ object key optional =>
    Link.readProperty (evaluate scene object) optional do
      Run.text (← Link.settle (evaluate scene key))
  | .call _ (.member _ object name link) arguments optional =>
    callOwner (owner? object) name.text (evaluateItems scene arguments #[])
      (Link.follow (evaluate scene object) link fun receiver =>
        callMember scene receiver name.text optional (evaluateItems scene arguments #[]))
  | .call _ (.index _ object key link) arguments optional =>
    Link.follow (evaluate scene object) link fun receiver => do
      let method ← Run.text (← Link.settle (evaluate scene key))
      callMember scene receiver method optional (evaluateItems scene arguments #[])
  | .call _ (.name _ name) arguments optional =>
    callName scene name optional (evaluateItems scene arguments #[])
  | .call _ callee arguments optional =>
    Link.follow (evaluate scene callee) optional fun v =>
      callValue scene v (evaluateItems scene arguments #[])
  | .pure _ inner => evaluate scene inner
  | .chain _ inner =>
    if isLink inner then do return some (← Link.settle (evaluate scene inner))
    else Run.unsupported .chainElement inner.span
  | .assign span op target value =>
    some <$> assignTo op (evaluatePlace scene .assignmentTarget target)
      (Link.settle (evaluate scene value)) span
  | .update _ op before target =>
    some <$> updateAt op before (evaluatePlace scene .updateTarget target)
  | .logical _ op left right => do
    let l ← Link.settle (evaluate scene left)
    if shortCircuits op l then return some l
    else do return some (← Link.settle (evaluate scene right))
  | .conditional _ test yes no => do
    if (← Link.settle (evaluate scene test)).isTruthy then
      return some (← Link.settle (evaluate scene yes))
    else return some (← Link.settle (evaluate scene no))
  | .binary span op left right => do
    let l ← Link.settle (evaluate scene left)
    let r ← Link.settle (evaluate scene right)
    some <$> applyBinary op l r span
  | .unary _ .typeof (.name _ name) => do
    if ← Run.isBound name then return some (.string (← Run.lookup name).typeOf)
    else return some (.string (unboundType name))
  | .unary span .delete _ => Run.unsupported .delete span
  | .unary _ op operand => do
    let v ← Link.settle (evaluate scene operand)
    some <$> applyUnary op v
  | .spread s _ => Run.unsupported .expression s
  | .hole s => Run.unsupported .expression s
  | .bigint s _ => Run.unsupported .expression s
  | .regex s _ _ => Run.unsupported .expression s
  | .tagged s _ _ _ => Run.unsupported .expression s
  | .privateName s _ => Run.unsupported .expression s
  | .superRef s => Run.unsupported .expression s
  | .classLike s _ _ _ => Run.unsupported .expression s
  | .decorated s _ _ _ => Run.unsupported .expression s
  | .privateMember s _ _ _ => Run.unsupported .expression s
  | .construct s _ _ => Run.unsupported .expression s
  | .await s _ => Run.unsupported .expression s
  | .yield s _ _ => Run.unsupported .expression s
  | .metaProperty s _ _ => Run.unsupported .expression s
  | .importCall s _ _ _ => Run.unsupported .expression s

/-- Pieces of a template appended to `text`, the length checked after each. -/
def evaluateTemplate (scene : Scene) : List Expr → List Quasi → String → Run String
  | [], quasis, text => appendQuasis quasis text
  | _ :: _, [], text => pure text
  | e :: rest, quasi :: quasis, text => do
    let text := text ++ quasi.cooked.getD quasi.raw
    let v ← Link.settle (evaluate scene e)
    let text := text ++ (← Run.text v)
    Run.checkLength text
    evaluateTemplate scene rest quasis text

/-- The value of the last expression. -/
def evaluateLast (scene : Scene) : List Expr → Value → Run Value
  | [], last => pure last
  | e :: rest, _ => do
    let v ← Link.settle (evaluate scene e)
    evaluateLast scene rest v

/-- Array elements, or arguments, appended to `items`. -/
def evaluateItems (scene : Scene) : List Expr → Array Value → Run (Array Value)
  | [], items => pure items
  | .spread _ inner :: rest, items => do
    let v ← Link.settle (evaluate scene inner)
    let extra ← Run.iterate v
    Run.reserve items.size extra.size
    evaluateItems scene rest (items ++ extra)
  | .hole _ :: rest, items => evaluateItems scene rest (items.push .undefined)
  | e :: rest, items => do
    let v ← Link.settle (evaluate scene e)
    evaluateItems scene rest (items.push v)

/-- Members of an object literal added to `props`. -/
def evaluateMembers (scene : Scene) : List Member → Properties → Run Properties
  | [], props => pure props
  | .keyed _ computed key value _ :: rest, props => do
    let name ← keyText computed key (Link.settle (evaluate scene key))
    let v ← Link.settle (evaluate scene value)
    evaluateMembers scene rest (props.insert name v)
  | .method span _ computed key kind f :: rest, props =>
    match kind with
    | .method => do
      let name ← keyText computed key (Link.settle (evaluate scene key))
      let v ← methodValue scene f
      evaluateMembers scene rest (props.insert name v)
    | _ => Run.unsupported .accessorProperty span
  | .spread _ value :: rest, props => do
    let source ← Link.settle (evaluate scene value)
    let props ← spreadInto props source
    evaluateMembers scene rest props
  | .field span _ _ _ _ _ :: _, _ => Run.unsupported .propertyKey span
  | .block span _ :: _, _ => Run.unsupported .propertyKey span
  | .marked span _ _ _ :: _, _ => Run.unsupported .propertyKey span

/-- The place that a target names; `other` is reported for a target that is no name or member. -/
def evaluatePlace (scene : Scene) (other : Construct) : Pattern → Run Place
  | .name _ text => pure (.binding text)
  | .target (.member _ object name _) => do
    let holder ← Link.settle (evaluate scene object)
    return .property holder name.text
  | .target (.index _ object key _) => do
    let holder ← Link.settle (evaluate scene object)
    let key ← Run.text (← Link.settle (evaluate scene key))
    return .property holder key
  | p => Run.unsupported other p.span

end

end ScopedViews.Sandbox
