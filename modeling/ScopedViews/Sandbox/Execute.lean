import ScopedViews.Sandbox.Evaluate
/-!
# Execution

What statements, function bodies and whole programs denote, and the calls that tie them together:
a call may be made as long as frames are free, so calls are defined by recursion on their number.
-/

namespace ScopedViews.Sandbox

open Script

/-- The name that a pattern binds, with its initial value, unless it is destructuring. -/
def boundName? : Pattern → Option String
  | .name _ text => some text
  | .default _ (.name _ text) _ => some text
  | _ => none

/-- Binds the function declarations among statements, the last of a name winning. -/
def hoist (scene : Scene) : List Stmt → Run Unit
  | [] => pure ()
  | .function f :: rest => do
    match f with
    | .mk _ _ (some name) _ _ _ _ _ _ _ => Run.define name.text (← functionValue scene f)
    | _ => pure ()
    hoist scene rest
  | _ :: rest => hoist scene rest

/-- Binds the items of a loop to what stands in its head. -/
def bindItem (scene : Scene) (declared : Option (Span × DeclKind)) (targets : List Pattern)
    (item : Value) : Run Unit :=
  match declared, targets with
  | some (span, _), target :: _ =>
    match boundName? target with
    | some name => Run.define name item
    | none => Run.unsupported .destructuringPattern span
  | some (span, _), [] => Run.unsupported .destructuringPattern span
  | none, target :: _ => do
    let place ← evaluatePlace scene .assignmentTarget target
    place.write item
  | none, [] => pure ()

/-- Declares variables one after the other. -/
def declare (scene : Scene) : List Pattern → Run Unit
  | [] => pure ()
  | .name _ text :: rest => do
    declareName text none
    declare scene rest
  | .default _ (.name _ text) e :: rest => do
    declareName text (some (Link.settle (evaluate scene e)))
    declare scene rest
  | p :: _ => Run.unsupported .destructuringPattern p.span

/-- The name that a handler binds the caught text to. -/
def bindCaught (param : Option Pattern) (text : String) : Run Unit :=
  match param with
  | none => pure ()
  | some p =>
    match p with
    | .name _ name => Run.define name (.string text)
    | p => Run.unsupported .destructuringPattern p.span

/-- The text that a throw reports: constructing an error names it, anything else is printed. -/
def evaluateThrown (scene : Scene) : Expr → Run String
  | .construct span (.name calleeSpan name) arguments =>
    if isErrorName name then
      errorText name <|
        match arguments with
        | [] => pure ""
        | .spread _ _ :: _ => pure ""
        | e :: _ => thrownText (Link.settle (evaluate scene e))
    else
      thrownText (Link.settle (evaluate scene (.construct span (.name calleeSpan name) arguments)))
  | .pure _ e => evaluateThrown scene e
  | e => thrownText (Link.settle (evaluate scene e))

/-- The position of the first case whose test equals the subject; tests are evaluated in order. -/
def matchCase (scene : Scene) (subject : Value) : List Case → Nat → Run (Option Nat)
  | [], _ => pure none
  | .mk _ none _ :: rest, i => matchCase scene subject rest (i + 1)
  | .mk _ (some test) _ :: rest, i => do
    let v ← Link.settle (evaluate scene test)
    if v.strictEquals subject then return some i else matchCase scene subject rest (i + 1)

/-- The position of the default case. -/
def defaultCase? (cases : List Case) : Option Nat :=
  cases.findIdx? fun | .mk _ test _ => test.isNone

/-- An optional expression, evaluated for its value. -/
def evaluateOption (scene : Scene) (default : Value) : Option Expr → Run Value
  | none => pure default
  | some e => Link.settle (evaluate scene e)

mutual

/-- The computation that a statement denotes. -/
def execute (scene : Scene) : Stmt → Run Flow
  | .empty _ => pure .normal
  | .function _ => pure .normal
  | .debugger _ => pure .normal
  | .expression _ e => do
    let _ ← Link.settle (evaluate scene e)
    return .normal
  | .variable _ _ declarators => do
    declare scene declarators
    return .normal
  | .block _ body => do
    hoist scene body
    executeAll scene body
  | .cond _ test yes no => do
    if (← Link.settle (evaluate scene test)).isTruthy then execute scene yes
    else executeOption scene no
  | .forLoop _ init test update body => do
    let _ ← executeOption scene init
    loopWhile (do return (← evaluateOption scene (.bool true) test).isTruthy) (execute scene body)
      (do let _ ← evaluateOption scene .undefined update) maxRounds
  | .forOf span isAwait declared targets source body => do
    if isAwait then Run.unsupported .forAwait span
    else
      let items ← Run.iterate (← Link.settle (evaluate scene source))
      loopOver (bindItem scene declared targets) (execute scene body) items.toList
  | .forIn _ declared targets source body => do
    let v ← Link.settle (evaluate scene source)
    let keys ← Run.view fun m => v.keys m.heap
    loopOver (bindItem scene declared targets) (execute scene body) (keys.map .string)
  | .whileLoop _ test body =>
    loopWhile (do return (← Link.settle (evaluate scene test)).isTruthy) (execute scene body)
      (pure ()) maxRounds
  | .doWhile _ body test =>
    loopUntil (execute scene body)
      (do return (← Link.settle (evaluate scene test)).isTruthy) maxRounds
  | .breakTo span label =>
    match label with
    | some _ => Run.unsupported .labeledBreak span
    | none => pure .broke
  | .continueTo span label =>
    match label with
    | some _ => Run.unsupported .labeledContinue span
    | none => pure .continued
  | .ret _ value => .returned <$> evaluateOption scene .undefined value
  | .switch _ subject cases => do
    let v ← Link.settle (evaluate scene subject)
    match (← matchCase scene v cases 0).or (defaultCase? cases) with
    | none => return .normal
    | some i => executeCases scene i cases
  | .tryCatch _ block param handler finalizer =>
    tryHandle (execute scene block)
      (if handler.isSome then some ⟨bindCaught param, executeOption scene handler⟩ else none)
      (if finalizer.isSome then some (executeOption scene finalizer) else none)
  | .throwing _ e => do
    let text ← evaluateThrown scene e
    Run.raise (.thrown text)
  | .classLike s _ _ _ => Run.unsupported .statement s
  | .labeled s _ _ => Run.unsupported .statement s
  | .withObject s _ _ => Run.unsupported .statement s
  | .importFrom s _ _ _ => Run.unsupported .statement s
  | .exportNamed s _ _ => Run.unsupported .statement s
  | .exportAll s _ _ => Run.unsupported .statement s
  | .exportDeclaration s _ => Run.unsupported .statement s
  | .exportDefault s _ => Run.unsupported .statement s
  | .decorated s _ _ _ => Run.unsupported .statement s
  | .interface s _ => Run.unsupported .statement s

/-- Statements in order, up to the first that is left early. -/
def executeAll (scene : Scene) : List Stmt → Run Flow
  | [] => pure .normal
  | s :: rest => do
    match ← execute scene s with
    | .normal => executeAll scene rest
    | flow => return flow

def executeOption (scene : Scene) : Option Stmt → Run Flow
  | none => pure .normal
  | some s => execute scene s

/-- The cases from a position on, one into the next until a break. -/
def executeCases (scene : Scene) : Nat → List Case → Run Flow
  | _, [] => pure .normal
  | skip + 1, _ :: rest => executeCases scene skip rest
  | 0, .mk _ _ body :: rest => do
    match ← executeAll scene body with
    | .normal => executeCases scene 0 rest
    | .broke => return .normal
    | flow => return flow

end

/-- A list of statements with its function declarations bound first. -/
def executeBlock (scene : Scene) (body : List Stmt) : Run Flow := do
  hoist scene body
  executeAll scene body

/-- A value, or the default for one that is undefined. -/
def orDefault (default : Run Value) : Value → Run Value
  | .undefined => default
  | v => pure v

/-- Binds parameters to arguments; a missing or undefined one takes its default. -/
def bindParams (scene : Scene) : List Pattern → List Value → Run Unit
  | [], _ => pure ()
  | .name _ text :: rest, args => do
    Run.define text (args.headD .undefined)
    bindParams scene rest args.tail
  | .default _ (.name _ text) e :: rest, args => do
    let v ← orDefault (Link.settle (evaluate scene e)) (args.headD .undefined)
    Run.define text v
    bindParams scene rest args.tail
  | .rest _ (.name _ text) :: rest, args => do
    let list ← Run.newArray args.toArray
    Run.define text list
    bindParams scene rest []
  | p :: _, _ => Run.unsupported .destructuringParameter p.span

/-- The value that a body leaves with. -/
def returnedValue : Flow → Value
  | .returned v => v
  | _ => .undefined

/-- Binds the arguments of a call as a whole, which arrows do not. -/
def bindArguments (form : FunctionForm) (args : Array Value) : Run Unit :=
  if form == .arrow then pure ()
  else do
    let list ← Run.newArray args
    Run.define "arguments" list

/-- Runs the body of a function; that of a concise arrow is an expression. -/
def runBody (scene : Scene) (concise : Bool) (body : List Stmt) : Run Value :=
  if concise then
    match body with
    | [.expression _ e] => Link.settle (evaluate scene e)
    | _ => pure .undefined
  else returnedValue <$> executeBlock scene body

/-- Runs a function in the innermost frame. -/
def runFunction (scene : Scene) (f : Function) (args : Array Value) : Run Value :=
  match f with
  | .mk span form _ isAsync generator params _ _ body concise =>
    if isAsync || generator then Run.unsupported .generatorOrAsyncCall span
    else do
      bindArguments form args
      bindParams scene params args.toList
      runBody scene concise body

/-- The definition that starts at an offset. -/
def definitionAt (start : Nat) : Run Function := do
  match ← Run.view (·.functions.get? start) with
  | some f => return f
  | none => Run.raise (.type .unknownFunction)

/-- Calls the function that starts at an offset, with room for `free` more frames. -/
def invoke (source : String) : Nat → Invoke
  | 0, start, _ => do
    Run.tick
    let _ ← definitionAt start
    Run.raise (.range .callDepth)
  | free + 1, start, args => do
    Run.tick
    let f ← definitionAt start
    Run.withFrame (runFunction ⟨source, invoke source free⟩ f args)

/-- The scene of a program that has not called anything yet. -/
def Scene.ofSource (source : String) : Scene := ⟨source, Sandbox.invoke source maxCallDepth⟩

/-- The machine after a program has run, or the fault it ended in. -/
def runProgram (source : String) (p : Program) : Except Fault Machine :=
  match executeBlock (Scene.ofSource source) p.body .initial with
  | .ok _ m => .ok m
  | .error fault _ => .error fault

end ScopedViews.Sandbox
