import ScopedViews.Script.Lower.Async
import ScopedViews.Script.Lower.Class.Leave
import ScopedViews.Script.Lower.Class.Private
import ScopedViews.Script.Lower.Disposal
import ScopedViews.Script.Lower.Operator
import ScopedViews.Script.Lower.Own
import ScopedViews.Script.Lower.Rest
/-!
# Lowering

Replaces constructs that a platform lacks by older ones of the same meaning.  Main definitions:
`lowering`, `Program.lower?`.
-/

namespace ScopedViews.Script

namespace Lower

/-- Lowers an expression whose parts are not lowered yet; they are afterwards, wherever they have
gone. -/
def openExpr (st : Setting) (e : Expr) : Lower Expr := do
  rejectLiterals st e
  let e ← moveOwn st e
  let e ← lowerPrivate st e
  let e ← lowerLogicalAssignment st e
  let e ← lowerCoalescing st e
  let e ← lowerChain st e
  let e ← lowerAssignment st e
  let e ← lowerSpreads st e
  let e ← lowerPower st e
  lowerRegex st e

/-- Lowers an expression whose parts are lowered. -/
def closeExpr (st : Setting) (e : Expr) : Lower Expr := do
  match e with
  | .function f =>
    let f := f.parts
    if st.lowersAsync f then
      let called := match st.place with
        | .called name => some name
        | _ => none
      asyncValue f called
    else if f.form == .arrow && st.lowersArrows then
      return .function { f.opened with form := .expression }.whole
    else return e
  | .classLike _ _ _ _ | .decorated _ _ _ _ => leaveClassExpression st e
  | e => yieldAwaited st e

/-- Lowers a statement whose parts are not lowered yet. -/
def openStmt (st : Setting) (s : Stmt) : Lower Stmt := do
  let s ← lowerDisposingStmt st s
  let s ← lowerAwaitLoop st s
  let s ← lowerHead st s
  match s with
  | .tryCatch t tried none (some handler) finalizer =>
    if st.lacks .catchWithoutName then
      return .tryCatch t tried (some (Build.target (← fresh "unused"))) (some handler) finalizer
    return s
  | s => return s

/-- Whether a function has variables for its own values: `this` of an arrow function is that of the
function around, unless a field is all that is around. -/
def hasOwn (st : Setting) (f : FunctionParts) : Bool :=
  f.form != .arrow || (st.inField && st.movesAsync)

def openFunction (st : Setting) (f : FunctionParts) : Lower FunctionParts := do
  if hasOwn st f then enterOwn
  let f ← if f.concise then pure f else do pure { f with body := ← lowerDisposal st f.body }
  lowerParameters st f

def closeFunction (st : Setting) (f : FunctionParts) : Lower FunctionParts := do
  let f ← if f.form == .method && st.lowersAsync f then asyncMethod f else pure f
  let f ← if hasOwn st f then declareOwn st f else pure f
  return if 1 < f.body.length then f.opened else f

def openClass (st : Setting) (isExpression : Bool) (c : ClassParts) : Lower ClassParts := do
  let members ← c.members.mapM (lowerDisposingMember st)
  enterClass st isExpression { c with members }

/-- Puts the variables of a static block's own values into it. -/
def aroundMember (m : Member) (walk : Lower Member) : Lower Member := do
  match m with
  | .block _ _ =>
    modify fun d => { d with entersConstructor := false }
    enterOwn
    let m ← walk
    let declared ← ownVariables (← leaveOwn) (Build.name "arguments")
    match m with
    | .block s body => return .block s (declared ++ body)
    | m => return m
  | .method _ _ _ _ .constructor _ =>
    modify fun d => { d with entersConstructor := true }
    walk
  | _ => walk

def aroundParams (walk : Lower (List Pattern)) : Lower (List Pattern) := do
  modify fun d => { d with inParams := true }
  let ps ← walk
  modify fun d => { d with inParams := false }
  return ps

def aroundListed (s : Stmt) (walk : Lower Stmt) : Lower (List Stmt) := do
  let (s, frame) ← withFrame s walk
  return frame.before ++ s :: frame.after

/-- There is no room beside a statement that stands alone. -/
def aroundSingle (s : Stmt) (walk : Lower Stmt) : Lower Stmt := do
  return (← withFrame s walk).1

end Lower

/-- The walk that lowers a script. -/
def lowering : Visitor Setting Draft where
  declare := Setting.declaring
  step := Setting.step
  enterExpr := Lower.openExpr
  exitExpr := Lower.closeExpr
  enterTarget := Lower.lowerPrivateTarget
  enterStmt := Lower.openStmt
  exitStmt := Lower.declareAsync
  enterDeclaration := fun st _ ds => Lower.lowerDeclaration st ds
  enterFunction := Lower.openFunction
  exitFunction := Lower.closeFunction
  enterClass := Lower.openClass
  exitDeclaredClass := Lower.leaveDeclaredClass
  aroundParams := Lower.aroundParams
  aroundMember := fun _ m walk => Lower.aroundMember m walk
  aroundList := Lower.withVariables
  aroundListed := Lower.aroundListed
  aroundSingle := Lower.aroundSingle

/-- Whether an import or export calls a member by a text that is no name. -/
def Stmt.usesMemberText (s : Stmt) : Bool :=
  let isText (n : ModuleName) : Bool := n matches .string _ _
  match s with
  | .importFrom _ bindings _ _ => (bindings.getD []).any fun
    | .named _ imported _ => isText imported
    | _ => false
  | .exportNamed _ specifiers _ => specifiers.any fun s => isText s.inner || isText s.outer
  | .exportAll _ (some exported) _ => isText exported
  | _ => false

/-- Statements in front of those that are no imports. -/
def insertBehindImports (made : List Stmt) (body : List Stmt) : List Stmt :=
  let isImport (s : Stmt) : Bool := s matches .importFrom _ _ _ _
  body.takeWhile isImport ++ made ++ body.dropWhile isImport

namespace Lower

/-- An export of a whole module, as an import and an export. -/
def splitExports (st : Setting) : List Stmt → Lower (List Stmt)
  | [] => return []
  | .exportAll s (some outer) source :: more => do
    if st.lacks .namespaceExports then
      let n ← fresh outer.text
      return .importFrom s (some [.all nowhere (Build.nameOf n)]) "" source ::
        .exportNamed s [⟨nowhere, .name (Build.nameOf n), outer⟩] none ::
        (← splitExports st more)
    return .exportAll s (some outer) source :: (← splitExports st more)
  | s :: more => do return s :: (← splitExports st more)

/-- Lowers the statements of a module. -/
def module (st : Setting) (body : List Stmt) : Lower (List Stmt) := do
  if st.lacks .memberTexts && body.any Stmt.usesMemberText then fail
  enterOwn
  let body ← lowerModuleDisposal st body
  let parts ← body.mapM fun s =>
    aroundListed s (lowering.stmt st.depth (st.step .listed) s)
  let body ← splitExports st parts.flatten
  let own ← moduleVariables
  let d ← get
  let constants := Build.declareAny .constDecl (d.constants.reverse.map fun (n, e) => (n, some e))
  let imports := d.helpers.reverse.map fun (n, place) =>
    Stmt.importFrom nowhere (some [.default (Build.nameOf n)]) ""
      ⟨nowhere, "@oxc-project/runtime/helpers/" ++ place, none⟩
  let holders := Build.declareAny .varDecl (d.holders.reverse.map fun n => (n, none))
  let bindings := Build.declareAny .letDecl d.bindings.reverse
  return own ++ insertBehindImports (constants ++ imports ++ holders ++ bindings) body

end Lower

/-- Why a script cannot be lowered. -/
inductive LowerFault where
  /-- A scope declares a name twice. -/
  | clash
  /-- Something in it has no older form. -/
  | noOlderForm
deriving Repr, DecidableEq

/-- The module with the constructs that a platform reads. -/
def Program.lower (p : Program) (platform : Platform) : Except LowerFault Program :=
  let mentions := p.mentions
  if mentions.clash then .error .clash
  else
    let names := lexicalNames true p.body ++ Stmt.allVarNames p.body ++ declaredFunctions p.body
    let st : Setting := {
      platform
      depth := 64 * (p.span.stop - p.span.start + 64)
      scopes := [⟨names, fun _ => (Stmt.allMentions p.body).written⟩] }
    let (body, d) := (Lower.module st p.body).run { taken := .ofNames mentions.names }
    if d.failed then .error .noOlderForm else .ok { p with body }

end ScopedViews.Script
