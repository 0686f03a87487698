import ScopedViews.Proofs.Sandbox.Evaluation
/-!
# Plans of statements, calls and programs

Statements are put together from expressions and other statements, calls from the bodies of what is
called, with one frame less each time, and a program from its statements.

* `Plan.execute` and what it goes through: statements, their lists and the cases of a switch;
* `Plan.invoke`: calls;
* `Point.ofProgram`: the point at which a program starts.
-/

namespace ScopedViews.Sandbox

open Script

namespace Plan

variable {scene : Scene}

/-! ## Loops and bindings -/

def afterBody (flow : Flow) {next : Run Flow} (p : Plan next) :
    Plan (Sandbox.afterBody flow next) :=
  match flow with
  | .broke | .returned _ => .value _
  | .normal | .continued => p

def loopWhile {test : Run Bool} {body : Run Flow} {update : Run Unit} (pt : Plan test)
    (pb : Plan body) (pu : Plan update) :
    (rounds : Nat) → Plan (Sandbox.loopWhile test body update rounds)
  | 0 => .leaf (.halt _)
  | rounds + 1 =>
    .bind (.leaf .tick) fun _ => .bind pt fun _ =>
      .choose (.bind pb fun flow => .afterBody flow (.bind pu fun _ => loopWhile pt pb pu rounds))
        (.value _)

def loopUntil {body : Run Flow} {test : Run Bool} (pb : Plan body) (pt : Plan test) :
    (rounds : Nat) → Plan (Sandbox.loopUntil body test rounds)
  | 0 => .leaf (.halt _)
  | rounds + 1 =>
    .bind (.leaf .tick) fun _ => .bind pb fun flow =>
      .afterBody flow (.bind pt fun _ => .choose (loopUntil pb pt rounds) (.value _))

def loopOver {bind : Value → Run Unit} {body : Run Flow} (pi : ∀ item, Plan (bind item))
    (pb : Plan body) : (items : List Value) → Plan (Sandbox.loopOver bind body items)
  | [] => .value _
  | item :: rest =>
    .bind (.leaf .tick) fun _ => .bind (pi item) fun _ => .bind pb fun flow =>
      .afterBody flow (loopOver pi pb rest)

def bindItem (calls : Calls scene.invoke) (declared : Option (Span × DeclKind))
    (targets : List Pattern) (item : Value) :
    Plan (Sandbox.bindItem scene declared targets item) :=
  match declared, targets with
  | some (span, _), target :: _ => by
    change Plan (match boundName? target with
      | some name => Run.define name item
      | none => Run.unsupported .destructuringPattern span)
    split
    · exact .leaf (.define _ _)
    · exact .leaf (.halt _)
  | some _, [] => .leaf (.halt _)
  | none, target :: _ =>
    .bind (.evaluatePlace calls .assignmentTarget target) fun _ => .leaf (.write _ _)
  | none, [] => .value _

def declare (calls : Calls scene.invoke) : (targets : List Pattern) →
    Plan (Sandbox.declare scene targets)
  | [] => .value _
  | target :: rest => by
    cases target
    case name =>
      exact .bind (.bind (.leaf (.view _)) fun _ => .choose (.value _) (.leaf (.define _ _)))
        fun _ => declare calls rest
    case default target e =>
      cases target
      case name =>
        exact .bind (.bind (.settle (.evaluate calls e)) fun _ => .leaf (.define _ _))
          fun _ => declare calls rest
      all_goals exact .leaf (.halt _)
    all_goals exact .leaf (.halt _)

def evaluateOption (calls : Calls scene.invoke) (default : Value) (e : Option Expr) :
    Plan (Sandbox.evaluateOption scene default e) :=
  match e with
  | none => .value _
  | some e => .settle (.evaluate calls e)

/-! ## Statements -/

def thrownText {v : Run Value} (p : Plan v) : Plan (Sandbox.thrownText v) :=
  .bind p fun value => .leaf (.text value)

/-- What is thrown; of an error that is constructed only the first argument is evaluated. -/
def evaluateThrown (calls : Calls scene.invoke) (e : Expr) :
    Plan (Sandbox.evaluateThrown scene e) := by
  cases e
  case pure e => exact evaluateThrown calls e
  case construct callee arguments =>
    cases callee
    case name =>
      refine .choose (.bind ?_ fun _ => .value _) (.thrownText (.settle (.evaluate calls _)))
      split
      · exact .value _
      · exact .value _
      · exact .thrownText (.settle (.evaluate calls _))
    all_goals exact .thrownText (.settle (.evaluate calls _))
  all_goals exact .thrownText (.settle (.evaluate calls _))

def matchCase (calls : Calls scene.invoke) (subject : Value) : (cases : List Case) → (i : Nat) →
    Plan (Sandbox.matchCase scene subject cases i)
  | [], _ => .value _
  | .mk _ none _ :: rest, i => matchCase calls subject rest (i + 1)
  | .mk _ (some test) _ :: rest, i =>
    .bind (.settle (.evaluate calls test)) fun _ =>
      .choose (.value _) (matchCase calls subject rest (i + 1))

mutual

def execute (calls : Calls scene.invoke) : (s : Stmt) → Plan (Sandbox.execute scene s)
  | .empty _ => .value _
  | .function _ => .value _
  | .debugger _ => .value _
  | .expression _ e => .bind (.settle (.evaluate calls e)) fun _ => .value _
  | .variable _ _ declarators => .bind (.declare calls declarators) fun _ => .value _
  | .block _ body => .bind (.leaf (.hoist _ _)) fun _ => executeAll calls body
  | .cond _ test yes no =>
    .bind (.settle (.evaluate calls test)) fun _ =>
      .choose (execute calls yes) (executeOption calls no)
  | .forLoop _ init test update body =>
    .bind (executeOption calls init) fun _ =>
      .loopWhile (.bind (.evaluateOption calls _ test) fun _ => .value _) (execute calls body)
        (.bind (.evaluateOption calls _ update) fun _ => .value _) maxRounds
  | .forOf _ _ declared targets source body =>
    .choose (.leaf (.halt _)) <|
      .bind (.settle (.evaluate calls source)) fun _ => .bind (.leaf (.iterate _)) fun _ =>
        .loopOver (.bindItem calls declared targets) (execute calls body) _
  | .forIn _ declared targets source body =>
    .bind (.settle (.evaluate calls source)) fun _ => .bind (.leaf (.view _)) fun _ =>
      .loopOver (.bindItem calls declared targets) (execute calls body) _
  | .whileLoop _ test body =>
    .loopWhile (.bind (.settle (.evaluate calls test)) fun _ => .value _) (execute calls body)
      (.value _) maxRounds
  | .doWhile _ body test =>
    .loopUntil (execute calls body) (.bind (.settle (.evaluate calls test)) fun _ => .value _)
      maxRounds
  | .breakTo _ (some _) => .leaf (.halt _)
  | .breakTo _ none => .value _
  | .continueTo _ (some _) => .leaf (.halt _)
  | .continueTo _ none => .value _
  | .ret _ value => .map _ (.evaluateOption calls .undefined value)
  | .switch _ subject cases =>
    .bind (.settle (.evaluate calls subject)) fun v =>
      .bind (.matchCase calls v cases 0) fun _ => by
        split
        · exact .value _
        · exact executeCases calls _ cases
  | .tryCatch span block param handler finalizer =>
    .attempt ⟨scene, span, block, param, handler, finalizer⟩ (execute calls block)
      (executeOption calls handler) (executeOption calls finalizer)
  | .throwing _ e => .bind (.evaluateThrown calls e) fun _ => .leaf (.raise _)
  | .classLike _ _ _ _ => .leaf (.halt _)
  | .labeled _ _ _ => .leaf (.halt _)
  | .withObject _ _ _ => .leaf (.halt _)
  | .importFrom _ _ _ _ => .leaf (.halt _)
  | .exportNamed _ _ _ => .leaf (.halt _)
  | .exportAll _ _ _ => .leaf (.halt _)
  | .exportDeclaration _ _ => .leaf (.halt _)
  | .exportDefault _ _ => .leaf (.halt _)
  | .decorated _ _ _ _ => .leaf (.halt _)
  | .interface _ _ => .leaf (.halt _)

def executeAll (calls : Calls scene.invoke) : (body : List Stmt) →
    Plan (Sandbox.executeAll scene body)
  | [] => .value _
  | s :: rest =>
    .bind (execute calls s) fun
      | .normal => executeAll calls rest
      | .returned _ | .broke | .continued => .value _

def executeOption (calls : Calls scene.invoke) : (s : Option Stmt) →
    Plan (Sandbox.executeOption scene s)
  | none => .value _
  | some s => execute calls s

def executeCases (calls : Calls scene.invoke) : (skip : Nat) → (cases : List Case) →
    Plan (Sandbox.executeCases scene skip cases)
  | 0, [] => .value _
  | _ + 1, [] => .value _
  | skip + 1, _ :: rest => executeCases calls skip rest
  | 0, .mk _ _ body :: rest =>
    .bind (executeAll calls body) fun
      | .normal => executeCases calls 0 rest
      | .returned _ | .broke | .continued => .value _

end

def executeBlock (calls : Calls scene.invoke) (body : List Stmt) :
    Plan (Sandbox.executeBlock scene body) :=
  .bind (.leaf (.hoist _ _)) fun _ => executeAll calls body

/-! ## Calls -/

def orDefault {default : Run Value} (p : Plan default) (v : Value) :
    Plan (Sandbox.orDefault default v) :=
  match v with
  | .undefined => p
  | .null | .bool _ | .number _ | .string _ | .array _ | .object _ | .function _ => .value _

def bindParams (calls : Calls scene.invoke) : (params : List Pattern) → (args : List Value) →
    Plan (Sandbox.bindParams scene params args)
  | [], _ => .value _
  | param :: rest, _ => by
    cases param
    case name => exact .bind (.leaf (.define _ _)) fun _ => bindParams calls rest _
    case default param e =>
      cases param
      case name =>
        exact .bind (.orDefault (.settle (.evaluate calls e)) _) fun _ =>
          .bind (.leaf (.define _ _)) fun _ => bindParams calls rest _
      all_goals exact .leaf (.halt _)
    case rest param =>
      cases param
      case name =>
        exact .bind (.leaf (.newArray _)) fun _ => .bind (.leaf (.define _ _)) fun _ =>
          bindParams calls rest _
      all_goals exact .leaf (.halt _)
    all_goals exact .leaf (.halt _)

def runBody (calls : Calls scene.invoke) (concise : Bool) (body : List Stmt) :
    Plan (Sandbox.runBody scene concise body) := by
  refine .choose ?_ (.map _ (.executeBlock calls body))
  split
  · exact .settle (.evaluate calls _)
  · exact .value _

def runFunction (calls : Calls scene.invoke) (f : Function) (args : Array Value) :
    Plan (Sandbox.runFunction scene f args) :=
  match f with
  | .mk _ _ _ _ _ params _ _ body concise =>
    .choose (.leaf (.halt _)) <|
      .bind (.choose (.value _) (.bind (.leaf (.newArray _)) fun _ => .leaf (.define _ _))) fun _ =>
        .bind (.bindParams calls params _) fun _ => .runBody calls concise body

/-- Calls, for a number of free frames. -/
def invoke (source : String) : (free : Nat) → Calls (Sandbox.invoke source free)
  | 0, _, _ =>
    .bind (.leaf .tick) fun _ => .bind (.leaf (.definitionAt _)) fun _ => .leaf (.raise _)
  | free + 1, _, args =>
    .bind (.leaf .tick) fun _ => .bind (.leaf (.definitionAt _)) fun f =>
      .frame (.runFunction (invoke source free) f args)

end Plan

/-- The point at which a program starts. -/
def Point.ofProgram (source : String) (p : Program) : Point where
  run := executeBlock (Scene.ofSource source) p.body
  plan := Plan.executeBlock (Plan.invoke source maxCallDepth) p.body
  machine := .initial

end ScopedViews.Sandbox
