import ScopedViews.Proofs.Sandbox.Plan
/-!
# Plans of expressions

Every computation that an expression denotes is put together from its parts, given that calls are.
The plans follow the definitions of the evaluator case by case.

* `Calls`: plans of all calls;
* `Plan.callMethod`: methods, among them those that call back;
* `Plan.evaluate` and what it goes through: expressions, templates, elements, members and places.
-/

namespace ScopedViews.Sandbox

open Script

/-- Plans of all calls. -/
abbrev Calls (invoke : Invoke) := ∀ start args, Plan (invoke start args)

/-! ## Methods -/

namespace Builtin

variable {invoke : Invoke} {address : Nat} {method : String} {args : Array Value}

theorem callMethod_visit {visit : Visit} (h : visitNamed? method = some visit) :
    callMethod invoke (.array address) method args = (do
      let items ← Run.elements address
      visitFrom invoke visit (argument args 0) (.array address) items.toList 0 #[]) := by
  have hname : visit.name = method := by simpa using List.find?_some h
  rw [← hname]
  cases visit <;> rfl

theorem callsBack_array {address : Nat} (h : visitNamed? method = none)
    (hreduce : method ≠ "reduce") : callsBack (.array address) method = false := by
  simp [callsBack, h, hreduce]

end Builtin

namespace Plan

variable {invoke : Invoke}

def callback (calls : Calls invoke) (f : Value) (args : Array Value) :
    Plan (Builtin.callback invoke f args) :=
  match f with
  | .function _ => calls _ _
  | .undefined | .null | .bool _ | .number _ | .string _ | .array _ | .object _ =>
    .bind (.leaf (.view _)) fun _ => .leaf (.raise _)

def visitFrom (calls : Calls invoke) (visit : Builtin.Visit) (f receiver : Value) :
    (items : List Value) → (i : Nat) → (out : Array Value) →
    Plan (Builtin.visitFrom invoke visit f receiver items i out)
  | [], _, _ => .leaf (.finish _ _)
  | _ :: rest, _, _ => by
    refine .bind (.callback calls _ _) fun _ => ?_
    -- what the answer of the function means for the visits behind it
    split
    · exact visitFrom calls _ f receiver rest _ _
    · exact visitFrom calls _ f receiver rest _ _
    · exact .value _
    · exact .value _
    · exact .value _
    · exact visitFrom calls _ f receiver rest _ _

def reduceFrom (calls : Calls invoke) (f receiver : Value) :
    (items : List Value) → (i : Nat) → (acc : Value) →
    Plan (Builtin.reduceFrom invoke f receiver items i acc)
  | [], _, _ => .value _
  | _ :: rest, _, _ =>
    .bind (.callback calls _ _) fun _ => reduceFrom calls f receiver rest _ _

/-- Methods of arrays. -/
def callArray (calls : Calls invoke) (address : Nat) (method : String) (args : Array Value) :
    Plan (Builtin.callMethod invoke (.array address) method args) :=
  match hvisit : Builtin.visitNamed? method with
  | some visit =>
    .ofEq (Builtin.callMethod_visit hvisit) <|
      .bind (.leaf (.view _)) fun _ => .visitFrom calls visit _ _ _ _ _
  | none =>
    -- the one method that calls back and does not visit the elements one by one
    if hreduce : method = "reduce" then by
      subst hreduce
      refine .bind (.leaf (.view _)) fun _ => ?_
      split
      · exact .reduceFrom calls _ _ _ _ _
      · exact .reduceFrom calls _ _ _ _ _
      · exact .leaf (.raise _)
    else .leaf (.callMethod args (Builtin.callsBack_array hvisit hreduce))

def replacementText (calls : Calls invoke) (s pattern : String) (i : Nat) (v : Value) :
    Plan (Builtin.replacementText invoke s pattern i v) :=
  match v with
  | .function _ => .bind (calls _ _) fun _ => .leaf (.view _)
  | .undefined | .null | .bool _ | .number _ | .string _ | .array _ | .object _ =>
    .leaf (.view _)

/-- Methods of strings. -/
def callString (calls : Calls invoke) (s method : String) (args : Array Value) :
    Plan (Builtin.callMethod invoke (.string s) method args) :=
  if hreplace : method = "replace" then by
    subst hreplace
    refine .bind (.leaf (.view _)) fun pattern => ?_
    -- only where the pattern is found is there a call
    split
    · exact .value _
    · exact .bind (.replacementText calls s pattern _ _) fun _ =>
        .bind (.leaf (.checkString _)) fun _ => .value _
  else .leaf (.callMethod args (by simp [Builtin.callsBack, hreplace]))

/-- Methods of functions. -/
def callFunction (calls : Calls invoke) (f : FunctionRef) (method : String) (args : Array Value) :
    Plan (Builtin.callMethod invoke (.function f) method args) :=
  if hcall : method = "call" then by
    subst hcall
    exact calls _ _
  else if happly : method = "apply" then by
    subst happly
    exact .bind (.leaf (.argumentList _)) fun _ => calls _ _
  else .leaf (.callMethod args (by simp [Builtin.callsBack, hcall, happly]))

/-- Methods of all values. -/
def callMethod (calls : Calls invoke) (receiver : Value) (method : String) (args : Array Value) :
    Plan (Builtin.callMethod invoke receiver method args) :=
  match receiver with
  | .array address => callArray calls address method args
  | .string s => callString calls s method args
  | .function f => callFunction calls f method args
  | .undefined | .null | .bool _ | .number _ | .object _ => .leaf (.callMethod args rfl)

/-! ## Parts of expressions -/

def settle {m : Run Link} (p : Plan m) : Plan (Link.settle m) := .bind p fun _ => .value _

def follow {object : Run Link} {optional : Bool} {k : Value → Run Link} (p : Plan object)
    (next : ∀ v, Plan (k v)) : Plan (Link.follow object optional k) :=
  .bind p fun
    | none => .value _
    | some v => .choose (.value _) (next v)

def readProperty {object : Run Link} {optional : Bool} {key : Run String} (p : Plan object)
    (pk : Plan key) : Plan (Link.readProperty object optional key) :=
  .follow p fun _ => .bind pk fun _ => .map _ (.leaf (.readProperty _ _))

variable {scene : Scene}

def callValue (calls : Calls scene.invoke) (callee : Value) {args : Run (Array Value)}
    (p : Plan args) : Plan (Sandbox.callValue scene callee args) :=
  .bind p fun _ =>
    match callee with
    | .function _ => .map _ (calls _ _)
    | .undefined | .null | .bool _ | .number _ | .string _ | .array _ | .object _ =>
      .leaf (.raise _)

def heldMember (receiver : Value) (name : String) : Plan (Sandbox.heldMember receiver name) :=
  match receiver with
  | .object _ => .leaf (.view _)
  | .undefined | .null | .bool _ | .number _ | .string _ | .array _ | .function _ => .value _

def callHeld (calls : Calls scene.invoke) (receiver : Value) (method : String) (optional : Bool)
    {args : Run (Array Value)} (p : Plan args) (held : Option Value) :
    Plan (Sandbox.callHeld scene receiver method optional args held) := by
  unfold Sandbox.callHeld
  split
  · exact .bind p fun _ => .map _ (calls _ _)
  · exact .choose (.value _) (.bind p fun _ => .map _ (.callMethod calls _ _ _))
  · exact .bind p fun _ => .map _ (.callMethod calls _ _ _)

def callMember (calls : Calls scene.invoke) (receiver : Value) (method : String)
    (optional : Bool) {args : Run (Array Value)} (p : Plan args) :
    Plan (Sandbox.callMember scene receiver method optional args) :=
  .choose (.leaf (.raise _)) <|
    .bind (.heldMember receiver method) fun held => .callHeld calls receiver method optional p held

def callOwned (owner method : String) {args : Run (Array Value)} (p : Plan args) :
    Plan (Sandbox.callOwned owner method args) :=
  .bind p fun _ => .map _ (.leaf (.callStatic _ _ _))

def callName (calls : Calls scene.invoke) (name : String) (optional : Bool)
    {args : Run (Array Value)} (p : Plan args) :
    Plan (Sandbox.callName scene name optional args) :=
  .bind (.leaf (.view _)) fun _ =>
    .choose (.follow (.map _ (.leaf (.lookup _))) fun v => .callValue calls v p)
      (.bind p fun args => by
        split
        next hconvert => exact .map _ (.leaf (.convert hconvert))
        next => exact .leaf (.raise _))

def callOwner (owner : Option String) (method : String) {args : Run (Array Value)}
    {ordinary : Run Link} (p : Plan args) (po : Plan ordinary) :
    Plan (Sandbox.callOwner owner method args ordinary) :=
  match owner with
  | none => po
  | some _ => .bind (.leaf (.view _)) fun _ => .choose po (.callOwned _ _ p)

def functionValue (scene : Scene) (f : Function) : Plan (Sandbox.functionValue scene f) :=
  match f with
  | .mk .. => .leaf (.makeFunction _ _ _)

def methodValue (scene : Scene) (f : Function) : Plan (Sandbox.methodValue scene f) :=
  match f with
  | .mk .. => .leaf (.makeFunction _ _ _)

def keyText {computed : Bool} {key : Expr} {value : Run Value} (p : Plan value) :
    Plan (Sandbox.keyText computed key value) := by
  unfold Sandbox.keyText
  split
  · exact .value _
  · exact .bind p fun _ => .leaf (.view _)

def assignTo (op : AssignOp) {place : Run Place} {right : Run Value} (span : Span)
    (pp : Plan place) (pr : Plan right) : Plan (Sandbox.assignTo op place right span) :=
  .bind pp fun _ =>
    match op with
    | .plain => .bind pr fun _ => .bind (.leaf (.write _ _)) fun _ => .value _
    | .combined _ =>
      .bind (.leaf (.read _)) fun _ => .bind pr fun _ =>
        .bind (.leaf (.applyBinary _ _ _ _)) fun _ => .bind (.leaf (.write _ _)) fun _ => .value _
    | .logical _ =>
      .bind (.leaf (.read _)) fun _ =>
        .choose (.value _) (.bind pr fun _ => .bind (.leaf (.write _ _)) fun _ => .value _)

def updateAt (op : UpdateOp) (before : Bool) {place : Run Place} (p : Plan place) :
    Plan (Sandbox.updateAt op before place) :=
  .bind p fun _ => .bind (.leaf (.read _)) fun _ => .bind (.leaf (.view _)) fun _ =>
    .bind (.leaf (.write _ _)) fun _ => .value _

/-! ## Expressions -/

mutual

/-- Expressions.  What is called, what a `typeof` stands before and what an element or a target is
decides how it is evaluated, so these are taken apart once more. -/
def evaluate (calls : Calls scene.invoke) : (e : Expr) → Plan (Sandbox.evaluate scene e)
  | .null _ => .value _
  | .boolean _ _ => .value _
  | .number _ _ _ => .value _
  | .string _ _ => .value _
  | .template _ quasis parts =>
    .bind (evaluateTemplate calls parts quasis "") fun _ =>
      .bind (.leaf (.checkString _)) fun _ => .value _
  | .name _ _ => .map _ (.leaf (.lookup _))
  | .thisRef _ => .value _
  | .paren _ inner => .bind (.settle (evaluate calls inner)) fun _ => .value _
  | .sequence _ items => .map _ (evaluateLast calls items .undefined)
  | .function f => .map _ (.functionValue scene f)
  | .array _ elements =>
    .bind (evaluateItems calls elements #[]) fun _ => .map _ (.leaf (.newArray _))
  | .object _ members =>
    .bind (evaluateMembers calls members .empty) fun _ => .map _ (.leaf (.newObject _))
  | .member _ object _ _ => .readProperty (evaluate calls object) (.value _)
  | .index _ object key _ =>
    .readProperty (evaluate calls object)
      (.bind (.settle (evaluate calls key)) fun _ => .leaf (.view _))
  | .call _ callee arguments _ => by
    cases callee
    case member object _ _ =>
      exact .callOwner _ _ (evaluateItems calls arguments #[])
        (.follow (evaluate calls object) fun receiver =>
          .callMember calls receiver _ _ (evaluateItems calls arguments #[]))
    case index object key _ =>
      exact .follow (evaluate calls object) fun receiver =>
        .bind (.settle (evaluate calls key)) fun _ => .bind (.leaf (.view _)) fun _ =>
          .callMember calls receiver _ _ (evaluateItems calls arguments #[])
    case name => exact .callName calls _ _ (evaluateItems calls arguments #[])
    all_goals
      exact .follow (evaluate calls _) fun v =>
        .callValue calls v (evaluateItems calls arguments #[])
  | .pure _ inner => evaluate calls inner
  | .chain _ inner =>
    .choose (.bind (.settle (evaluate calls inner)) fun _ => .value _) (.leaf (.halt _))
  | .assign _ _ target value =>
    .map _ (.assignTo _ _ (evaluatePlace calls .assignmentTarget target)
      (.settle (evaluate calls value)))
  | .update _ _ _ target => .map _ (.updateAt _ _ (evaluatePlace calls .updateTarget target))
  | .logical _ _ left right =>
    .bind (.settle (evaluate calls left)) fun _ =>
      .choose (.value _) (.bind (.settle (evaluate calls right)) fun _ => .value _)
  | .conditional _ test yes no =>
    .bind (.settle (evaluate calls test)) fun _ =>
      .choose (.bind (.settle (evaluate calls yes)) fun _ => .value _)
        (.bind (.settle (evaluate calls no)) fun _ => .value _)
  | .binary _ _ left right =>
    .bind (.settle (evaluate calls left)) fun _ => .bind (.settle (evaluate calls right)) fun _ =>
      .map _ (.leaf (.applyBinary _ _ _ _))
  | .unary _ op operand => by
    cases op
    case delete => exact .leaf (.halt _)
    case typeof =>
      -- a name that is not bound is no fault here
      cases operand
      case name =>
        exact .bind (.leaf (.view _)) fun _ =>
          .choose (.bind (.leaf (.lookup _)) fun _ => .value _) (.value _)
      all_goals
        exact .bind (.settle (evaluate calls _)) fun _ => .map _ (.leaf (.applyUnary _ _))
    all_goals
      exact .bind (.settle (evaluate calls operand)) fun _ => .map _ (.leaf (.applyUnary _ _))
  | .spread _ _ => .leaf (.halt _)
  | .hole _ => .leaf (.halt _)
  | .bigint _ _ => .leaf (.halt _)
  | .regex _ _ _ => .leaf (.halt _)
  | .tagged _ _ _ _ => .leaf (.halt _)
  | .privateName _ _ => .leaf (.halt _)
  | .superRef _ => .leaf (.halt _)
  | .classLike _ _ _ _ => .leaf (.halt _)
  | .decorated _ _ _ _ => .leaf (.halt _)
  | .privateMember _ _ _ _ => .leaf (.halt _)
  | .construct _ _ _ => .leaf (.halt _)
  | .await _ _ => .leaf (.halt _)
  | .yield _ _ _ => .leaf (.halt _)
  | .metaProperty _ _ _ => .leaf (.halt _)
  | .importCall _ _ _ _ => .leaf (.halt _)

def evaluateTemplate (calls : Calls scene.invoke) : (es : List Expr) → (quasis : List Quasi) →
    (text : String) → Plan (Sandbox.evaluateTemplate scene es quasis text)
  | [], _, _ => .leaf (.appendQuasis _ _)
  | _ :: _, [], _ => .value _
  | e :: rest, _ :: quasis, _ =>
    .bind (.settle (evaluate calls e)) fun _ => .bind (.leaf (.view _)) fun _ =>
      .bind (.leaf (.checkLength _)) fun _ => evaluateTemplate calls rest quasis _

def evaluateLast (calls : Calls scene.invoke) : (es : List Expr) → (last : Value) →
    Plan (Sandbox.evaluateLast scene es last)
  | [], _ => .value _
  | e :: rest, _ => .bind (.settle (evaluate calls e)) fun v => evaluateLast calls rest v

def evaluateItems (calls : Calls scene.invoke) : (es : List Expr) → (items : Array Value) →
    Plan (Sandbox.evaluateItems scene es items)
  | [], _ => .value _
  | e :: rest, _ => by
    cases e
    case spread inner =>
      exact .bind (.settle (evaluate calls inner)) fun _ => .bind (.leaf (.iterate _)) fun _ =>
        .bind (.leaf (.reserve _ _)) fun _ => evaluateItems calls rest _
    case hole => exact evaluateItems calls rest _
    all_goals exact .bind (.settle (evaluate calls _)) fun _ => evaluateItems calls rest _

def evaluateMembers (calls : Calls scene.invoke) : (members : List Member) →
    (props : Properties) → Plan (Sandbox.evaluateMembers scene members props)
  | [], _ => .value _
  | .keyed _ _ key value _ :: rest, _ =>
    .bind (.keyText (.settle (evaluate calls key))) fun _ =>
      .bind (.settle (evaluate calls value)) fun _ => evaluateMembers calls rest _
  | .method _ _ _ key .method f :: rest, _ =>
    .bind (.keyText (.settle (evaluate calls key))) fun _ =>
      .bind (.methodValue scene f) fun _ => evaluateMembers calls rest _
  | .method _ _ _ _ .getter _ :: _, _ => .leaf (.halt _)
  | .method _ _ _ _ .setter _ :: _, _ => .leaf (.halt _)
  | .method _ _ _ _ .constructor _ :: _, _ => .leaf (.halt _)
  | .spread _ value :: rest, _ =>
    .bind (.settle (evaluate calls value)) fun _ => .bind (.leaf (.view _)) fun _ =>
      evaluateMembers calls rest _
  | .field _ _ _ _ _ _ :: _, _ => .leaf (.halt _)
  | .block _ _ :: _, _ => .leaf (.halt _)
  | .marked _ _ _ _ :: _, _ => .leaf (.halt _)

def evaluatePlace (calls : Calls scene.invoke) (other : Construct) : (p : Pattern) →
    Plan (Sandbox.evaluatePlace scene other p)
  | .name _ _ => .value _
  | .target e => by
    cases e
    case member object _ _ => exact .bind (.settle (evaluate calls object)) fun _ => .value _
    case index object key _ =>
      exact .bind (.settle (evaluate calls object)) fun _ =>
        .bind (.settle (evaluate calls key)) fun _ => .bind (.leaf (.view _)) fun _ => .value _
    all_goals exact .leaf (.halt _)
  | .object _ _ => .leaf (.halt _)
  | .array _ _ => .leaf (.halt _)
  | .default _ _ _ => .leaf (.halt _)
  | .rest _ _ => .leaf (.halt _)
  | .hole _ => .leaf (.halt _)
  | .keyed _ _ _ _ _ => .leaf (.halt _)
  | .decorated _ _ _ => .leaf (.halt _)

end

end Plan

end ScopedViews.Sandbox
