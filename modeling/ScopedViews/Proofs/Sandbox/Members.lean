import ScopedViews.Proofs.Sandbox.Charges
/-!
# Calls of members

A call of a member evaluates the object and the key as reading it does.  What it calls then depends
on the receiver: for an object it is the property that is read, but every other receiver answers
with its methods alone, whatever it holds.  So a function that is an element of an array cannot be
called as one, and an optional call cuts its chain short for objects only.

* `Access`, `Access.Reads`, `Access.evaluate_expr_iff`: a member access and what it reads;
* `Access.Reads.evaluate_call`: a call of a member, from the machine that reading it leaves;
* `Builtin.callMethod_of_not_isMethod`: names that are no methods;
* `GoesOn`, `staysCut_of_goesOn`: a chain that is cut short stays so;
* `member_calls_agree_iff`: where calls of members agree with reading them.
-/

namespace ScopedViews.Sandbox

open Script

/-! ## Names that are no methods -/

namespace Builtin

def arrayMethods : List String :=
  ["push", "unshift", "pop", "shift", "reverse", "concat", "slice", "join", "indexOf", "includes",
    "toString", "map", "filter", "forEach", "some", "every", "find", "reduce"]

def stringMethods : List String :=
  ["toString", "valueOf", "toUpperCase", "toLowerCase", "trim", "charAt", "indexOf", "includes",
    "startsWith", "endsWith", "slice", "substring", "split", "concat", "repeat", "replace"]

/-- The names of the methods of a value. -/
def methods : Value → List String
  | .array _ => arrayMethods
  | .string _ => stringMethods
  | .function _ => ["call", "apply", "toString"]
  | .number _ => ["toString", "toFixed"]
  | .object _ => ["hasOwnProperty", "toString"]
  | _ => ["toString"]

/-- Whether a name is that of a method of a value. -/
def isMethod (receiver : Value) (name : String) : Bool := (methods receiver).contains name

/-- Any other name is refused. -/
theorem callMethod_of_not_isMethod {invoke : Invoke} {receiver : Value} {name : String}
    (h : isMethod receiver name = false) (args : Array Value) :
    callMethod invoke receiver name args =
      Run.raise (.type (.noMethod receiver.typeName name)) := by
  unfold isMethod methods at h
  cases receiver with
  | array address =>
      simp only [callMethod, arrayMethod]
      split
      all_goals first | rfl | simp [arrayMethods] at h
  | string s =>
      simp only [callMethod, stringMethod]
      split
      all_goals first | rfl | simp [stringMethods] at h
  | function f =>
      simp only [callMethod, functionMethod]
      split
      all_goals first | rfl | simp at h
  | number x =>
      simp only [callMethod, numberMethod]
      split
      all_goals first | rfl | simp at h
  | object address =>
      simp only [callMethod, objectMethod]
      split
      all_goals first | rfl | simp at h
  | undefined | null | bool b =>
      have hname : name ≠ "toString" := by simpa using h
      simp only [callMethod, if_neg hname]

/-- A name of a method of arrays is not the text of an index. -/
theorem not_isMethod_of_index? {key : String} {i : Nat} (h : Value.index? key = some i)
    (address : Nat) : isMethod (.array address) key = false := by
  have hnone : ∀ name ∈ arrayMethods, Value.index? name = none := by decide
  refine Bool.eq_false_iff.2 fun hmethod => ?_
  have hmem : key ∈ arrayMethods := by simpa [isMethod, methods] using hmethod
  rw [hnone key hmem] at h
  cases h

end Builtin

/-! ## Accesses and what they read -/

/-- The key of an access: a name, or an expression in brackets. -/
inductive Selector where
  | dot (name : Name)
  | bracket (key : Expr)

/-- An access to a member of an object, and whether it stands behind an optional link. -/
structure Access where
  span : Span
  object : Expr
  selector : Selector
  link : Bool

/-- The text of a key. -/
def Selector.text (scene : Scene) : Selector → Run String
  | .dot name => pure name.text
  | .bracket key => do Run.text (← Link.settle (evaluate scene key))

/-- The expression that reads the member. -/
def Access.expr (a : Access) : Expr :=
  match a.selector with
  | .dot name => .member a.span a.object name a.link
  | .bracket key => .index a.span a.object key a.link

/-- What an access reads: object and key are evaluated, and the object has a property of the key,
or it is undefined there. -/
structure Access.Reads (scene : Scene) (a : Access) (m : Machine) (receiver : Value) (key : String)
    (v : Value) (m' : Machine) : Prop where
  found : ∃ m₁, evaluate scene a.object m = .ok (some receiver) m₁ ∧
    a.selector.text scene m₁ = .ok key m'
  value : Run.readProperty receiver key m' = .ok v m'

theorem evaluateItems_nil (scene : Scene) (items : Array Value) (m : Machine) :
    evaluateItems scene [] items m = .ok items m := by
  rw [evaluateItems]
  rfl

/-- A name that has a value and is none of the three that need no binding is bound. -/
theorem isBound_of_lookup {name : String} {v : Value} {m m' : Machine}
    (h : Run.lookup name m = .ok v m') (hundefined : name ≠ "undefined") (hnan : name ≠ "NaN")
    (hinfinity : name ≠ "Infinity") : Run.isBound name m = .ok true m := by
  cases hfound : Run.find? name m with
  | some w => simp only [Run.isBound, Run.view, hfound, Option.isSome_some]
  | none =>
      have hview : Run.view (Run.find? name) m = .ok none m := by simp only [Run.view, hfound]
      rw [Run.lookup, Run.bind_of_ok hview] at h
      simp only [if_neg hundefined, if_neg hnan, if_neg hinfinity] at h
      cases h

/-- Reading a property leaves the machine as it is. -/
theorem Run.machine_of_readProperty {v w : Value} {key : String} {m m' : Machine}
    (h : Run.readProperty v key m = .ok w m') : m = m' := by
  unfold Run.readProperty at h
  split at h
  next => cases h
  next =>
    cases h
    rfl

/-- The functions of `Object` and `Array` are out of the way where the name has a value. -/
theorem callOwner_of_evaluate {scene : Scene} {object : Expr} {receiver : Value} {m m' : Machine}
    (h : evaluate scene object m = .ok (some receiver) m') (method : String)
    (args : Run (Array Value)) (ordinary : Run Link) :
    callOwner (owner? object) method args ordinary m = ordinary m := by
  cases object with
  | name span name =>
      by_cases howned : name = "Object" ∨ name = "Array"
      · -- neither has a value without being bound
        have hbound : Run.isBound name m = .ok true m := by
          cases hlookup : Run.lookup name m with
          | ok v m₁ =>
              obtain rfl | rfl := howned
              · exact isBound_of_lookup hlookup (by decide) (by decide) (by decide)
              · exact isBound_of_lookup hlookup (by decide) (by decide) (by decide)
          | error fault m₁ =>
              rw [evaluate, Run.map_of_error hlookup] at h
              cases h
        have howner : owner? (.name span name) = some name := by
          rw [owner?, if_pos (by simpa using howned)]
        rw [howner]
        exact Run.bind_of_ok hbound
      · have howner : owner? (.name span name) = none := by
          simpa [owner?] using howned
        rw [howner]
        rfl
  | _ => rfl

namespace Access.Reads

variable {scene : Scene} {a : Access} {m m' : Machine} {receiver v : Value} {key : String}

/-- Nothing is read off undefined and null. -/
theorem not_isNullish (h : a.Reads scene m receiver key v m') : receiver.isNullish = false := by
  have hvalue := h.value
  unfold Run.readProperty at hvalue
  split at hvalue
  next => cases hvalue
  next hnot => exact Bool.eq_false_iff.2 hnot

theorem eq_get (h : a.Reads scene m receiver key v m') : v = receiver.get m'.heap key := by
  have hvalue := h.value
  simp only [Run.readProperty, h.not_isNullish] at hvalue
  cases hvalue
  rfl

/-- A call of a member goes on from the machine that reading it leaves. -/
theorem evaluate_call (h : a.Reads scene m receiver key v m') (span : Span) (arguments : List Expr)
    (optional : Bool) :
    evaluate scene (.call span a.expr arguments optional) m =
      callMember scene receiver key optional (evaluateItems scene arguments #[]) m' := by
  obtain ⟨m₁, hobject, hkey⟩ := h.found
  have hfollow (k : Value → Run Link) :
      Link.follow (evaluate scene a.object) a.link k m = k receiver m₁ := by
    rw [Link.follow, Run.bind_of_ok hobject]
    simp [h.not_isNullish]
  obtain ⟨s, object, selector, link⟩ := a
  cases selector with
  | dot name =>
      cases hkey
      show evaluate scene (.call span (.member s object name link) arguments optional) m = _
      rw [evaluate, callOwner_of_evaluate hobject]
      exact hfollow _
  | bracket e =>
      show evaluate scene (.call span (.index s object e link) arguments optional) m = _
      obtain ⟨w, m₂, hw, htext⟩ := Run.exists_of_bind_ok hkey
      rw [evaluate, hfollow]
      exact (Run.bind_of_ok hw).trans (Run.bind_of_ok htext)

/-- An object holds what is read off it. -/
theorem callMember_of_object {address : Nat} (h : a.Reads scene m (.object address) key v m')
    (optional : Bool) (args : Run (Array Value)) :
    callMember scene (.object address) key optional args m' =
      callHeld scene (.object address) key optional args (some v) m' := by
  have hheld : heldMember (.object address) key m' = .ok (some v) m' := by
    rw [h.eq_get]
    rfl
  exact Run.bind_of_ok hheld

/-- Other receivers hold nothing that a call would look at. -/
theorem callMember_of_ne_object (h : a.Reads scene m receiver key v m')
    (hreceiver : ∀ address, receiver ≠ .object address) (optional : Bool)
    (args : Run (Array Value)) :
    callMember scene receiver key optional args m' =
      callHeld scene receiver key optional args none m' := by
  have hheld : heldMember receiver key m' = .ok none m' := by
    cases receiver with
    | object address => exact absurd rfl (hreceiver address)
    | _ => rfl
  rw [callMember, h.not_isNullish]
  exact Run.bind_of_ok hheld

/-- A call without arguments of what is no method of the receiver is refused on the machine that
reading it leaves. -/
theorem evaluate_call_of_not_isMethod (h : a.Reads scene m receiver key v m')
    (hreceiver : ∀ address, receiver ≠ .object address)
    (hmethod : Builtin.isMethod receiver key = false) (span : Span) (optional : Bool) :
    evaluate scene (.call span a.expr [] optional) m =
      .error (.exception (.type (.noMethod receiver.typeName key))) m' := by
  rw [h.evaluate_call, h.callMember_of_ne_object hreceiver]
  refine (Run.bind_of_ok (evaluateItems_nil scene #[] m')).trans ?_
  rw [Builtin.callMethod_of_not_isMethod hmethod]
  rfl

/-- Of the receivers that are no objects only arrays hold functions, and not under names of
methods. -/
theorem not_isMethod_of_function {f : FunctionRef}
    (h : a.Reads scene m receiver key (.function f) m')
    (hreceiver : ∀ address, receiver ≠ .object address) :
    Builtin.isMethod receiver key = false := by
  have hget := h.eq_get
  cases receiver with
  | object address => exact absurd rfl (hreceiver address)
  | array address =>
      cases hindex : Value.index? key with
      | some i => exact Builtin.not_isMethod_of_index? hindex address
      | none =>
          simp only [Value.get, hindex] at hget
          split at hget
          · cases hget
          · cases hget
  | string s =>
      -- a character of a string is a string
      simp only [Value.get] at hget
      split at hget
      · cases hget
      · cases hchar : (Value.index? key).bind (s.toList[·]?) with
        | none => simp [hchar] at hget
        | some c => simp [hchar] at hget
  | _ => cases hget

end Access.Reads

/-- These are the values that the expression of an access has, where nothing has cut it short. -/
theorem Access.evaluate_expr_iff {scene : Scene} {a : Access} {v : Value} {m m' : Machine} :
    evaluate scene a.expr m = .ok (some v) m' ↔
      ∃ receiver key, a.Reads scene m receiver key v m' := by
  have hexpr : evaluate scene a.expr =
      Link.readProperty (evaluate scene a.object) a.link (a.selector.text scene) := by
    obtain ⟨span, object, selector, link⟩ := a
    cases selector with
    | dot name => exact evaluate.eq_def _ _
    | bracket key => exact evaluate.eq_def _ _
  rw [hexpr]
  constructor
  · intro h
    obtain ⟨object, m₁, hobject, h⟩ := Run.exists_of_bind_ok h
    cases object with
    | none => cases h
    | some receiver =>
        cases hstop : a.link && receiver.isNullish with
        | true =>
            simp only [hstop, if_true] at h
            cases h
        | false =>
            simp only [hstop] at h
            obtain ⟨key, m₂, hkey, h⟩ := Run.exists_of_bind_ok h
            cases hread : Run.readProperty receiver key m₂ with
            | error fault m₃ =>
                rw [Run.map_of_error hread] at h
                cases h
            | ok w m₃ =>
                rw [Run.map_of_ok hread] at h
                cases h
                have hsame : m₂ = m' := Run.machine_of_readProperty hread
                subst hsame
                exact ⟨receiver, key, ⟨m₁, hobject, hkey⟩, hread⟩
  · rintro ⟨receiver, key, h⟩
    obtain ⟨m₁, hobject, hkey⟩ := h.found
    refine (Run.bind_of_ok hobject).trans ?_
    simp only [h.not_isNullish, Bool.and_false]
    exact (Run.bind_of_ok hkey).trans (Run.map_of_ok h.value)

/-! ## Chains -/

/-- The links that go on from an expression. -/
inductive GoesOn (start : Expr) : Expr → Prop
  | refl : GoesOn start start
  | member {e : Expr} (span : Span) (name : Name) (link : Bool) (h : GoesOn start e) :
      GoesOn start (.member span e name link)
  | index {e : Expr} (span : Span) (key : Expr) (link : Bool) (h : GoesOn start e) :
      GoesOn start (.index span e key link)
  | call {e : Expr} (span : Span) (arguments : List Expr) (link : Bool) (h : GoesOn start e) :
      GoesOn start (.call span e arguments link)
  | pure {s : Span} {e : Expr} {arguments : List Expr} {link : Bool} (span : Span)
      (h : GoesOn start (.call s e arguments link)) :
      GoesOn start (.pure span (.call s e arguments link))

/-- What goes on from a call is made of links, and no name stands in front of them. -/
theorem GoesOn.isLink {span : Span} {callee e : Expr} {arguments : List Expr} {optional : Bool}
    (h : GoesOn (.call span callee arguments optional) e) : isLink e = true := by
  cases h with
  | refl | member | index | call | pure => rfl

theorem GoesOn.owner?_eq_none {span : Span} {callee e : Expr} {arguments : List Expr}
    {optional : Bool} (h : GoesOn (.call span callee arguments optional) e) : owner? e = none := by
  cases h with
  | refl | member | index | call | pure => rfl

section Chain

variable {scene : Scene} {span : Span} {callee : Expr} {arguments : List Expr} {optional : Bool}
  {m m' : Machine}

/-- Nothing follows a chain that has been cut short. -/
theorem Link.follow_of_none {object : Run Link} (h : object m = .ok none m') (link : Bool)
    (k : Value → Run Link) : Link.follow object link k m = .ok none m' :=
  Run.bind_of_ok h

/-- An expression of a chain that has been cut short: neither it nor a call of it has a value. -/
structure StaysCut (scene : Scene) (m m' : Machine) (e : Expr) : Prop where
  value : evaluate scene e m = .ok none m'
  call : ∀ span arguments link, evaluate scene (.call span e arguments link) m = .ok none m'

/-- A chain that has been cut short at a call stays so, however it goes on. -/
theorem staysCut_of_goesOn {e : Expr} (h : GoesOn (.call span callee arguments optional) e)
    (hcut : evaluate scene (.call span callee arguments optional) m = .ok none m') :
    StaysCut scene m m' e := by
  induction h with
  | refl =>
      refine ⟨hcut, fun _ _ _ => ?_⟩
      rw [evaluate]
      · exact Link.follow_of_none hcut _ _
      all_goals nofun
  | member _ _ _ h ih =>
      refine ⟨?_, fun _ _ _ => ?_⟩
      · rw [evaluate]
        exact Link.follow_of_none ih.value _ _
      · rw [evaluate, h.owner?_eq_none]
        exact Link.follow_of_none ih.value _ _
  | index _ _ _ _ ih =>
      refine ⟨?_, fun _ _ _ => ?_⟩
      · rw [evaluate]
        exact Link.follow_of_none ih.value _ _
      · rw [evaluate]
        exact Link.follow_of_none ih.value _ _
  | call _ _ _ _ ih =>
      refine ⟨ih.call _ _ _, fun _ _ _ => ?_⟩
      rw [evaluate]
      · exact Link.follow_of_none (ih.call _ _ _) _ _
      all_goals nofun
  | @pure s e arguments link span _ ih =>
      have hpure : evaluate scene (.pure span (.call s e arguments link)) m = .ok none m' := by
        rw [evaluate]
        exact ih.value
      refine ⟨hpure, fun _ _ _ => ?_⟩
      rw [evaluate]
      · exact Link.follow_of_none hpure _ _
      all_goals nofun

/-- The whole chain is undefined then. -/
theorem evaluate_chain_of_goesOn {e : Expr}
    (hcut : evaluate scene (.call span callee arguments optional) m = .ok none m')
    (h : GoesOn (.call span callee arguments optional) e) (s : Span) :
    evaluate scene (.chain s e) m = .ok (some .undefined) m' := by
  have hnone := (staysCut_of_goesOn h hcut).value
  have hsettle : Link.settle (evaluate scene e) m = .ok .undefined m' := Run.bind_of_ok hnone
  rw [evaluate, if_pos h.isLink]
  exact Run.bind_of_ok hsettle

/-- A fault of a chain is that of its links. -/
theorem evaluate_chain_of_error {e : Expr} {fault : Fault}
    (h : evaluate scene e m = .error fault m') (hlink : isLink e = true) (s : Span) :
    evaluate scene (.chain s e) m = .error fault m' := by
  have hsettle : Link.settle (evaluate scene e) m = .error fault m' := Run.bind_of_error h
  rw [evaluate, if_pos hlink]
  exact Run.bind_of_error hsettle

end Chain

/-! ## Calls and reads -/

/-- An optional call of nothing does not come to its arguments. -/
theorem callHeld_of_isNullish {v : Value} (hv : v.isNullish = true) (scene : Scene)
    (receiver : Value) (method : String) (args : Run (Array Value)) :
    callHeld scene receiver method true args (some v) = pure none := by
  cases v with
  | undefined | null => rfl
  | _ => cases hv

/-- A call takes a step, so it does not leave the machine as it was. -/
theorem steps_lt_invoke (source : String) (free start : Nat) (args : Array Value) (m : Machine) :
    m.steps < (Ending.machine (invoke source free start args m)).steps := by
  have hrest : ∃ (x : Run Value) (_ : Plan x), invoke source free start args =
      (do Run.tick; x) := by
    cases free with
    | zero => exact ⟨_, .bind (.leaf (.definitionAt start)) fun _ => .leaf (.raise _), rfl⟩
    | succ free =>
        exact ⟨_, .bind (.leaf (.definitionAt start)) fun f =>
          .frame (.runFunction (Plan.invoke source free) f args), rfl⟩
  obtain ⟨x, p, hx⟩ := hrest
  rw [hx]
  by_cases hspent : maxSteps < m.steps + 1
  · have htick : Run.tick m = .error (.halt .stepLimit) { m with steps := m.steps + 1 } :=
      (charge_eq 1 m).trans (if_pos hspent)
    rw [Run.bind_of_error htick]
    exact Nat.lt_succ_self _
  · have htick : Run.tick m = .ok () { m with steps := m.steps + 1 } :=
      (charge_eq 1 m).trans (if_neg hspent)
    rw [Run.bind_of_ok htick]
    exact p.steps_le { m with steps := m.steps + 1 }

/-- Calls of a member agree with what reading it has given: a function is called with the arguments
that are evaluated behind the key, and an optional call of what is neither a function nor a method
is cut short before its arguments, with everything that goes on from it. -/
structure Access.CallsAgree (scene : Scene) (a : Access) (m : Machine) (receiver : Value)
    (key : String) (v : Value) (m' : Machine) : Prop where
  function : ∀ f, v = .function f → ∀ span arguments optional,
    evaluate scene (.call span a.expr arguments optional) m =
      (do some <$> scene.invoke f.start (← evaluateItems scene arguments #[]) : Run Link) m'
  cut : v.isNullish = true → Builtin.isMethod receiver key = false →
    ∀ span arguments e s, GoesOn (.call span a.expr arguments true) e →
      evaluate scene (.chain s e) m = .ok (some .undefined) m'

namespace Access.Reads

variable {source : String} {free : Nat} {a : Access} {m m' : Machine} {receiver v : Value}
  {key : String}

/-- What is read off an object is called. -/
theorem callsAgree_of_object {scene : Scene} {address : Nat}
    (h : a.Reads scene m (.object address) key v m') :
    a.CallsAgree scene m (.object address) key v m' where
  function := by
    rintro f rfl span arguments optional
    rw [h.evaluate_call, h.callMember_of_object]
    rfl
  cut hnullish _ span arguments e s hgoes := by
    refine evaluate_chain_of_goesOn ?_ hgoes s
    rw [h.evaluate_call, h.callMember_of_object, callHeld_of_isNullish hnullish]
    rfl

/-- A function that another receiver holds is not called. -/
theorem not_callsAgree_of_function {f : FunctionRef}
    (h : a.Reads ⟨source, invoke source free⟩ m receiver key (.function f) m')
    (hreceiver : ∀ address, receiver ≠ .object address) :
    ¬ a.CallsAgree ⟨source, invoke source free⟩ m receiver key (.function f) m' := by
  intro hagree
  have hmethod := h.not_isMethod_of_function hreceiver
  have hcall := hagree.function f rfl ⟨0, 0⟩ [] false
  rw [h.evaluate_call_of_not_isMethod hreceiver hmethod,
    Run.bind_of_ok (evaluateItems_nil _ #[] m')] at hcall
  -- the refusal has taken no step, and the call would have
  have hsteps := steps_lt_invoke source free f.start #[] m'
  cases hinvoke : invoke source free f.start #[] m' with
  | ok w m'' =>
      rw [Run.map_of_ok hinvoke] at hcall
      cases hcall
  | error fault m'' =>
      rw [Run.map_of_error hinvoke] at hcall
      cases hcall
      rw [hinvoke] at hsteps
      exact absurd hsteps (Nat.lt_irrefl _)

/-- An optional call of nothing is refused by another receiver, if it has no method of the name. -/
theorem not_callsAgree_of_isNullish {scene : Scene} (h : a.Reads scene m receiver key v m')
    (hreceiver : ∀ address, receiver ≠ .object address) (hnullish : v.isNullish = true)
    (hmethod : Builtin.isMethod receiver key = false) :
    ¬ a.CallsAgree scene m receiver key v m' := by
  intro hagree
  have hcall := h.evaluate_call_of_not_isMethod hreceiver hmethod ⟨0, 0⟩ true
  have hchain := hagree.cut hnullish hmethod ⟨0, 0⟩ [] _ ⟨0, 0⟩ .refl
  rw [evaluate_chain_of_error hcall rfl] at hchain
  cases hchain

end Access.Reads

/-- Calls of a member agree with reading it exactly if the receiver is an object, or what is read is
no function, and nothing at all only under the name of a method. -/
theorem member_calls_agree_iff {source : String} {free : Nat} {a : Access} {m m' : Machine}
    {receiver v : Value} {key : String}
    (h : a.Reads ⟨source, invoke source free⟩ m receiver key v m') :
    a.CallsAgree ⟨source, invoke source free⟩ m receiver key v m' ↔
      (∃ address, receiver = .object address) ∨
        (∀ f, v ≠ .function f) ∧ (v.isNullish = true → Builtin.isMethod receiver key = true) := by
  constructor
  · intro hagree
    refine or_iff_not_imp_left.2 fun hobject => ⟨?_, fun hnullish => ?_⟩
    · rintro f rfl
      exact h.not_callsAgree_of_function (not_exists.1 hobject) hagree
    · refine (Bool.eq_false_or_eq_true _).resolve_right fun hmethod => ?_
      exact h.not_callsAgree_of_isNullish (not_exists.1 hobject) hnullish hmethod hagree
  · rintro (⟨address, rfl⟩ | ⟨hfunction, hnullish⟩)
    · exact h.callsAgree_of_object
    · constructor
      · intro f hf
        exact absurd hf (hfunction f)
      · intro hnone hmethod
        rw [hnullish hnone] at hmethod
        cases hmethod

/-! ## A function in an object and in an array -/

/-- A machine on which `o` is an object that holds a function `f`, and `a` an array of which it is
the first element. -/
def holding : Machine :=
  let f := Value.function ⟨0, 0, "f"⟩
  { Machine.initial with
    heap := ⟨#[#[f]], #[⟨#[("f", f)], by decide⟩]⟩
    global := ⟨#[("o", .object 0), ("a", .array 0)], by decide⟩ }

/-- The access `o.f`. -/
def heldByObject : Access where
  span := ⟨0, 3⟩
  object := .name ⟨0, 1⟩ "o"
  selector := .dot ⟨⟨2, 3⟩, "f"⟩
  link := false

theorem member_calls_agree_heldByObject :
    ∃ receiver key v, heldByObject.Reads (.ofSource "") holding receiver key v holding ∧
      heldByObject.CallsAgree (.ofSource "") holding receiver key v holding := by
  have hreads : heldByObject.Reads (.ofSource "") holding (.object 0) "f"
      (.function ⟨0, 0, "f"⟩) holding := ⟨⟨holding, rfl, rfl⟩, rfl⟩
  exact ⟨_, _, _, hreads, (member_calls_agree_iff hreads).2 (.inl ⟨0, rfl⟩)⟩

/-- The access `a[0]`. -/
def heldByArray : Access where
  span := ⟨0, 4⟩
  object := .name ⟨0, 1⟩ "a"
  selector := .bracket (.string ⟨2, 3⟩ "0")
  link := false

/-- A program that calls an element of an array, and one that does so in parentheses. -/
def elementCalled : String :=
  "var x = 'x'; var a = [function () { return x; }]; exports.include = [a[0]()];"

def elementCalledInParens : String :=
  "var x = 'x'; var a = [function () { return x; }]; exports.include = [(a[0])()];"

/-- Calls of members do not always agree with reading them. -/
theorem not_member_calls_agree :
    (∃ receiver key v, heldByArray.Reads (.ofSource "") holding receiver key v holding ∧
      ¬ heldByArray.CallsAgree (.ofSource "") holding receiver key v holding) ∧
    describe elementCalled = .error (.fault (.exception (.type (.noMethod "array" "0")))) ∧
    describe elementCalledInParens = .ok ⟨[], ["x"], none, none⟩ := by
  have hreads : heldByArray.Reads (.ofSource "") holding (.array 0) "0"
      (.function ⟨0, 0, "f"⟩) holding := ⟨⟨holding, rfl, rfl⟩, rfl⟩
  have hrefused : faultOf? (describe elementCalled) =
      some (.exception (.type (.noMethod "array" "0"))) := by decide +kernel
  have hcalled : (describe elementCalledInParens).toOption = some ⟨[], ["x"], none, none⟩ := by
    decide +kernel
  exact ⟨⟨_, _, _, hreads, hreads.not_callsAgree_of_function nofun⟩,
    eq_error_of_faultOf? hrefused, describe_eq_ok hcalled⟩

end ScopedViews.Sandbox
