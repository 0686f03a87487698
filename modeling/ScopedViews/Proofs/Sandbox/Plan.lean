import Mathlib.Logic.Relation
import ScopedViews.Sandbox.Execute
/-!
# How evaluations are put together

A computation of the evaluator is a function of the machine, and nothing in it shows what it does
on the way.  A plan of a computation says how it is put together: from small computations, by doing
one after another, by frames and by `try` statements.  The points of an evaluation are the parts of
its plan that are reached, each with the machine that it starts on.

* `Leaf`: the small computations, which call no function and handle no fault;
* `Plan`: how a computation is put together from them;
* `Next`, `Reaches`: the points of an evaluation;
* `Pending`: what a `try` statement has come to where its finalizer starts.
-/

namespace ScopedViews.Sandbox

open Script

namespace Builtin

def Visit.name : Visit → String
  | .map => "map"
  | .filter => "filter"
  | .forEach => "forEach"
  | .some => "some"
  | .every => "every"
  | .find => "find"

/-- The visit of all elements that a method of arrays is. -/
def visitNamed? (method : String) : Option Visit :=
  [Visit.map, .filter, .forEach, .some, .every, .find].find? (·.name == method)

/-- Whether a method of a value calls functions that it is given. -/
def callsBack : Value → String → Bool
  | .array _, method => (visitNamed? method).isSome || method == "reduce"
  | .string _, method => method == "replace"
  | .function _, method => method == "call" || method == "apply"
  | _, _ => false

end Builtin

/-- Computations that neither call a function nor handle a fault. -/
inductive Leaf : {α : Type} → Run α → Prop
  | pure {α : Type} (a : α) : Leaf (pure a)
  | raise {α : Type} (e : Exception) : Leaf (Run.raise e : Run α)
  | halt {α : Type} (h : Halt) : Leaf (Run.halt h : Run α)
  | view {α : Type} (f : Machine → α) : Leaf (Run.view f)
  | tick : Leaf Run.tick
  | define (name : String) (v : Value) : Leaf (Run.define name v)
  | lookup (name : String) : Leaf (Run.lookup name)
  | checkLength (s : String) : Leaf (Run.checkLength s)
  | checkString (s : String) : Leaf (Run.checkString s)
  | reserve (present extra : Nat) : Leaf (Run.reserve present extra)
  | iterate (v : Value) : Leaf (Run.iterate v)
  | readProperty (v : Value) (key : String) : Leaf (Run.readProperty v key)
  | newArray (items : Array Value) : Leaf (Run.newArray items)
  | newObject (members : Properties) : Leaf (Run.newObject members)
  | makeFunction (f : Script.Function) (start : Nat) (source : String) :
      Leaf (Run.makeFunction f start source)
  | applyUnary (op : UnaryOp) (v : Value) : Leaf (applyUnary op v)
  | applyBinary (op : BinaryOp) (left right : Value) (span : Span) :
      Leaf (applyBinary op left right span)
  | read (p : Place) : Leaf p.read
  | write (p : Place) (x : Value) : Leaf (p.write x)
  | appendQuasis (quasis : List Quasi) (text : String) : Leaf (appendQuasis quasis text)
  | argumentList (v : Value) : Leaf (Builtin.argumentList v)
  | callStatic (owner method : String) (args : Array Value) :
      Leaf (Builtin.callStatic owner method args)
  | callMethod {invoke : Invoke} {receiver : Value} {method : String} (args : Array Value)
      (h : Builtin.callsBack receiver method = false) :
      Leaf (Builtin.callMethod invoke receiver method args)
  | convert {name : String} {args : Array Value} {m : Run Value}
      (h : Builtin.convert? name args = some m) : Leaf m
  | finish (visit : Builtin.Visit) (out : Array Value) : Leaf (visit.finish out)
  | hoist (scene : Scene) (body : List Stmt) : Leaf (hoist scene body)
  | bindCaught (param : Option Pattern) (text : String) : Leaf (bindCaught param text)
  | definitionAt (start : Nat) : Leaf (definitionAt start)

theorem Leaf.text (v : Value) : Leaf (Run.text v) := .view _

/-- A `try` statement in a scene. -/
structure TryStatement where
  scene : Scene
  span : Span
  block : Stmt
  param : Option Pattern
  handler : Option Stmt
  finalizer : Option Stmt

namespace TryStatement

def run (t : TryStatement) : Run Flow :=
  execute t.scene (.tryCatch t.span t.block t.param t.handler t.finalizer)

def runBlock (t : TryStatement) : Run Flow := execute t.scene t.block

def runHandler (t : TryStatement) : Run Flow := executeOption t.scene t.handler

/-- A finalizer that is missing does nothing. -/
def runFinalizer (t : TryStatement) : Run Flow := executeOption t.scene t.finalizer

/-- How the handler takes an exception. -/
def take (t : TryStatement) (e : Exception) : Run Unit := bindCaught t.param e.caught

end TryStatement

/-- How a computation is put together. -/
inductive Plan : {α : Type} → Run α → Type 1
  | leaf {α : Type} {x : Run α} (h : Leaf x) : Plan x
  | bind {α β : Type} {x : Run α} {k : α → Run β} (first : Plan x) (next : ∀ a, Plan (k a)) :
      Plan (x >>= k)
  | map {α β : Type} {x : Run α} (f : α → β) (inner : Plan x) : Plan (f <$> x)
  | frame {α : Type} {x : Run α} (inner : Plan x) : Plan (Run.withFrame x)
  | attempt (t : TryStatement) (block : Plan t.runBlock) (handler : Plan t.runHandler)
      (finalizer : Plan t.runFinalizer) : Plan t.run

namespace Plan

def value {α : Type} (a : α) : Plan (Pure.pure a : Run α) := .leaf (.pure a)

def ofEq {α : Type} {x y : Run α} (h : x = y) (p : Plan y) : Plan x := h ▸ p

def choose {α : Type} {c : Prop} [d : Decidable c] {x y : Run α} (yes : Plan x) (no : Plan y) :
    Plan (if c then x else y) :=
  match d with
  | .isTrue _ => yes
  | .isFalse _ => no

end Plan

/-! ## Running composed computations -/

namespace Run

variable {α β : Type} {x : Run α} {m m' : Machine}

theorem bind_of_ok {k : α → Run β} {a : α} (h : x m = .ok a m') : (x >>= k) m = k a m' := by
  show EStateM.bind x k m = _
  simp only [EStateM.bind, h]

theorem bind_of_error {k : α → Run β} {fault : Fault} (h : x m = .error fault m') :
    (x >>= k) m = .error fault m' := by
  show EStateM.bind x k m = _
  simp only [EStateM.bind, h]

theorem map_of_error {f : α → β} {fault : Fault} (h : x m = .error fault m') :
    (f <$> x) m = .error fault m' := by
  show EStateM.map f x m = _
  simp only [EStateM.map, h]

theorem withFrame_of_error {fault : Fault}
    (h : x { m with locals := .empty :: m.locals } = .error fault m') :
    withFrame x m = .error fault { m' with locals := m'.locals.drop 1 } := by
  simp only [withFrame, h]

/-- A name that is bound has the value that it is bound to. -/
theorem lookup_of_find? {name : String} {v : Value} (h : find? name m = some v) :
    lookup name m = .ok v m := by
  have hview : view (find? name) m = .ok (some v) m := by simp only [view, h]
  exact bind_of_ok hview

end Run

/-! ## Points of an evaluation -/

/-- A part of an evaluation and the machine that it starts on. -/
structure Point where
  {α : Type}
  {run : Run α}
  plan : Plan run
  machine : Machine

/-- What block and handler of a `try` statement have come to, and the machine on which the finalizer
starts then.  It does not start where the block ends in a halt, where there is no handler for its
exception, or where the handler cannot take it. -/
inductive Pending (t : TryStatement) (m : Machine) : Except Fault Flow → Machine → Prop
  | done {flow : Flow} {m' : Machine} (hblock : t.runBlock m = .ok flow m') :
      Pending t m (.ok flow) m'
  | handled {e : Exception} {flow : Flow} {m₁ m₂ m' : Machine}
      (hblock : t.runBlock m = .error (.exception e) m₁) (hhandler : t.handler.isSome = true)
      (htake : t.take e m₁ = .ok () m₂) (hrun : t.runHandler m₂ = .ok flow m') :
      Pending t m (.ok flow) m'
  | failed {e : Exception} {fault : Fault} {m₁ m₂ m' : Machine}
      (hblock : t.runBlock m = .error (.exception e) m₁) (hhandler : t.handler.isSome = true)
      (htake : t.take e m₁ = .ok () m₂) (hrun : t.runHandler m₂ = .error fault m') :
      Pending t m (.error fault) m'

/-- The parts that are reached from a point directly. -/
inductive Next : Point → Point → Prop
  | first {α β : Type} {x : Run α} {k : α → Run β} {first : Plan x} {next : ∀ a, Plan (k a)}
      {m : Machine} : Next ⟨.bind first next, m⟩ ⟨first, m⟩
  | next {α β : Type} {x : Run α} {k : α → Run β} {first : Plan x} {next : ∀ a, Plan (k a)}
      {m m' : Machine} {a : α} (hfirst : x m = .ok a m') :
      Next ⟨.bind first next, m⟩ ⟨next a, m'⟩
  | map {α β : Type} {x : Run α} {f : α → β} {inner : Plan x} {m : Machine} :
      Next ⟨.map f inner, m⟩ ⟨inner, m⟩
  | frame {α : Type} {x : Run α} {inner : Plan x} {m : Machine} :
      Next ⟨.frame inner, m⟩ ⟨inner, { m with locals := .empty :: m.locals }⟩
  | block {t : TryStatement} {block : Plan t.runBlock} {handler : Plan t.runHandler}
      {finalizer : Plan t.runFinalizer} {m : Machine} :
      Next ⟨.attempt t block handler finalizer, m⟩ ⟨block, m⟩
  | take {t : TryStatement} {block : Plan t.runBlock} {handler : Plan t.runHandler}
      {finalizer : Plan t.runFinalizer} {m m₁ : Machine} {e : Exception}
      (hblock : t.runBlock m = .error (.exception e) m₁) (hhandler : t.handler.isSome = true) :
      Next ⟨.attempt t block handler finalizer, m⟩ ⟨.leaf (.bindCaught t.param e.caught), m₁⟩
  | handler {t : TryStatement} {block : Plan t.runBlock} {handler : Plan t.runHandler}
      {finalizer : Plan t.runFinalizer} {m m₁ m₂ : Machine} {e : Exception}
      (hblock : t.runBlock m = .error (.exception e) m₁) (hhandler : t.handler.isSome = true)
      (htake : t.take e m₁ = .ok () m₂) :
      Next ⟨.attempt t block handler finalizer, m⟩ ⟨handler, m₂⟩
  | finalizer {t : TryStatement} {block : Plan t.runBlock} {handler : Plan t.runHandler}
      {finalizer : Plan t.runFinalizer} {m m' : Machine} {pending : Except Fault Flow}
      (hpending : Pending t m pending m') :
      Next ⟨.attempt t block handler finalizer, m⟩ ⟨finalizer, m'⟩

/-- All parts that are reached from a point, and itself. -/
abbrev Reaches : Point → Point → Prop := Relation.ReflTransGen Next

end ScopedViews.Sandbox
