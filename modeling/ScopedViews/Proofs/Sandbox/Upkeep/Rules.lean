import ScopedViews.Proofs.Sandbox.Methods
import ScopedViews.Proofs.Sandbox.Trace
/-!
# Laws along an evaluation

What an evaluation holds is kept admitted from point to point, as long as those points respect the
law at which a string or an array is built and nothing looks at its size.  On the way the counter
explains every report that the budget is spent, and an evaluation with a number of free frames puts
up no more frames than these.

A law may say of functions that they start where one is registered at a certain moment.  Later on
more of them are registered than such a law admits, and nothing is claimed any more.  Since nothing
is taken back, all that comes before that moment is within the law.

* `Plan.All`: what holds at all points of an evaluation;
* `Unchecked`, `Builds`: where strings and arrays are built that nothing looks at;
* `Law.Stands`, `Law.Upholds`: what a law comes to at a point;
* `Plan.Sound`: plans along which a law is kept;
* the lemmas `sound_…`: the rules by which plans are.
-/

namespace ScopedViews.Sandbox

open Script

/-! ## All points of an evaluation -/

/-- A property of all points that an evaluation reaches. -/
def Plan.All (P : Point → Prop) : {α : Type} → {x : Run α} → Plan x → Machine → Prop
  | _, _, .leaf h, m => P ⟨.leaf h, m⟩
  | _, _, @Plan.bind _ _ x _ first next, m =>
    P ⟨.bind first next, m⟩ ∧ first.All P m ∧ ∀ a m', x m = .ok a m' → (next a).All P m'
  | _, _, .map f inner, m => P ⟨.map f inner, m⟩ ∧ inner.All P m
  | _, _, .frame inner, m =>
    P ⟨.frame inner, m⟩ ∧ inner.All P { m with locals := .empty :: m.locals }
  | _, _, .attempt t block handler finalizer, m =>
    P ⟨.attempt t block handler finalizer, m⟩ ∧ block.All P m ∧
      (∀ e m₁, t.runBlock m = .error (.exception e) m₁ → t.handler.isSome = true →
        P ⟨.leaf (.bindCaught t.param e.caught), m₁⟩ ∧
          ∀ m₂, t.take e m₁ = .ok () m₂ → handler.All P m₂) ∧
      ∀ pending m', Pending t m pending m' → finalizer.All P m'

namespace Plan

variable {P : Point → Prop} {α : Type} {x : Run α}

theorem All.self {p : Plan x} {m : Machine} (h : p.All P m) : P ⟨p, m⟩ := by
  cases p with
  | leaf => exact h
  | bind | map | frame | attempt => exact h.1

theorem all_of_next {p q : Point} (hnext : Next p q) (h : p.plan.All P p.machine) :
    q.plan.All P q.machine := by
  cases hnext with
  | first => exact h.2.1
  | next hfirst => exact h.2.2 _ _ hfirst
  | map => exact h.2
  | frame => exact h.2
  | block => exact h.2.1
  | take hblock hhandler => exact (h.2.2.1 _ _ hblock hhandler).1
  | handler hblock hhandler htake => exact (h.2.2.1 _ _ hblock hhandler).2 _ htake
  | finalizer hpending => exact h.2.2.2 _ _ hpending

/-- What holds along a plan holds at every point that is reached. -/
theorem All.of_reaches {p q : Point} (hreaches : Reaches p q) (h : p.plan.All P p.machine) :
    q.plan.All P q.machine := by
  induction hreaches with
  | refl => exact h
  | tail _ hnext ih => exact all_of_next hnext ih

theorem all_intro (p : Plan x) {m : Machine} (h : ∀ q, Reaches ⟨p, m⟩ q → P q) : p.All P m := by
  induction p generalizing m with
  | leaf => exact h _ .refl
  | bind first next ihfirst ihnext =>
      refine ⟨h _ .refl, ihfirst fun q hq => h q (.head .first hq), fun a m' hx => ?_⟩
      exact ihnext a fun q hq => h q (.head (.next hx) hq)
  | map f inner ih => exact ⟨h _ .refl, ih fun q hq => h q (.head .map hq)⟩
  | frame inner ih => exact ⟨h _ .refl, ih fun q hq => h q (.head .frame hq)⟩
  | attempt t block handler finalizer ihblock ihhandler ihfinalizer =>
      refine ⟨h _ .refl, ihblock fun q hq => h q (.head .block hq), ?_, ?_⟩
      · intro e m₁ hblock hhandler
        refine ⟨h _ (.single (.take hblock hhandler)), fun m₂ htake => ?_⟩
        exact ihhandler fun q hq => h q (.head (.handler hblock hhandler htake) hq)
      · intro pending m' hpending
        exact ihfinalizer fun q hq => h q (.head (.finalizer hpending) hq)

theorem all_iff (p : Plan x) {m : Machine} : p.All P m ↔ ∀ q, Reaches ⟨p, m⟩ q → P q := by
  constructor
  · intro h q hq
    exact (All.of_reaches hq h).self
  · exact p.all_intro

theorem All.imp {P' : Point → Prop} {p : Plan x} {m : Machine} (h : p.All P m)
    (himp : ∀ q, P q → P' q) : p.All P' m :=
  p.all_intro fun q hq => himp q (p.all_iff.1 h q hq)

end Plan

/-! ## Where nothing looks at a size -/

/-- Strings that are built at a point and of which nothing looks at the length: by a conversion, by
a method that does not check it, as part of a string, as what a replacement is asked for, as the
name of a property and as the text of an exception. -/
inductive Unchecked : Point → String → Prop
  | converted {name : String} {args : Array Value} {x : Run Value} {m m' : Machine} {t : String}
      (h : Builtin.convert? name args = some x) (hx : x m = .ok (.string t) m') :
      Unchecked ⟨.leaf (.convert h), m⟩ t
  | answered {invoke : Invoke} {receiver : Value} {method : String} {args : Array Value}
      {m m' : Machine} {t : String} (h : Builtin.callsBack receiver method = false)
      (hmethod : Builtin.isUnchecked receiver method = true)
      (hx : Builtin.callMethod invoke receiver method args m = .ok (.string t) m') :
      Unchecked ⟨.leaf (@Leaf.callMethod invoke _ _ args h), m⟩ t
  | part {invoke : Invoke} {s : String} {args : Array Value} {m m' : Machine} {address : Nat}
      {t : String} (h : Builtin.callsBack (.string s) "split" = false)
      (hx : Builtin.callMethod invoke (.string s) "split" args m = .ok (.array address) m')
      (ht : Value.string t ∈ m'.heap.elements address) :
      Unchecked ⟨.leaf (@Leaf.callMethod invoke _ _ args h), m⟩ t
  | sought {invoke : Invoke} {calls : Calls invoke} {s : String} {args : Array Value} {m : Machine}
      {f : FunctionRef} {i : Nat} (hf : Builtin.argument args 1 = .function f)
      (hi : Text.find? ((Builtin.argument args 0).toText m.heap).toList s.toList = some i) :
      Unchecked ⟨.callString calls s "replace" args, m⟩ ((Builtin.argument args 0).toText m.heap)
  | listed {args : Array Value} {m : Machine} {key : String}
      (hkey : key ∈ (Builtin.argument args 0).keys m.heap) :
      Unchecked ⟨.leaf (.callStatic "Object" "keys" args), m⟩ key
  | visited {v : Value} {m : Machine} {key : String} (hkey : key ∈ v.keys m.heap) :
      Unchecked ⟨.leaf (.view fun m => v.keys m.heap), m⟩ key
  | caught {span : Span} {name text : String} {m : Machine} :
      Unchecked ⟨.leaf (.bindCaught (some (.name span name)) text), m⟩ text

/-- Arrays that are built at a point and of which nothing looks at the size: those of literals, of
arguments and of rest parameters, and those that list an object. -/
inductive Builds : Point → Nat → Prop
  | array {items : Array Value} {m : Machine} : Builds ⟨.leaf (.newArray items), m⟩ items.size
  | listed {method : String} {args : Array Value} {m : Machine}
      (hmethod : method = "keys" ∨ method = "values") :
      Builds ⟨.leaf (.callStatic "Object" method args), m⟩
        ((Builtin.argument args 0).keys m.heap).length

/-- Where a loop has used up its rounds. -/
def Plan.Exhausted : {α : Type} → {x : Run α} → Plan x → Prop
  | _, x, .leaf _ => x = Run.halt .stepLimit
  | _, _, .bind _ _ | _, _, .map _ _ | _, _, .frame _ | _, _, .attempt _ _ _ _ => False

/-- Where a function is looked up and not found. -/
def Plan.Misses : {α : Type} → {x : Run α} → Plan x → Machine → Prop
  | _, x, .leaf _, m => ∃ m', x m = .error (.exception (.type .unknownFunction)) m'
  | _, _, .bind _ _, _ | _, _, .map _ _, _ | _, _, .frame _, _ | _, _, .attempt _ _ _ _, _ => False

namespace Law

/-- What is built at a point and not looked at is admitted. -/
structure Respects (L : Law) (q : Point) : Prop where
  text : ∀ t, Unchecked q t → L.text t
  size : ∀ n, Builds q n → L.size n

theorem Respects.imp {L L' : Law} {q : Point} (h : L.Respects q)
    (htext : ∀ s, L.text s → L'.text s) (hsize : ∀ n, L.size n → L'.size n) : L'.Respects q where
  text t ht := htext t (h.text t ht)
  size n hn := hsize n (h.size n hn)

/-- A law is held to at an end, and the budget is said to be spent only if it is. -/
structure Ends (L : Law) {α : Type} (r : Ending α) : Prop where
  holds : L.Holds (Ending.machine r)
  spent : ∀ m', r = .error (.halt .stepLimit) m' → maxSteps < m'.steps

theorem Ends.passed {L : Law} {α β : Type} {fault : Fault} {m : Machine}
    (h : L.Ends (.error fault m : Ending α)) : L.Ends (.error fault m : Ending β) := by
  refine ⟨h.holds, fun m' hspent => ?_⟩
  cases hspent
  exact h.spent m rfl

/-- A law is held to where a point starts and where it ends, and no loop has used up its rounds. -/
structure Fine (L : Law) (q : Point) : Prop where
  before : L.Holds q.machine
  after : L.Ends (q.run q.machine)
  unbounded : ¬ q.plan.Exhausted

/-- A point that is within a law, and ends within it unless more functions have been registered then
than the law admits.  A function that is not found may be called, but has not been registered. -/
structure Stands (L : Law) (q : Point) : Prop where
  before : L.Holds q.machine
  after : L.Live q.after → L.Ends (q.run q.machine)
  unbounded : ¬ q.plan.Exhausted
  frames : L.frames q.machine.depth
  known : q.plan.Misses q.machine → ∃ start, L.start start ∧ start ∉ q.machine.starts

/-- A law holds at a point, unless more functions are registered than it admits. -/
def Upholds (L : Law) (q : Point) : Prop := L.Live q.machine → L.Stands q

/-- A machine on which an evaluation can start that puts up a number of frames at most. -/
structure Ready (L : Law) (free : Nat) (m : Machine) : Prop where
  holds : L.Live m → L.Holds m
  room : ∀ n ≤ free, L.frames (m.depth + n)

theorem Ready.frames {L : Law} {free : Nat} {m : Machine} (h : L.Ready free m) :
    L.frames m.depth :=
  h.room 0 (Nat.zero_le _)

section Lenient

variable {L : Law} [hlenient : L.Lenient]

theorem live_of_lenient (m : Machine) : L.Live m := fun start _ => hlenient.start start

theorem reads_of_lenient (source : String) : L.Reads source := fun _ _ _ => hlenient.function _

theorem ready_of_lenient {free : Nat} {m : Machine} (h : L.Holds m) : L.Ready free m :=
  ⟨fun _ => h, fun _ _ => hlenient.frames _⟩

theorem allows_of_lenient {literals : List String} (h : ∀ s ∈ literals, L.text s)
    (definitions : List Definition) : L.Allows literals definitions :=
  ⟨h, fun d _ => hlenient.definition d⟩

theorem Upholds.fine {q : Point} (h : L.Upholds q) : L.Fine q := by
  have hstands := h (live_of_lenient q.machine)
  exact ⟨hstands.before, hstands.after (live_of_lenient _), hstands.unbounded⟩

end Lenient

end Law

/-- Along a plan a law is kept, if it is respected, and what comes of the plan is good. -/
def Plan.Sound {α : Type} {x : Run α} (p : Plan x) (L : Law) (free : Nat) (good : α → Prop)
    (m : Machine) : Prop :=
  L.Ready free m → p.All L.Respects m →
    p.All L.Upholds m ∧ ∀ a m', x m = .ok a m' → L.Live m' → good a

namespace Plan

variable {L : Law} {free : Nat} {α β : Type} {x : Run α} {good : α → Prop} {good' : β → Prop}
  {m m' : Machine}

theorem All.ends {p : Plan x} {r : Ending α} (h : p.All L.Upholds m) (hx : x m = r)
    (hlive : L.Live (Ending.machine r)) : L.Ends r := by
  subst hx
  exact (h.self (hlive.of_precedes (p.returns m).toPrecedes)).after hlive

/-- Where a part ends, another one can start. -/
theorem ready_of_end {p : Plan x} {r : Ending α} (hm : L.Ready free m) (h : p.All L.Upholds m)
    (hx : x m = r) : L.Ready free (Ending.machine r) where
  holds hlive := (h.ends hx hlive).holds
  room := by
    rw [(p.returns_of_end hx).depth]
    exact hm.room

/-- Where more functions are registered than a law admits, nothing is claimed. -/
theorem upholds_of_not_live {p : Plan x} (h : ¬ L.Live m) : p.All L.Upholds m :=
  p.all_intro fun _ hq hlive => absurd (hlive.of_precedes (Reaches.precedes hq)) h

/-! ## Rules -/

/-- To use up its rounds is to report the budget spent wherever one starts, which charges never
do. -/
theorem not_exhausted {h : Leaf x} (hmetered : Metered x) : ¬ (leaf h).Exhausted := by
  intro hexhausted
  obtain rfl : x = Run.halt .stepLimit := hexhausted
  have hspent : maxSteps < 0 := hmetered.spent (m := .initial) rfl
  exact Nat.not_lt_zero _ hspent

/-- A plan is reached where it starts, and there it respects the law. -/
theorem sound_self {p : Plan x} (hp : L.Respects ⟨p, m⟩ → p.Sound L free good m) :
    p.Sound L free good m :=
  fun hm hall => hp hall.self hm hall

/-- Where a small computation ends within the law, it may rely on that. -/
theorem sound_leaf_of_live {h : Leaf x} (hmetered : Metered x)
    (hkeeps : L.Respects ⟨.leaf h, m⟩ → L.Live (Ending.machine (x m)) → L.Keeps good x m) :
    (leaf h).Sound L free good m := by
  intro hm hall
  refine ⟨fun hlive => ?_, fun a m' ha hlive' => ?_⟩
  · exact
      { before := hm.holds hlive
        after := fun hafter =>
          ⟨(hkeeps hall hafter (hm.holds hlive)).1, fun m' hspent => hmetered.spent hspent⟩
        unbounded := not_exhausted hmetered
        frames := hm.frames
        known := fun ⟨m', hmisses⟩ => absurd hmisses (hmetered.known m m') }
  · have hafter : L.Live (Ending.machine (x m)) := by
      rw [ha]
      exact hlive'
    have hlive := hafter.of_precedes (hmetered.returns m).toPrecedes
    exact (hkeeps hall hafter (hm.holds hlive)).2 a m' ha

theorem sound_leaf {h : Leaf x} (hmetered : Metered x)
    (hkeeps : L.Respects ⟨.leaf h, m⟩ → L.Keeps good x m) : (leaf h).Sound L free good m :=
  sound_leaf_of_live hmetered fun hrespects _ => hkeeps hrespects

theorem sound_bind {first : Plan x} {k : α → Run β} {next : ∀ a, Plan (k a)}
    (hfirst : first.Sound L free good m)
    (hnext : ∀ a m', x m = .ok a m' → good a → (next a).Sound L free good' m') :
    (bind first next).Sound L free good' m := by
  intro hm hall
  obtain ⟨-, hallfirst, hallnext⟩ := hall
  obtain ⟨hupholds, hgood⟩ := hfirst hm hallfirst
  have hrest {a : α} {m' : Machine} (hx : x m = .ok a m') (hlive : L.Live m') :=
    hnext a m' hx (hgood a m' hx hlive) (ready_of_end hm hupholds hx) (hallnext a m' hx)
  have hback {a : α} {m' : Machine} (hlive : L.Live (Ending.machine (k a m'))) : L.Live m' :=
    hlive.of_precedes ((next a).returns m').toPrecedes
  refine ⟨⟨fun hlive => ⟨hm.holds hlive, fun hafter => ?_, id, hm.frames, False.elim⟩, hupholds,
    fun a m' hx => ?_⟩, fun b m'' hb hlive => ?_⟩
  · show L.Ends ((x >>= k) m)
    have hafter : L.Live (Ending.machine ((x >>= k) m)) := hafter
    cases hx : x m with
    | ok a m' =>
        rw [Run.bind_of_ok hx] at hafter ⊢
        exact (hrest hx (hback hafter)).1.ends rfl hafter
    | error fault m' =>
        rw [Run.bind_of_error hx] at hafter ⊢
        exact (hupholds.ends hx hafter).passed
  · by_cases hlive : L.Live m'
    · exact (hrest hx hlive).1
    · exact upholds_of_not_live hlive
  · cases hx : x m with
    | ok a m' =>
        rw [Run.bind_of_ok hx] at hb
        have hlive' : L.Live m' := by
          refine hback (a := a) ?_
          rw [hb]
          exact hlive
        exact (hrest hx hlive').2 b m'' hb hlive
    | error fault m' =>
        rw [Run.bind_of_error hx] at hb
        cases hb

theorem sound_map {inner : Plan x} {f : α → β} (hinner : inner.Sound L free good m)
    (hf : ∀ a, good a → good' (f a)) : (map f inner).Sound L free good' m := by
  intro hm hall
  obtain ⟨hupholds, hgood⟩ := hinner hm hall.2
  suffices hrest : (L.Live (Ending.machine ((f <$> x) m)) → L.Ends ((f <$> x) m)) ∧
      ∀ b m', (f <$> x) m = .ok b m' → L.Live m' → good' b from
    ⟨⟨fun hlive => ⟨hm.holds hlive, hrest.1, id, hm.frames, False.elim⟩, hupholds⟩, hrest.2⟩
  cases hx : x m with
  | ok a m' =>
      rw [Run.map_of_ok hx]
      refine ⟨fun hlive => ⟨(hupholds.ends hx hlive).holds, nofun⟩, fun b m'' hb hlive => ?_⟩
      cases hb
      exact hf a (hgood a m' hx hlive)
  | error fault m' =>
      rw [Run.map_of_error hx]
      exact ⟨fun hlive => (hupholds.ends hx hlive).passed, nofun⟩

/-- The frame of a call holds nothing at first, and leaves nothing behind. -/
theorem sound_frame {inner : Plan x} (hinner : ∀ m, inner.Sound L free good m) :
    (frame inner).Sound L (free + 1) good m := by
  intro hm hall
  have hpushed : L.Ready free m.push := by
    refine ⟨fun hlive => ?_, fun n hn => ?_⟩
    · obtain ⟨harrays, hobjects, hlocals, hglobal, hfunctions⟩ := hm.holds hlive
      refine ⟨harrays, hobjects, fun f hf => ?_, hglobal, hfunctions⟩
      rcases List.mem_cons.1 hf with rfl | hf
      · exact Law.admitsAll_empty
      · exact hlocals f hf
    · have hdepth : m.push.depth + n = m.depth + (n + 1) := by
        show m.depth + 1 + n = m.depth + (n + 1)
        omega
      rw [hdepth]
      exact hm.room (n + 1) (Nat.succ_le_succ hn)
  obtain ⟨hupholds, hgood⟩ := hinner _ hpushed hall.2
  have hpopped {m' : Machine} (hm' : L.Holds m') : L.Holds m'.pop :=
    ⟨hm'.arrays, hm'.objects, fun f hf => hm'.locals f (List.mem_of_mem_drop hf), hm'.global,
      hm'.functions⟩
  suffices hrest : (L.Live (Ending.machine (Run.withFrame x m)) → L.Ends (Run.withFrame x m)) ∧
      ∀ b m', Run.withFrame x m = .ok b m' → L.Live m' → good b from
    ⟨⟨fun hlive => ⟨hm.holds hlive, hrest.1, id, hm.frames, False.elim⟩, hupholds⟩, hrest.2⟩
  unfold Run.withFrame
  cases hx : x m.push with
  | ok a m' =>
      refine ⟨fun hlive => ⟨hpopped (hupholds.ends hx hlive).holds, nofun⟩,
        fun b m'' hb hlive => ?_⟩
      cases hb
      exact hgood a m' hx hlive
  | error fault m' =>
      refine ⟨fun hlive => ⟨hpopped (hupholds.ends hx hlive).holds, fun m'' hspent => ?_⟩, nofun⟩
      cases hspent
      exact (hupholds.ends hx hlive).spent m' rfl

theorem sound_ofEq {y : Run α} {h : x = y} {p : Plan y} (hp : p.Sound L free good m) :
    (ofEq h p).Sound L free good m := by
  subst h
  exact hp

theorem sound_choose {c : Prop} [d : Decidable c] {y : Run α} {yes : Plan x} {no : Plan y}
    (hyes : c → yes.Sound L free good m) (hno : ¬ c → no.Sound L free good m) :
    (choose yes no : Plan (if c then x else y)).Sound L free good m := by
  cases d with
  | isTrue h => exact hyes h
  | isFalse h => exact hno h

/-- A function that is called may be called, so that one that is not found is one that the law
admits. -/
theorem sound_definitionAt {start : Nat} (hstart : L.start start) :
    (leaf (.definitionAt start)).Sound L free (fun f => L.Allows f.literals f.definitions) m := by
  intro hm hall
  have hkeeps := Law.keeps_definitionAt start (L := L) (m := m)
  refine ⟨fun hlive => ?_, fun f m' hf hlive => ?_⟩
  · exact
      { before := hm.holds hlive
        after := fun _ => ⟨(hkeeps (hm.holds hlive)).1, fun m' h => absurd h definitionAt_ne_halt⟩
        unbounded := fun h => definitionAt_ne_halt (congrFun h m)
        frames := hm.frames
        known := fun ⟨m', hmisses⟩ => ⟨start, hstart, not_mem_starts_of_error hmisses⟩ }
  · have hrests := definitionAt_rests start m
    rw [hf] at hrests
    obtain rfl : m' = m := hrests
    exact (hkeeps (hm.holds hlive)).2 f m' hf

/-! ## `try` statements -/

theorem sound_bindCaught (param : Option Pattern) (text : String) :
    (leaf (.bindCaught param text)).Sound L free (fun _ => True) m := by
  refine sound_leaf (.bindCaught param text) fun hrespects => Law.keeps_bindCaught ?_
  rintro span name rfl
  exact hrespects.text text .caught

/-- The value that a statement is left with, if it is left with one, is admitted. -/
def Carries (L : Law) (flow : Flow) : Prop := ∀ v, flow = .returned v → L.Admits v

/-- What a `try` statement has come to where its finalizer starts. -/
structure Awaits (L : Law) (pending : Except Fault Flow) (m : Machine) : Prop where
  carries : ∀ flow, pending = .ok flow → Carries L flow
  spent : pending = .error (.halt .stepLimit) → maxSteps < m.steps

section Attempt

variable {t : TryStatement} {block : Plan t.runBlock} {handler : Plan t.runHandler}
  {finalizer : Plan t.runFinalizer}

/-- The handler takes an exception on a machine within the law, and starts on one. -/
theorem sound_take (hblock : block.All L.Upholds m) (hm : L.Ready free m)
    (hall : (attempt t block handler finalizer).All L.Respects m) {e : Exception} {m₁ : Machine}
    (hrun : t.runBlock m = .error (.exception e) m₁) (hsome : t.handler.isSome = true) :
    (leaf (.bindCaught t.param e.caught)).All L.Upholds m₁ ∧
      ∀ m₂, t.take e m₁ = .ok () m₂ → L.Ready free m₂ := by
  have hready := ready_of_end hm hblock hrun
  have hupholds := (sound_bindCaught t.param e.caught hready (hall.2.2.1 e m₁ hrun hsome).1).1
  exact ⟨hupholds, fun m₂ htake => ready_of_end hready hupholds htake⟩

theorem awaits_of_pending (hblock : block.Sound L free (Carries L) m)
    (hhandler : ∀ m, handler.Sound L free (Carries L) m) (hm : L.Ready free m)
    (hall : (attempt t block handler finalizer).All L.Respects m) {pending : Except Fault Flow}
    (hpending : Pending t m pending m') :
    L.Ready free m' ∧ (L.Live m' → Awaits L pending m') := by
  obtain ⟨hupholds, hgood⟩ := hblock hm hall.2.1
  have hhandled {e : Exception} {m₁ m₂ : Machine} (hrun : t.runBlock m = .error (.exception e) m₁)
      (hsome : t.handler.isSome = true) (htake : t.take e m₁ = .ok () m₂) :=
    have hready := (sound_take hupholds hm hall hrun hsome).2 m₂ htake
    And.intro hready (hhandler m₂ hready ((hall.2.2.1 e m₁ hrun hsome).2 m₂ htake))
  cases hpending with
  | done hrun =>
      refine ⟨ready_of_end hm hupholds hrun, fun hlive => ⟨fun flow hflow => ?_, nofun⟩⟩
      cases hflow
      exact hgood _ _ hrun hlive
  | handled hrun hsome htake hflow =>
      obtain ⟨hready, hupholds, hgood⟩ := hhandled hrun hsome htake
      refine ⟨ready_of_end hready hupholds hflow, fun hlive => ⟨fun flow heq => ?_, nofun⟩⟩
      cases heq
      exact hgood _ _ hflow hlive
  | failed hrun hsome htake hfailed =>
      obtain ⟨hready, hupholds, -⟩ := hhandled hrun hsome htake
      refine ⟨ready_of_end hready hupholds hfailed, fun hlive => ⟨nofun, fun hspent => ?_⟩⟩
      cases hspent
      exact (hupholds.ends hfailed hlive).spent _ rfl

/-- What is pending is passed on, or the finalizer takes its place. -/
theorem ends_finish (hfinalizer : finalizer.Sound L free (Carries L) m)
    {pending : Except Fault Flow} (hm : L.Ready free m) (hawaits : L.Live m → Awaits L pending m)
    (hall : finalizer.All L.Respects m) (hlive : L.Live (Ending.machine (t.finish pending m))) :
    L.Ends (t.finish pending m) ∧ ∀ flow m', t.finish pending m = .ok flow m' → Carries L flow := by
  obtain ⟨hupholds, hgood⟩ := hfinalizer hm hall
  rw [t.machine_finish] at hlive
  have hends := hupholds.ends rfl hlive
  have hreturns := finalizer.returns m
  have hawaits := hawaits (hlive.of_precedes hreturns.toPrecedes)
  cases hrun : t.runFinalizer m with
  | error fault m' =>
      rw [hrun] at hends
      rw [TryStatement.finish_of_error hrun]
      exact ⟨hends, nofun⟩
  | ok flow m' =>
      rw [hrun] at hends hreturns hlive
      by_cases hnormal : flow = .normal
      · subst hnormal
        rw [TryStatement.finish_of_normal hrun]
        cases pending with
        | ok flow =>
            refine ⟨⟨hends.holds, nofun⟩, fun flow' m'' hflow => ?_⟩
            cases hflow
            exact hawaits.carries flow rfl
        | error fault =>
            refine ⟨⟨hends.holds, fun m'' hspent => ?_⟩, nofun⟩
            cases hspent
            -- the budget was spent before the finalizer started, and nothing gives steps back
            exact Nat.lt_of_lt_of_le (hawaits.spent rfl) hreturns.steps
      · rw [TryStatement.finish_of_early hrun hnormal]
        refine ⟨⟨hends.holds, nofun⟩, fun flow' m'' hflow => ?_⟩
        cases hflow
        exact hgood _ _ hrun hlive

theorem sound_attempt (hblock : ∀ m, block.Sound L free (Carries L) m)
    (hhandler : ∀ m, handler.Sound L free (Carries L) m)
    (hfinalizer : ∀ m, finalizer.Sound L free (Carries L) m) :
    (attempt t block handler finalizer).Sound L free (Carries L) m := by
  intro hm hall
  obtain ⟨hupholds, -⟩ := hblock m hm hall.2.1
  have htakes {e : Exception} {m₁ : Machine} (hrun : t.runBlock m = .error (.exception e) m₁)
      (hsome : t.handler.isSome = true) := sound_take hupholds hm hall hrun hsome
  have hawaits {pending : Except Fault Flow} {m' : Machine} (hp : Pending t m pending m') :=
    awaits_of_pending (hblock m) hhandler hm hall hp
  have hends (hlive : L.Live (Ending.machine (t.run m))) :
      L.Ends (t.run m) ∧ ∀ flow m', t.run m = .ok flow m' → Carries L flow := by
    -- a fault of the block, a handler that cannot take one, or the finalizer
    obtain ⟨fault, m', hrun, ht⟩ | ⟨e, m₁, fault, m', hrun, hsome, htake, ht⟩ |
      ⟨pending, m', hp, ht⟩ := t.run_cases m
    · rw [ht] at hlive ⊢
      exact ⟨hupholds.ends hrun hlive, nofun⟩
    · rw [ht] at hlive ⊢
      exact ⟨((htakes hrun hsome).1.ends htake hlive).passed, nofun⟩
    · rw [ht] at hlive ⊢
      exact ends_finish (hfinalizer m') (hawaits hp).1 (hawaits hp).2 (hall.2.2.2 pending m' hp)
        hlive
  refine ⟨⟨fun hlive => ⟨hm.holds hlive, fun hafter => (hends hafter).1, id, hm.frames,
    False.elim⟩, hupholds, fun e m₁ hrun hsome => ?_, fun pending m' hp => ?_⟩,
    fun flow m' hflow hlive => ?_⟩
  · refine ⟨(htakes hrun hsome).1, fun m₂ htake => ?_⟩
    exact (hhandler m₂ ((htakes hrun hsome).2 m₂ htake)
      ((hall.2.2.1 e m₁ hrun hsome).2 m₂ htake)).1
  · exact (hfinalizer m' (hawaits hp).1 (hall.2.2.2 pending m' hp)).1
  · have hafter : L.Live (Ending.machine (t.run m)) := by
      rw [hflow]
      exact hlive
    exact (hends hafter).2 flow m' hflow

end Attempt

end Plan

end ScopedViews.Sandbox
