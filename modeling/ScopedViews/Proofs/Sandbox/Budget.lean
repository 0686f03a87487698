import ScopedViews.Proofs.Sandbox.Execution
import ScopedViews.Proofs.Sandbox.Frames
/-!
# The step counter

The counter of a machine is moved by charges alone: a charge raises it and fails once it is past the
budget.  So it never falls, a computation says that the budget is spent only where the counter is
past it, and behind such a machine nothing is charged any more without a failure.  Frames, global
names and registered definitions are left where they are, and only looking up a definition reports
that there is none.

* `Metered`: computations made of charges and of what leaves the counter alone;
* `Metered.returns`, `Metered.spent`, `Metered.idle_or_halts`: what these do to the counter and to
  the rest of the machine;
* `Leaf.metered_or_rests`: the small computations of an evaluation are such, or change nothing.
-/

namespace ScopedViews.Sandbox

open Script

/-- How a computation ends: with a value or a fault, and with the machine that it leaves. -/
abbrev Ending (α : Type) := EStateM.Result Fault Machine α

/-- The machine that is left. -/
def Ending.machine {α : Type} : Ending α → Machine
  | .ok _ m => m
  | .error _ m => m

/-- The machine that a part of an evaluation leaves. -/
def Point.after (p : Point) : Machine := Ending.machine (p.run p.machine)

/-! ## Charges -/

theorem charge_eq (n : Nat) (m : Machine) :
    Run.charge n m = if maxSteps < m.steps + n
      then .error (.halt .stepLimit) { m with steps := m.steps + n }
      else .ok () { m with steps := m.steps + n } :=
  rfl

/-- A charge past the budget fails, however small it is. -/
theorem charge_of_exhausted {m : Machine} (h : maxSteps < m.steps) (n : Nat) :
    ∃ m', Run.charge n m = .error (.halt .stepLimit) m' := by
  have hpast : maxSteps < m.steps + n := by omega
  exact ⟨_, by rw [charge_eq, if_pos hpast]⟩

/-- A charge that does not fail spends what it says and does nothing else. -/
theorem charge_ok {n : Nat} {u : Unit} {m m' : Machine} (h : Run.charge n m = .ok u m') :
    m' = { m with steps := m.steps + n } := by
  rw [charge_eq] at h
  split at h
  next => cases h
  next =>
    cases h
    rfl

/-- What has been checked is not too long, and every 64 bytes of it have cost a step. -/
theorem checkString_ok {s : String} {u : Unit} {m m' : Machine}
    (h : Run.checkString s m = .ok u m') :
    s.utf8ByteSize ≤ maxStringLength ∧ m' = { m with steps := m.steps + s.utf8ByteSize / 64 } := by
  by_cases hlong : maxStringLength < s.utf8ByteSize
  · have hcheck : Run.checkLength s m = .error (.exception (.range .invalidStringLength)) m := by
      simp only [Run.checkLength, if_pos hlong]
      rfl
    have herror : Run.checkString s m = _ := Run.bind_of_error hcheck
    rw [herror] at h
    cases h
  · have hcheck : Run.checkLength s m = .ok () m := by
      simp only [Run.checkLength, if_neg hlong]
      rfl
    have hcharge : Run.checkString s m = Run.charge (s.utf8ByteSize / 64) m :=
      Run.bind_of_ok hcheck
    exact ⟨Nat.not_lt.1 hlong, charge_ok (hcharge ▸ h)⟩

/-- Where room has been made there was room, and every eight elements of it have cost a step. -/
theorem reserve_ok {present extra : Nat} {u : Unit} {m m' : Machine}
    (h : Run.reserve present extra m = .ok u m') :
    present + extra ≤ maxArrayLength ∧ m' = { m with steps := m.steps + extra / 8 } := by
  by_cases hroom : maxArrayLength < present + extra
  · have herror : Run.reserve present extra m =
        .error (.exception (.range .invalidArrayLength)) m := by
      simp only [Run.reserve, if_pos hroom]
      rfl
    rw [herror] at h
    cases h
  · have hcharge : Run.reserve present extra m = Run.charge (extra / 8) m := by
      simp only [Run.reserve, if_neg hroom]
    exact ⟨Nat.not_lt.1 hroom, charge_ok (hcharge ▸ h)⟩

/-- An assignment leaves as many frames as there were. -/
theorem length_assignLocal? {name : String} {v : Value} {frames changed : List Frame}
    (h : Run.assignLocal? name v frames = some changed) : changed.length = frames.length := by
  induction frames generalizing changed with
  | nil => cases h
  | cons f rest ih =>
      unfold Run.assignLocal? at h
      split at h
      next =>
        cases h
        rfl
      next =>
        obtain ⟨inner, hinner, rfl⟩ := Option.map_eq_some_iff.1 h
        exact congrArg (· + 1) (ih hinner)

/-- Where a property cannot be written, the reason is not that a function is unknown. -/
theorem planWrite_known {h : Heap} {v : Value} {key : String} {x : Value} :
    v.planWrite h key x ≠ .error (.type .unknownFunction) := by
  unfold Value.planWrite
  split
  · simp
  · split
    · unfold Value.requestedLength
      dsimp only
      repeat' split
      all_goals simp [Except.map]
    · repeat' split
      all_goals simp
  all_goals simp

section SetProperty

variable {v : Value} {key : String} {x : Value} {m : Machine}

theorem setProperty_of_ok {w : Value.Write} (h : v.planWrite m.heap key x = .ok w) :
    Run.setProperty v key x m = .ok () { m with heap := w.apply m.heap } := by
  have hplan : Run.view (fun m => v.planWrite m.heap key x) m = .ok (.ok w) m := by
    rw [Run.view, h]
  exact Run.bind_of_ok hplan

theorem setProperty_of_error {e : Exception} (h : v.planWrite m.heap key x = .error e) :
    Run.setProperty v key x m = .error (.exception e) m := by
  have hplan : Run.view (fun m => v.planWrite m.heap key x) m = .ok (.error e) m := by
    rw [Run.view, h]
  exact Run.bind_of_ok hplan

end SetProperty

/-- A computation that leaves the counter alone, takes nothing back, and says neither that the
budget is spent nor that a function is unknown. -/
structure Run.Uncharged {α : Type} (x : Run α) : Prop where
  returns : ∀ m : Machine, m.Returns (Ending.machine (x m))
  steps : ∀ m, (Ending.machine (x m)).steps = m.steps
  unspent : ∀ m m', x m ≠ .error (.halt .stepLimit) m'
  known : ∀ m m', x m ≠ .error (.exception (.type .unknownFunction)) m'

/-- A computation that leaves the machine as it is. -/
def Run.Rests {α : Type} (x : Run α) : Prop := ∀ m, Ending.machine (x m) = m

theorem Run.Rests.returns {α : Type} {x : Run α} (h : x.Rests) (m : Machine) :
    m.Returns (Ending.machine (x m)) := by
  rw [h m]
  exact .refl m

/-- Computations made of charges and of what leaves the counter alone. -/
inductive Metered : {α : Type} → Run α → Prop
  | uncharged {α : Type} {x : Run α} (h : x.Uncharged) : Metered x
  | charge (n : Nat) : Metered (Run.charge n)
  | bind {α β : Type} {x : Run α} {k : α → Run β} (first : Metered x) (next : ∀ a, Metered (k a)) :
      Metered (x >>= k)

namespace Metered

variable {α β : Type} {x : Run α}

/-! ### What they do to the counter -/

/-- Nothing is taken back. -/
theorem returns (h : Metered x) (m : Machine) : m.Returns (Ending.machine (x m)) := by
  induction h generalizing m with
  | uncharged h => exact h.returns m
  | charge n =>
      rw [charge_eq]
      split
      · exact m.returns_steps n
      · exact m.returns_steps n
  | @bind _ _ x k _ _ ihfirst ihnext =>
      have hfirst := ihfirst m
      cases hx : x m with
      | ok a m' =>
          rw [hx] at hfirst
          rw [Run.bind_of_ok hx]
          exact hfirst.trans (ihnext a m')
      | error fault m' =>
          rw [hx] at hfirst
          rwa [Run.bind_of_error hx]

theorem steps_le (h : Metered x) (m : Machine) : m.steps ≤ (Ending.machine (x m)).steps :=
  (h.returns m).steps

/-- No function is reported unknown. -/
theorem known (h : Metered x) (m m' : Machine) :
    x m ≠ .error (.exception (.type .unknownFunction)) m' := by
  induction h generalizing m m' with
  | uncharged h => exact h.known m m'
  | charge n =>
      rw [charge_eq]
      split
      · nofun
      · nofun
  | @bind _ _ x k _ _ ihfirst ihnext =>
      intro hx
      cases hfirst : x m with
      | ok a m₁ =>
          rw [Run.bind_of_ok hfirst] at hx
          exact ihnext a m₁ m' hx
      | error fault m₁ =>
          rw [Run.bind_of_error hfirst] at hx
          cases hx
          exact ihfirst m m' hfirst

/-- The budget is reported spent only where it is. -/
theorem spent (h : Metered x) {m m' : Machine} (hx : x m = .error (.halt .stepLimit) m') :
    maxSteps < m'.steps := by
  induction h generalizing m m' with
  | uncharged h => exact absurd hx (h.unspent m m')
  | charge n =>
      rw [charge_eq] at hx
      split at hx
      next hpast =>
        cases hx
        exact hpast
      next => cases hx
  | @bind _ _ x k _ _ ihfirst ihnext =>
      cases hfirst : x m with
      | ok a m₁ =>
          rw [Run.bind_of_ok hfirst] at hx
          exact ihnext a hx
      | error fault m₁ =>
          rw [Run.bind_of_error hfirst] at hx
          cases hx
          exact ihfirst hfirst

/-- Past the budget a computation charges nothing, or it says so. -/
theorem idle_or_halts (h : Metered x) {m : Machine} (hm : maxSteps < m.steps) :
    (Ending.machine (x m)).steps = m.steps ∨ ∃ m', x m = .error (.halt .stepLimit) m' := by
  induction h generalizing m with
  | uncharged h => exact .inl (h.steps m)
  | charge n => exact .inr (charge_of_exhausted hm n)
  | @bind _ _ x k _ _ ihfirst ihnext =>
      have hfirst := ihfirst hm
      cases hx : x m with
      | ok a m' =>
          rw [hx] at hfirst
          obtain hidle | ⟨m₁, hhalts⟩ := hfirst
          · -- the counter is where it was, so the rest starts past the budget, too
            have hidle : m'.steps = m.steps := hidle
            rw [Run.bind_of_ok hx, ← hidle]
            exact ihnext a (hidle ▸ hm)
          · cases hhalts
      | error fault m' =>
          rw [hx] at hfirst
          rw [Run.bind_of_error hx]
          obtain hidle | ⟨m₁, hhalts⟩ := hfirst
          · exact .inl hidle
          · cases hhalts
            exact .inr ⟨_, rfl⟩

/-! ### Small computations -/

theorem rests (h : x.Rests) (hunspent : ∀ m m', x m ≠ .error (.halt .stepLimit) m')
    (hknown : ∀ m m', x m ≠ .error (.exception (.type .unknownFunction)) m') : Metered x :=
  .uncharged
    { returns := h.returns
      steps := fun m => congrArg Machine.steps (h m)
      unspent := hunspent
      known := hknown }

theorem pure (a : α) : Metered (Pure.pure a : Run α) :=
  .rests (fun _ => rfl) (fun _ => nofun) fun _ => nofun

theorem raise {e : Exception} (h : e ≠ .type .unknownFunction) :
    Metered (Run.raise e : Run α) := by
  refine .rests (fun _ => rfl) (fun _ => nofun) fun m m' heq => h ?_
  cases heq
  rfl

theorem unsupported (c : Construct) (s : Span) : Metered (Run.unsupported c s : Run α) :=
  .rests (fun _ => rfl) (fun _ => nofun) fun _ => nofun

theorem view (f : Machine → α) : Metered (Run.view f) :=
  .rests (fun _ => rfl) (fun _ => nofun) fun _ => nofun

theorem update {f : Machine → Machine} (hreturns : ∀ m : Machine, m.Returns (f m))
    (hsteps : ∀ m, (f m).steps = m.steps) : Metered (Run.update f) :=
  .uncharged ⟨hreturns, hsteps, fun _ => nofun, fun _ => nofun⟩

theorem map (f : α → β) (h : Metered x) : Metered (f <$> x) := by
  rw [map_eq_pure_bind]
  exact .bind h fun _ => .pure _

theorem tick : Metered Run.tick := .charge 1

theorem checkLength (s : String) : Metered (Run.checkLength s) := by
  unfold Run.checkLength
  split
  · exact .raise nofun
  · exact .pure _

theorem checkString (s : String) : Metered (Run.checkString s) :=
  .bind (.checkLength s) fun _ => .charge _

theorem reserve (present extra : Nat) : Metered (Run.reserve present extra) := by
  unfold Run.reserve
  split
  · exact .bind (.raise nofun) fun _ => .charge _
  · exact .charge _

theorem define (name : String) (v : Value) : Metered (Run.define name v) := by
  refine .update (fun m => ?_) fun m => ?_
  · obtain ⟨heap, locals, global, functions, made, steps⟩ := m
    cases locals with
    | nil => exact Machine.returns_global _ name v
    | cons f rest => exact Machine.returns_locals rfl
  · obtain ⟨heap, locals, global, functions, made, steps⟩ := m
    cases locals with
    | nil => rfl
    | cons f rest => rfl

theorem lookup (name : String) : Metered (Run.lookup name) := by
  refine .bind (.view _) fun found => ?_
  split
  · exact .pure _
  · repeat' split
    all_goals first | exact .pure _ | exact .raise nofun

theorem iterate (v : Value) : Metered (Run.iterate v) := by
  unfold Run.iterate
  split
  · exact .view _
  · exact .pure _
  · exact .raise nofun

theorem readProperty (v : Value) (key : String) : Metered (Run.readProperty v key) := by
  unfold Run.readProperty
  split
  · exact .raise nofun
  · exact .view _

theorem setProperty (v : Value) (key : String) (x : Value) : Metered (Run.setProperty v key x) := by
  refine .uncharged ⟨fun m => ?_, fun m => ?_, fun m m' => ?_, fun m m' => ?_⟩
  all_goals cases hplan : v.planWrite m.heap key x
  all_goals first | rw [setProperty_of_ok hplan] | rw [setProperty_of_error hplan]
  case refine_1.error => exact .refl m
  case refine_1.ok w => exact m.returns_heap _
  case refine_4.error e =>
    intro h
    cases h
    exact planWrite_known hplan
  all_goals first | rfl | simp

theorem read (p : Place) : Metered p.read := by
  cases p with
  | binding name => exact .lookup name
  | property holder key => exact .readProperty holder key

theorem assign (name : String) (v : Value) : Metered (Run.assign name v) := by
  refine .update (fun m => ?_) fun m => ?_
  · split
    next locals hlocals => exact Machine.returns_locals (length_assignLocal? hlocals)
    next => exact m.returns_global name v
  · split
    · rfl
    · rfl

theorem write (p : Place) (x : Value) : Metered (p.write x) := by
  cases p with
  | binding name => exact .assign name x
  | property holder key =>
      exact .bind (.view _) fun _ => .bind (.setProperty _ _ _) fun _ =>
        .bind (.view _) fun _ => .charge _

/-! ### Operators -/

theorem applyUnary (op : UnaryOp) (v : Value) : Metered (applyUnary op v) := by
  cases op with
  | minus | plus | bitNot => exact .bind (.view _) fun _ => .pure _
  | not | typeof | void | delete => exact .pure _

theorem compareBy (strings : String → String → Bool) (numbers : Float → Float → Bool)
    (left right : Value) : Metered (compareBy strings numbers left right) := by
  unfold Sandbox.compareBy
  split
  · exact .pure _
  · exact .view _

theorem addition (left right : Value) : Metered (addition left right) := by
  unfold Sandbox.addition
  split
  · exact .view _
  · exact .bind (.view _) fun _ => .bind (.view _) fun _ => .bind (.checkString _) fun _ => .pure _

theorem hasKey (left right : Value) : Metered (hasKey left right) := by
  refine .bind (.view _) fun key => ?_
  split
  · exact .view _
  · exact .view _
  · exact .raise nofun

theorem applyBinary (op : BinaryOp) (left right : Value) (span : Span) :
    Metered (applyBinary op left right span) := by
  cases op with
  | add => exact .addition left right
  | less | lessEqual | greater | greaterEqual =>
      unfold Sandbox.applyBinary
      exact .compareBy _ _ left right
  | identical | notIdentical => exact .pure _
  | isIn => exact .hasKey left right
  | instanceOf => exact .unsupported _ _
  | _ => exact .view _

theorem appendQuasis (quasis : List Quasi) (text : String) :
    Metered (appendQuasis quasis text) := by
  induction quasis generalizing text with
  | nil => exact .pure _
  | cons quasi quasis ih => exact .bind (.checkLength _) fun _ => ih _

/-! ### Methods -/

open Builtin

theorem numberArgument (args : Array Value) (i : Nat) (default : Float) :
    Metered (numberArgument args i default) := by
  unfold Builtin.numberArgument
  split
  · exact .pure _
  · exact .bind (.view _) fun _ => .pure _

theorem sliceBounds (args : Array Value) (length : Nat) : Metered (sliceBounds args length) :=
  .bind (.numberArgument _ _ _) fun _ => .bind (.numberArgument _ _ _) fun _ => .pure _

theorem joinFrom (separator : String) (items : List Value) (first : Bool) (out : String) :
    Metered (joinFrom separator items first out) := by
  induction items generalizing first out with
  | nil => exact .pure _
  | cons v rest ih =>
      by_cases hnullish : v.isNullish
      · simp only [Builtin.joinFrom, hnullish, if_true]
        exact .bind (.pure _) fun _ => .bind (.checkLength _) fun _ => ih _ _
      · simp only [Builtin.joinFrom, hnullish]
        exact .bind (.map _ (.view _)) fun _ => .bind (.checkLength _) fun _ => ih _ _

theorem concatFrom (items : List Value) (out : Array Value) : Metered (concatFrom items out) := by
  induction items generalizing out with
  | nil => exact .pure _
  | cons v rest ih =>
      unfold Builtin.concatFrom
      split
      · exact .bind (.view _) fun _ => .bind (.reserve _ _) fun _ => ih _
      · exact .bind (.pure _) fun _ => .bind (.reserve _ _) fun _ => ih _

theorem newArray (items : Array Value) : Metered (Run.newArray items) :=
  .uncharged ⟨fun m => m.returns_heap _, fun _ => rfl, fun _ => nofun, fun _ => nofun⟩

theorem newObject (members : Properties) : Metered (Run.newObject members) :=
  .uncharged ⟨fun m => m.returns_heap _, fun _ => rfl, fun _ => nofun, fun _ => nofun⟩

theorem modifyArray (address : Nat) (f : Array Value → Array Value) :
    Metered (Run.modifyArray address f) :=
  .update (fun m => m.returns_heap _) fun _ => rfl

theorem push (address : Nat) (args : Array Value) : Metered (push address args) :=
  .bind (.view _) fun _ => .bind (.reserve _ _) fun _ => .bind (.modifyArray _ _) fun _ => .pure _

theorem unshift (address : Nat) (args : Array Value) : Metered (unshift address args) :=
  .bind (.view _) fun _ => .bind (.modifyArray _ _) fun _ => .bind (.reserve _ _) fun _ =>
    .bind (.modifyArray _ _) fun _ => .pure _

theorem arrayMethod {invoke : Invoke} {address : Nat} {method : String} (args : Array Value)
    (h : callsBack (.array address) method = false) :
    Metered (arrayMethod invoke address method args) := by
  simp only [Builtin.arrayMethod]
  split
  · exact .push address args
  · exact .unshift address args
  · exact .bind (.view _) fun _ => .bind (.modifyArray _ _) fun _ => .pure _
  · exact .bind (.view _) fun _ => .bind (.modifyArray _ _) fun _ => .pure _
  · exact .bind (.modifyArray _ _) fun _ => .pure _
  · exact .bind (.view _) fun _ => .bind (.concatFrom _ _) fun _ => .newArray _
  · exact .bind (.view _) fun _ => .bind (.sliceBounds _ _) fun _ => .newArray _
  · split
    · exact .bind (.pure _) fun _ => .bind (.view _) fun _ => .bind (.joinFrom _ _ _ _) fun _ =>
        .bind (.checkString _) fun _ => .pure _
    · exact .bind (.view _) fun _ => .bind (.view _) fun _ => .bind (.joinFrom _ _ _ _) fun _ =>
        .bind (.checkString _) fun _ => .pure _
  · exact .bind (.view _) fun _ => .pure _
  · exact .bind (.view _) fun _ => .pure _
  · exact .map _ (.view _)
  -- what is left calls back, but for a name that is no method
  all_goals first | exact .raise (by simp) | exact Bool.noConfusion (show true = false from h)

theorem appendFrom (items : List Value) (out : String) : Metered (appendFrom items out) := by
  induction items generalizing out with
  | nil => exact .pure _
  | cons v rest ih =>
      exact .bind (.view _) fun _ => .bind (.checkLength _) fun _ => ih _

theorem stringRepeat (s : String) (args : Array Value) : Metered (stringRepeat s args) := by
  refine .bind (.numberArgument _ _ _) fun count => ?_
  split
  · exact .raise nofun
  · split
    · exact .raise nofun
    · split
      · exact .raise nofun
      · exact .bind (.checkString _) fun _ => .pure _

theorem stringMethod {invoke : Invoke} {s method : String} (args : Array Value)
    (h : callsBack (.string s) method = false) :
    Metered (stringMethod invoke s method args) := by
  simp only [Builtin.stringMethod]
  split
  · exact .pure _
  · exact .pure _
  · exact .pure _
  · exact .pure _
  · exact .pure _
  · exact .bind (.numberArgument _ _ _) fun _ => .pure _
  · exact .bind (.view _) fun _ => .pure _
  · exact .bind (.view _) fun _ => .pure _
  · exact .bind (.view _) fun _ => .pure _
  · exact .bind (.view _) fun _ => .pure _
  · exact .bind (.sliceBounds _ _) fun _ => .pure _
  · exact .bind (.sliceBounds _ _) fun _ => .pure _
  · split
    · exact .bind (.pure _) fun _ => .bind (.reserve _ _) fun _ => .newArray _
    · exact .bind (.map _ (.view _)) fun _ => .bind (.reserve _ _) fun _ => .newArray _
  · exact .bind (.appendFrom _ _) fun _ => .bind (.checkString _) fun _ => .pure _
  · exact .stringRepeat s args
  · exact Bool.noConfusion (show true = false from h)
  · exact .raise (by simp)

theorem functionMethod {invoke : Invoke} {f : FunctionRef} {method : String} (args : Array Value)
    (h : callsBack (.function f) method = false) :
    Metered (functionMethod invoke f method args) := by
  unfold Builtin.functionMethod
  split
  · exact Bool.noConfusion (show true = false from h)
  · exact Bool.noConfusion (show true = false from h)
  · exact .pure _
  · exact .raise nofun

theorem numberMethod (x : Float) (method : String) (args : Array Value) :
    Metered (numberMethod x method args) := by
  unfold Builtin.numberMethod
  split
  · exact .pure _
  · refine .bind (.numberArgument _ _ _) fun places => ?_
    split
    · exact .pure _
    · exact .raise nofun
  · exact .raise nofun

theorem objectMethod (receiver : Value) (method : String) (args : Array Value) :
    Metered (objectMethod receiver method args) := by
  unfold Builtin.objectMethod
  split
  · split
    · exact .bind (.pure _) fun _ => .view _
    · exact .bind (.view _) fun _ => .view _
  · exact .map _ (.view _)
  · exact .raise nofun

theorem callMethod {invoke : Invoke} {receiver : Value} {method : String} (args : Array Value)
    (h : callsBack receiver method = false) :
    Metered (callMethod invoke receiver method args) := by
  cases receiver with
  | array address => exact .arrayMethod args h
  | string s => exact .stringMethod args h
  | function f => exact .functionMethod args h
  | number x => exact .numberMethod x method args
  | object address => exact .objectMethod _ method args
  | undefined | null | bool b =>
      show Metered (if method = "toString" then Value.string <$> Run.text _ else Run.raise _)
      split
      · exact .map _ (.view _)
      · exact .raise nofun

theorem assignKeys (target source : Value) (keys : List String) :
    Metered (assignKeys target source keys) := by
  induction keys with
  | nil => exact .pure _
  | cons key rest ih => exact .bind (.view _) fun _ => .bind (.setProperty _ _ _) fun _ => ih

theorem assignAll (target : Value) (sources : List Value) :
    Metered (assignAll target sources) := by
  induction sources with
  | nil => exact .pure _
  | cons source rest ih => exact .bind (.view _) fun _ => .bind (.assignKeys _ _ _) fun _ => ih

theorem argumentList (v : Value) : Metered (argumentList v) := by
  unfold Builtin.argumentList
  split
  · exact .pure _
  · exact .pure _
  · exact .iterate _

theorem callStatic (owner method : String) (args : Array Value) :
    Metered (callStatic owner method args) := by
  unfold Builtin.callStatic
  split
  · exact .bind (.view _) fun _ => .newArray _
  · exact .bind (.view _) fun _ => .newArray _
  · exact .bind (.assignAll _ _) fun _ => .pure _
  · exact .pure _
  · exact .pure _
  · exact .raise nofun

theorem convert {name : String} {args : Array Value} {m : Run Value}
    (h : convert? name args = some m) : Metered m := by
  unfold Builtin.convert? at h
  split at h
  · obtain rfl := Option.some.inj h
    split
    · exact .pure _
    · exact .map _ (.view _)
  · obtain rfl := Option.some.inj h
    split
    · exact .pure _
    · exact .map _ (.view _)
  · obtain rfl := Option.some.inj h
    exact .pure _
  · cases h

theorem finish (visit : Visit) (out : Array Value) : Metered (visit.finish out) := by
  cases visit with
  | map | filter => exact .newArray out
  | forEach | some | every | find => exact .pure _

/-! ### Bindings -/

theorem makeFunction (f : Function) (start : Nat) (source : String) :
    Metered (Run.makeFunction f start source) :=
  .uncharged ⟨fun m => m.returns_functions _ _ _, fun _ => rfl, fun _ => nofun, fun _ => nofun⟩

theorem functionValue (scene : Scene) (f : Function) : Metered (functionValue scene f) := by
  cases f
  exact .makeFunction _ _ _

theorem hoist (scene : Scene) (body : List Stmt) : Metered (hoist scene body) := by
  induction body with
  | nil => exact .pure _
  | cons s rest ih =>
      cases s with
      | function f =>
          obtain ⟨span, form, name, isAsync, generator, params, bodySpan, directives, body,
            concise⟩ := f
          cases name with
          | none => exact ih
          | some name =>
              exact .bind (.functionValue scene _) fun _ => .bind (.define _ _) fun _ => ih
      | _ => exact ih

theorem bindCaught (param : Option Pattern) (text : String) : Metered (bindCaught param text) := by
  unfold Sandbox.bindCaught
  split
  · exact .pure _
  · split
    · exact .define _ _
    · exact .unsupported _ _

end Metered

/-- Looking up a definition finds the one that is registered. -/
theorem definitionAt_eq (start : Nat) (m : Machine) :
    definitionAt start m = match m.functions.get? start with
      | some f => .ok f m
      | none => .error (.exception (.type .unknownFunction)) m := by
  refine (Run.bind_of_ok rfl).trans ?_
  dsimp only
  cases m.functions.get? start <;> rfl

theorem definitionAt_rests (start : Nat) : (definitionAt start).Rests := by
  intro m
  rw [definitionAt_eq]
  split <;> rfl

theorem definitionAt_ne_halt {start : Nat} {m m' : Machine} {h : Halt} :
    definitionAt start m ≠ .error (.halt h) m' := by
  rw [definitionAt_eq]
  split <;> nofun

/-- A definition that is not found is not registered. -/
theorem not_mem_starts_of_error {start : Nat} {m m' : Machine} {fault : Fault}
    (h : definitionAt start m = .error fault m') : start ∉ m.starts := by
  intro hmem
  obtain ⟨f, hf⟩ := Option.isSome_iff_exists.1 (OrderedMap.isSome_get?_iff.2 hmem)
  rw [definitionAt_eq, hf] at h
  cases h

/-- The leaves of an evaluation spend steps by charges only; a halt and an exception that stand
alone and the look-up of a definition leave the machine as it is. -/
theorem Leaf.metered_or_rests {α : Type} {x : Run α} (h : Leaf x) : Metered x ∨ x.Rests := by
  cases h with
  | halt h => exact .inr fun _ => rfl
  | raise e => exact .inr fun _ => rfl
  | definitionAt start => exact .inr (definitionAt_rests start)
  | pure a => exact .inl (.pure a)
  | view f => exact .inl (.view f)
  | tick => exact .inl .tick
  | define name v => exact .inl (.define name v)
  | lookup name => exact .inl (.lookup name)
  | checkLength s => exact .inl (.checkLength s)
  | checkString s => exact .inl (.checkString s)
  | reserve present extra => exact .inl (.reserve present extra)
  | iterate v => exact .inl (.iterate v)
  | readProperty v key => exact .inl (.readProperty v key)
  | newArray items => exact .inl (.newArray items)
  | newObject members => exact .inl (.newObject members)
  | makeFunction f start source => exact .inl (.makeFunction f start source)
  | applyUnary op v => exact .inl (.applyUnary op v)
  | applyBinary op left right span => exact .inl (.applyBinary op left right span)
  | read p => exact .inl (.read p)
  | write p v => exact .inl (.write p v)
  | appendQuasis quasis text => exact .inl (.appendQuasis quasis text)
  | argumentList v => exact .inl (.argumentList v)
  | callStatic owner method args => exact .inl (.callStatic owner method args)
  | callMethod args h => exact .inl (.callMethod args h)
  | convert h => exact .inl (.convert h)
  | finish visit out => exact .inl (.finish visit out)
  | hoist scene body => exact .inl (.hoist scene body)
  | bindCaught param text => exact .inl (.bindCaught param text)

end ScopedViews.Sandbox
