import Mathlib.Tactic.Common
import ScopedViews.Proofs.Sandbox.Growth
import ScopedViews.Proofs.Sandbox.Limits
/-!
# What growth is charged for

Every 64 bytes of a string and every eight elements of an array that an operation builds are meant
to cost a step.  Operators, templates, spreads and writes charge for what they build, and so do some
methods.  Others charge nothing, or go by something else: they are metered exactly if this comes to
as much.

* `Built`: what operations have built, counted in the steps that it is meant to cost;
* `Flat`: operations that do not go by what they build, and what they have charged;
* `growth_metered_iff`: growth is metered exactly if no such operation has built more;
* `growth_unmetered`: a program in which one has.
-/

namespace ScopedViews.Sandbox

open Script Builtin

/-! ## What is built -/

/-- Whether a method makes the string that it answers, if it answers one. -/
def Builtin.makes : Value → String → Bool
  | .array _, method => method == "join" || method == "toString"
  | .function _, method => method == "toString"
  | _, _ => true

/-- The steps for what a method has made: the string that it answers, what it has added to an array,
the array that it has filled by visits, a part of a string that it has split, and a string that it
has handed to a function. -/
inductive Made (receiver : Value) (method : String) (args : Array Value) (v : Value)
    (m m' : Machine) : Nat → Prop
  | text (hmakes : makes receiver method = true) : Made receiver method args v m m' v.owed
  | grown (address : Nat) (hback : callsBack receiver method = false) :
      Made receiver method args v m m' (m.growth m' address / 8)
  | visited {address : Nat} {visit : Visit} (hreceiver : receiver.isArray = true)
      (hvisit : visit = .map ∨ visit = .filter) (hmethod : method = visit.name)
      (hv : v = .array address) :
      Made receiver method args v m m' ((m'.heap.elements address).size / 8)
  | part {s t : String} {address : Nat} (hreceiver : receiver = .string s)
      (hmethod : method = "split") (hv : v = .array address)
      (ht : .string t ∈ m'.heap.elements address) :
      Made receiver method args v m m' (t.utf8ByteSize / 64)
  | handed {s t : String} {f : FunctionRef} {i : Nat} (hreceiver : receiver = .string s)
      (hmethod : method = "replace") (hf : argument args 1 = .function f)
      (hi : Text.find? ((argument args 0).toText m.heap).toList s.toList = some i)
      (ht : t = s ∨ t = (argument args 0).toText m.heap) :
      Made receiver method args v m m' (t.utf8ByteSize / 64)

/-- `Built q m n`: the operation at `q` has succeeded on the machine `m`, and `n` steps stand for
something that it has built.  Strings that nothing is left of do not count. -/
inductive Built : Point → Machine → Nat → Prop
  | unary {op : UnaryOp} {v w : Value} {m m' : Machine} (h : applyUnary op v m = .ok w m') :
      Built ⟨.leaf (.applyUnary op v), m⟩ m' w.owed
  | binary {op : BinaryOp} {left right w : Value} {span : Span} {m m' : Machine}
      (h : applyBinary op left right span m = .ok w m') :
      Built ⟨.leaf (.applyBinary op left right span), m⟩ m' w.owed
  | template {source : String} {free : Nat} {span : Span} {quasis : List Quasi}
      {parts : List Expr} {v : Value} {m m' : Machine}
      (h : evaluate ⟨source, invoke source free⟩ (.template span quasis parts) m =
        .ok (some v) m') :
      Built (.ofExpr source free (.template span quasis parts) m) m' v.owed
  | spread {source : String} {free : Nat} {span : Span} {inner : Expr} {rest : List Expr}
      {items extra : Array Value} {v : Value} {m m₁ m₂ m' : Machine}
      (hinner : Link.settle (evaluate ⟨source, invoke source free⟩ inner) m = .ok v m₁)
      (hextra : Run.iterate v m₁ = .ok extra m₂)
      (hroom : Run.reserve items.size extra.size m₂ = .ok () m') :
      Built ⟨@Plan.evaluateItems ⟨source, invoke source free⟩ (Plan.invoke source free)
        (.spread span inner :: rest) items, m⟩ m' (extra.size / 8)
  | conversion {name : String} {args : Array Value} {x : Run Value} {v : Value} {m m' : Machine}
      (hx : convert? name args = some x) (h : x m = .ok v m') :
      Built ⟨.leaf (.convert hx), m⟩ m' v.owed
  | write {p : Place} {x : Value} {m m' : Machine} (address : Nat) (h : p.write x m = .ok () m') :
      Built ⟨.leaf (.write p x), m⟩ m' (m.growth m' address / 8)
  | method {source : String} {free : Nat} {receiver v : Value} {method : String}
      {args : Array Value} {m m' : Machine} {n : Nat}
      (h : callMethod (invoke source free) receiver method args m = .ok v m')
      (hmade : Made receiver method args v m m' n) :
      Built ⟨Plan.callMethod (Plan.invoke source free) receiver method args, m⟩ m' n
  | static {owner method : String} {args : Array Value} {v : Value} {m m' : Machine}
      (address : Nat) (h : callStatic owner method args m = .ok v m') :
      Built ⟨.leaf (.callStatic owner method args), m⟩ m' (m.growth m' address / 8)
  | key {args : Array Value} {t : String} {address : Nat} {m m' : Machine}
      (h : callStatic "Object" "keys" args m = .ok (.array address) m')
      (ht : .string t ∈ m'.heap.elements address) :
      Built ⟨.leaf (.callStatic "Object" "keys" args), m⟩ m' (t.utf8ByteSize / 64)

/-- `Flat q m c`: the operation at `q`, which does not go by what it builds, has succeeded on the
machine `m` and has charged `c` steps.  What is handed to a function is charged for by nothing but
the call and the answer that the function is called for. -/
inductive Flat : Point → Machine → Nat → Prop
  | conversion {name : String} {args : Array Value} {x : Run Value} {v : Value} {m m' : Machine}
      (hx : convert? name args = some x) (h : x m = .ok v m') :
      Flat ⟨.leaf (.convert hx), m⟩ m' 0
  | static {owner method : String} {args : Array Value} {v : Value} {m m' : Machine}
      (h : callStatic owner method args m = .ok v m') :
      Flat ⟨.leaf (.callStatic owner method args), m⟩ m' 0
  | method {source : String} {free : Nat} {receiver v : Value} {method : String}
      {args : Array Value} {m m' : Machine} {c : Nat}
      (h : callMethod (invoke source free) receiver method args m = .ok v m')
      (hflat : flatCharge? m.heap receiver method args = some c) :
      Flat ⟨Plan.callMethod (Plan.invoke source free) receiver method args, m⟩ m' c
  | handed {source s : String} {free : Nat} {v : Value} {args : Array Value} {f : FunctionRef}
      {m m' : Machine}
      (h : callMethod (invoke source free) (.string s) "replace" args m = .ok v m')
      (hf : argument args 1 = .function f) :
      Flat ⟨Plan.callMethod (Plan.invoke source free) (.string s) "replace" args, m⟩ m'
        (m'.steps - m.steps)

theorem Flat.steps_eq {q : Point} {m' : Machine} {c : Nat} (h : Flat q m' c) :
    m'.steps = q.machine.steps + c := by
  cases h with
  | conversion hx h => exact costs_convert hx _ _ h
  | static h => exact costs_callStatic _ _ _ _ _ h
  | method h hflat => exact costs_callMethod hflat _ _ h
  | @handed source s free v args f m _ h hf =>
      have hle : m.steps ≤ m'.steps :=
        (Plan.callMethod (Plan.invoke source free) (.string s) "replace" args).steps_le_of_ok h
      exact (Nat.add_sub_cancel' hle).symm

/-! ## What is paid -/

section Methods

variable {source : String} {free : Nat} {receiver v : Value} {method : String}
  {args : Array Value} {m m' : Machine} {n : Nat}

theorem pays_method (h : callMethod (invoke source free) receiver method args m = .ok v m')
    (hflat : flatCharge? m.heap receiver method args = none)
    (hmakes : makes receiver method = true) : m.steps + v.owed ≤ m'.steps := by
  cases receiver with
  | array address =>
      simp only [makes, Bool.or_eq_true, beq_iff_eq] at hmakes
      rcases hmakes with rfl | rfl
      · exact pays_join address args (invoke source free) v m' h
      · cases hflat
  | string s =>
      rcases charging_string hflat with rfl | rfl | ⟨rfl, i, hi⟩
      · exact pays_stringConcat s args v m' h
      · exact pays_stringRepeat s args v m' h
      · exact pays_stringReplace (Plan.invoke source free) hi v m' h
  | function f =>
      simp only [makes, beq_iff_eq] at hmakes
      subst hmakes
      cases hflat
  | undefined | null | bool | number | object => cases hflat

theorem grows_method (h : callMethod (invoke source free) receiver method args m = .ok v m')
    (hflat : flatCharge? m.heap receiver method args = none)
    (hback : callsBack receiver method = false) (address : Nat) :
    m.steps + m.growth m' address / 8 ≤ m'.steps := by
  have hle := (Plan.callMethod (Plan.invoke source free) receiver method args).steps_le_of_ok h
  -- a method that leaves the heap as it is makes no array grow
  have hstill (hheap : m'.heap = m.heap) : m.steps + m.growth m' address / 8 ≤ m'.steps := by
    rw [Machine.growth_of_heap_eq hheap]
    exact hle
  cases receiver with
  | array own =>
      rcases charging_array hflat hback with rfl | rfl
      · exact push_charges h address
      · exact hstill (still_join own args (invoke source free) v m' h)
  | string s =>
      rcases charging_string hflat with rfl | rfl | ⟨rfl, -⟩
      · have hconcat : Run.Still (do
            let out ← appendFrom args.toList s
            Run.checkString out
            return Value.string out) m :=
          Run.still_bind (still_appendFrom _ _) fun _ _ => still_checked _
        exact hstill (hconcat v m' h)
      · exact hstill (still_stringRepeat s args v m' h)
      · cases hback
  | function f =>
      have hcharge : (if callsBack (.function f) method then none else some 0) =
        (none : Option Nat) := hflat
      rw [hback] at hcharge
      cases hcharge
  | undefined | null | bool | number | object => cases hflat

/-- A call for each element that is visited costs more than the array that is filled. -/
theorem visits_method {address own : Nat} {visit : Visit}
    (hvisit : visit = .map ∨ visit = .filter)
    (h : callMethod (invoke source free) (.array own) visit.name args m =
      .ok (.array address) m') :
    m.steps + (m'.heap.elements address).size / 8 ≤ m'.steps := by
  have hname : visitNamed? visit.name = some visit := by
    cases visit <;> rfl
  rw [callMethod_visit hname] at h
  obtain ⟨items, m₁, hitems, h⟩ := Run.exists_of_bind_ok h
  cases hitems
  obtain ⟨hsteps, hsize⟩ := visitFrom_charges hvisit h
  have hsize : (m'.heap.elements address).size ≤ 0 + (m.heap.elements own).toList.length := hsize
  have hsteps : m.steps + (m.heap.elements own).toList.length ≤ m'.steps := hsteps
  omega

/-- A method charges for what it has made, or is one that does not go by that. -/
theorem Made.paid_or_flat (hmade : Made receiver method args v m m' n)
    (h : callMethod (invoke source free) receiver method args m = .ok v m') :
    m.steps + n ≤ m'.steps ∨
      ∃ c, Flat ⟨Plan.callMethod (Plan.invoke source free) receiver method args, m⟩ m' c := by
  cases hflat : flatCharge? m.heap receiver method args with
  | some c => exact .inr ⟨c, .method h hflat⟩
  | none =>
      cases hmade with
      | text hmakes => exact .inl (pays_method h hflat hmakes)
      | grown address hback => exact .inl (grows_method h hflat hback address)
      | visited hreceiver hvisit hmethod hv =>
          subst hmethod hv
          cases receiver with
          | array own => exact .inl (visits_method hvisit h)
          | undefined | null | bool | number | string | object | function => cases hreceiver
      | part hreceiver hmethod =>
          subst hreceiver hmethod
          cases hflat
      | handed hreceiver hmethod hf =>
          -- the answer is charged for, but not what the function is asked for
          subst hreceiver hmethod
          exact .inr ⟨_, .handed h hf⟩

end Methods

theorem pays_template {source : String} {free : Nat} {span : Span} {quasis : List Quasi}
    {parts : List Expr} {v : Value} {m m' : Machine}
    (h : evaluate ⟨source, invoke source free⟩ (.template span quasis parts) m =
      .ok (some v) m') : m.steps + v.owed ≤ m'.steps := by
  unfold evaluate at h
  obtain ⟨text, m₁, htext, h⟩ := Run.exists_of_bind_ok h
  obtain ⟨_, m₂, hcheck, h⟩ := Run.exists_of_bind_ok h
  let pieces : Plan (evaluateTemplate ⟨source, invoke source free⟩ parts quasis "") :=
    .evaluateTemplate (Plan.invoke source free) parts quasis ""
  have hle := pieces.steps_le_of_ok htext
  obtain ⟨-, rfl⟩ := checkString_ok hcheck
  cases h
  exact Nat.add_le_add_right hle _

theorem pays_spread {source : String} {free : Nat} {inner : Expr} {items extra : Array Value}
    {v : Value} {m m₁ m₂ m' : Machine}
    (hinner : Link.settle (evaluate ⟨source, invoke source free⟩ inner) m = .ok v m₁)
    (hextra : Run.iterate v m₁ = .ok extra m₂)
    (hroom : Run.reserve items.size extra.size m₂ = .ok () m') :
    m.steps + extra.size / 8 ≤ m'.steps := by
  let value : Plan (Link.settle (evaluate ⟨source, invoke source free⟩ inner)) :=
    .settle (.evaluate (Plan.invoke source free) inner)
  have hvalue := value.steps_le_of_ok hinner
  have hlist := (Plan.leaf (.iterate v)).steps_le_of_ok hextra
  obtain ⟨-, rfl⟩ := reserve_ok hroom
  exact Nat.add_le_add_right (Nat.le_trans hvalue hlist) _

/-- What is built is charged for, or by an operation that does not go by that. -/
theorem Built.paid_or_flat {q : Point} {m' : Machine} {n : Nat} (h : Built q m' n) :
    q.machine.steps + n ≤ m'.steps ∨ ∃ c, Flat q m' c := by
  cases h with
  | unary h => exact .inl (pays_applyUnary _ _ _ _ h)
  | binary h => exact .inl (pays_applyBinary _ _ _ _ _ _ h)
  | template h => exact .inl (pays_template h)
  | spread hinner hextra hroom => exact .inl (pays_spread hinner hextra hroom)
  | conversion hx h => exact .inr ⟨0, .conversion hx h⟩
  | write address h => exact .inl (Place.write_charges h address)
  | method h hmade => exact hmade.paid_or_flat h
  | static address h => exact .inr ⟨0, .static h⟩
  | key h ht => exact .inr ⟨0, .static h⟩

/-- What is built along an evaluation is charged for exactly if no operation that does not go by
what it builds has built more than it has charged for. -/
theorem growth_metered_iff {source : String} {p : Program} :
    (∀ q, Reaches (.ofProgram source p) q → ∀ m n, Built q m n →
      q.machine.steps + n ≤ m.steps) ↔
    ∀ q, Reaches (.ofProgram source p) q → ∀ m n c, Built q m n → Flat q m c → n ≤ c := by
  constructor
  · intro h q hq m n c hbuilt hflat
    have hpaid := h q hq m n hbuilt
    rw [hflat.steps_eq] at hpaid
    omega
  · intro h q hq m n hbuilt
    obtain hpaid | ⟨c, hflat⟩ := hbuilt.paid_or_flat
    · exact hpaid
    · have hn := h q hq m n c hbuilt hflat
      rw [hflat.steps_eq]
      omega

/-! ### A string that is not charged for -/

theorem toUpper_append (s t : String) :
    Text.toUpper (s ++ t) = Text.toUpper s ++ Text.toUpper t := by
  simp [Text.toUpper]

theorem utf8ByteSize_toUpper_repeatText (n : Nat) (out : String) :
    (Text.toUpper (repeatText "x" n out)).utf8ByteSize =
      (Text.toUpper out).utf8ByteSize + n := by
  induction n generalizing out with
  | zero => rfl
  | succ n ih =>
      have hx : (Text.toUpper "x").utf8ByteSize = 1 := by decide
      rw [repeatText, ih, toUpper_append, String.utf8ByteSize_append, hx]
      omega

/-- The expression that a program begins to repeat. -/
def looped? (p : Program) : Option Expr :=
  match p.body with
  | [.doWhile _ (.expression _ e) _, .expression _ _] => some e
  | _ => none

/-- A repeated literal in upper case. -/
def shoutsRepeat (n : Nat) : Expr → Bool
  | .call _ (.member _ e name false) [] false => name.text == "toUpperCase" && isRepeat n e
  | _ => false

theorem reaches_loopUntil {body : Run Flow} {test : Run Bool} (pb : Plan body) (pt : Plan test)
    (rounds : Nat) {m m' : Machine} (htick : Run.tick m = .ok () m') :
    Reaches ⟨Plan.loopUntil pb pt (rounds + 1), m⟩ ⟨pb, m'⟩ :=
  .head (.next htick) (.single .first)

theorem reaches_looped {source : String} {p : Program} {e : Expr} (h : looped? p = some e) :
    Reaches (.ofProgram source p)
      (.ofExpr source maxCallDepth e { Machine.initial with steps := 1 }) := by
  unfold looped? at h
  split at h
  next hbody =>
    cases h
    obtain ⟨span, hashbang, directives, body⟩ := p
    obtain rfl := hbody
    have htick : Run.tick .initial = .ok () { Machine.initial with steps := 1 } := rfl
    refine .head (.next rfl) (.head .first (.trans (reaches_loopUntil _ _ maxSteps htick) ?_))
    exact .head .first (.single .first)
  next => cases h

theorem reaches_shoutsRepeat {source : String} {e : Expr} {n : Nat}
    (he : shoutsRepeat n e = true) (hn : Counts n) {m : Machine}
    (hroom : m.steps + n / 64 ≤ maxSteps) :
    Reaches (.ofExpr source maxCallDepth e m)
      ⟨Plan.callMethod (Plan.invoke source maxCallDepth) (.string (repeatText "x" n ""))
        "toUpperCase" #[], { m with steps := m.steps + n / 64 }⟩ := by
  unfold shoutsRepeat at he
  split at he
  next span calleeSpan e name =>
    simp only [Bool.and_eq_true, beq_iff_eq] at he
    obtain ⟨hname, he⟩ := he
    obtain ⟨nameSpan, text⟩ := name
    obtain rfl : text = "toUpperCase" := hname
    have hvalue : evaluate ⟨source, invoke source maxCallDepth⟩ e m = _ :=
      evaluate_isRepeat he hn hroom
    cases e with
    | call =>
        -- the receiver, what it holds under the name, which is nothing, and no arguments
        refine .head (.next hvalue) ?_
        refine .head (.next rfl) ?_
        refine .head (.next rfl) ?_
        exact .single .map
    | _ => cases he
  next => cases he

theorem built_toUpper (source : String) (free : Nat) (s : String) (m : Machine) :
    Built ⟨Plan.callMethod (Plan.invoke source free) (.string s) "toUpperCase" #[], m⟩ m
      ((Text.toUpper s).utf8ByteSize / 64) :=
  have hcall : callMethod (invoke source free) (.string s) "toUpperCase" #[] m =
    .ok (.string (Text.toUpper s)) m := rfl
  .method hcall (.text rfl)

/-- Strings in upper case, none of which is charged for. -/
def loudLoop : String :=
  "do 'x'.repeat(1048576).toUpperCase(); while (exports.include.push('') < 31); " ++
    "exports.include = ['done'];"

theorem growth_unmetered : ∃ p, Program.parse? loudLoop = some p ∧
    ∃ q m n, Reaches (.ofProgram loudLoop p) q ∧ Built q m n ∧ m.steps < q.machine.steps + n := by
  have hshape : ((Program.parse? loudLoop).bind looped?).any
      (shoutsRepeat maxStringLength) = true := by decide +kernel
  obtain ⟨e, he, hshouts⟩ := (Option.any_eq_true _ _).1 hshape
  obtain ⟨p, hparse, hloop⟩ := Option.bind_eq_some_iff.1 he
  have hroom : 1 + maxStringLength / 64 ≤ maxSteps := by decide
  have hmethod : Reaches (.ofExpr loudLoop maxCallDepth e { Machine.initial with steps := 1 }) _ :=
    reaches_shoutsRepeat hshouts counts_maxStringLength hroom
  have hsize : (Text.toUpper (repeatText "x" maxStringLength "")).utf8ByteSize =
      maxStringLength := by
    rw [utf8ByteSize_toUpper_repeatText]
    decide
  refine ⟨p, hparse, _, _, _, (reaches_looped hloop).trans hmethod, built_toUpper _ _ _ _, ?_⟩
  rw [hsize]
  exact Nat.lt_add_of_pos_right (by decide)

end ScopedViews.Sandbox
