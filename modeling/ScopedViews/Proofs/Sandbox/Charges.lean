import ScopedViews.Proofs.Sandbox.Upkeep.Statements
/-!
# What operators and methods charge

Some methods charge for what they make; of the others it can be told beforehand what they charge,
whatever they make.

* `Run.Costs`: what a computation charges where it succeeds;
* `Pays`: computations that charge for the string that they answer;
* `Builtin.flatCharge?`: methods that do not go by what they make;
* `Builtin.costs_callMethod`, `Builtin.costs_callStatic`, `Builtin.costs_convert`: what they charge.
-/

namespace ScopedViews.Sandbox

open Script

/-! ## What computations charge -/

namespace Run

variable {α β : Type} {x : Run α} {m m' : Machine}

theorem exists_of_bind_ok {k : α → Run β} {b : β} (h : (x >>= k) m = .ok b m') :
    ∃ a m₁, x m = .ok a m₁ ∧ k a m₁ = .ok b m' := by
  cases hx : x m with
  | ok a m₁ =>
      rw [bind_of_ok hx] at h
      exact ⟨a, m₁, rfl, h⟩
  | error fault m₁ =>
      rw [bind_of_error hx] at h
      cases h

/-- Where it succeeds a computation charges as much. -/
def Costs (x : Run α) (m : Machine) (c : Nat) : Prop :=
  ∀ a m', x m = .ok a m' → m'.steps = m.steps + c

theorem costs_pure (a : α) : Costs (pure a) m 0 := by
  intro b m' h
  cases h
  rfl

theorem costs_raise (e : Exception) (c : Nat) : Costs (raise e : Run α) m c := nofun

theorem costs_view (f : Machine → α) : Costs (view f) m 0 := by
  intro b m' h
  cases h
  rfl

theorem costs_update {f : Machine → Machine} (hf : (f m).steps = m.steps) :
    Costs (update f) m 0 := by
  intro b m' h
  cases h
  exact hf

theorem costs_bind {k : α → Run β} {c d : Nat} (hx : Costs x m c)
    (hk : ∀ a m', x m = .ok a m' → Costs (k a) m' d) : Costs (x >>= k) m (c + d) := by
  intro b m' h
  obtain ⟨a, m₁, hfirst, hrest⟩ := exists_of_bind_ok h
  have hcost := hx a m₁ hfirst
  have hcosts := hk a m₁ hfirst b m' hrest
  omega

/-- What comes first charges nothing. -/
theorem costs_free {k : α → Run β} {c : Nat} (hx : Costs x m 0)
    (hk : ∀ a m', x m = .ok a m' → Costs (k a) m' c) : Costs (x >>= k) m c := by
  have hcosts := costs_bind hx hk
  rwa [Nat.zero_add] at hcosts

theorem costs_map {f : α → β} {c : Nat} (hx : Costs x m c) : Costs (f <$> x) m c := by
  rw [map_eq_pure_bind]
  exact costs_bind hx fun _ _ _ => costs_pure _

theorem costs_reserve (present extra : Nat) : Costs (reserve present extra) m (extra / 8) := by
  intro u m' h
  rw [(reserve_ok h).2]

end Run

open Run

/-- Steps that a string stands for. -/
def Value.owed : Value → Nat
  | .string t => t.utf8ByteSize / 64
  | _ => 0

/-- Where it succeeds a computation has charged for the string that it answers. -/
def Pays (x : Run Value) (m : Machine) : Prop :=
  ∀ v m', x m = .ok v m' → m.steps + v.owed ≤ m'.steps

section Pays

variable {α : Type} {m : Machine}

theorem pays_pure {v : Value} (hv : v.owed = 0) : Pays (pure v) m := by
  intro w m' h
  cases h
  rw [hv]
  exact Nat.le_refl _

theorem pays_view {f : Machine → Value} (hf : (f m).owed = 0) : Pays (view f) m := by
  intro w m' h
  cases h
  rw [hf]
  exact Nat.le_refl _

theorem pays_raise (e : Exception) : Pays (raise e) m := nofun

theorem pays_bind {x : Run α} {k : α → Run Value} (hx : ∀ m, m.steps ≤ (Ending.machine (x m)).steps)
    (hk : ∀ a m', x m = .ok a m' → Pays (k a) m') : Pays (x >>= k) m := by
  intro v m' h
  obtain ⟨a, m₁, hfirst, hrest⟩ := exists_of_bind_ok h
  have hle := hx m
  rw [hfirst] at hle
  exact Nat.le_trans (Nat.add_le_add_right hle _) (hk a m₁ hfirst v m' hrest)

theorem pays_checked (s : String) : Pays (do checkString s; return .string s) m := by
  intro v m' h
  obtain ⟨_, m₁, hcheck, hrest⟩ := exists_of_bind_ok h
  cases hrest
  rw [(checkString_ok hcheck).2]
  exact Nat.le_refl _

/-! ### Operators -/

theorem pays_applyUnary (op : UnaryOp) (v : Value) : Pays (applyUnary op v) m := by
  cases op with
  | minus | plus | bitNot => exact pays_bind (Metered.view _).steps_le fun _ _ _ => pays_pure rfl
  | not | void | delete => exact pays_pure rfl
  | typeof =>
      have hshort : v.typeOf.utf8ByteSize / 64 = 0 := by
        cases v with
        | undefined | null | bool | number | string | array | object | function =>
            simp only [Value.typeOf, Value.typeName]
            decide
      exact pays_pure hshort

theorem pays_compareBy (strings : String → String → Bool) (numbers : Float → Float → Bool)
    (left right : Value) : Pays (compareBy strings numbers left right) m := by
  unfold compareBy
  split
  · exact pays_pure rfl
  · exact pays_view rfl

theorem pays_addition (left right : Value) : Pays (addition left right) m := by
  unfold addition
  split
  · exact pays_view rfl
  · exact pays_bind (Metered.view _).steps_le fun _ _ _ =>
      pays_bind (Metered.view _).steps_le fun _ _ _ => pays_checked _

theorem pays_hasKey (left right : Value) : Pays (hasKey left right) m := by
  refine pays_bind (Metered.view _).steps_le fun key m' _ => ?_
  split
  · exact pays_view rfl
  · exact pays_view rfl
  · exact pays_raise _

theorem pays_applyBinary (op : BinaryOp) (left right : Value) (span : Span) :
    Pays (applyBinary op left right span) m := by
  cases op with
  | add => exact pays_addition left right
  | less | lessEqual | greater | greaterEqual =>
      unfold applyBinary
      exact pays_compareBy _ _ left right
  | identical | notIdentical => exact pays_pure rfl
  | isIn => exact pays_hasKey left right
  | instanceOf => exact nofun
  | _ => exact pays_view rfl

end Pays

/-! ## Methods -/

namespace Builtin

/-- The elements that concatenation adds for an argument. -/
def concatSize (h : Heap) : Value → Nat
  | .array address => (h.elements address).size
  | _ => 1

/-- What concatenation charges, which is for each argument by itself. -/
def concatCharge (h : Heap) (args : List Value) : Nat :=
  (args.map fun v => concatSize h v / 8).sum

/-- The parts that a string is split into. -/
def splitParts (h : Heap) (s : String) : Value → List String
  | .undefined => [s]
  | v => splitText s (v.toText h)

/-- What a method charges that does not go by what it makes: `unshift` charges for the elements that
were there before, `concat` for each argument by itself, `split` for the parts but not for their
lengths, and most charge nothing. -/
def flatCharge? (h : Heap) (receiver : Value) (method : String) (args : Array Value) : Option Nat :=
  match receiver with
  | .array address =>
    match method with
    | "unshift" => some ((h.elements address).size / 8)
    | "concat" => some (concatCharge h args.toList)
    | "push" | "join" => none
    | _ => if callsBack receiver method then none else some 0
  | .string s =>
    match method with
    | "split" => some ((splitParts h s (argument args 0)).length / 8)
    | "concat" | "repeat" => none
    | "replace" =>
      if (Text.find? ((argument args 0).toText h).toList s.toList).isSome then none else some 0
    | _ => some 0
  | _ => if callsBack receiver method then none else some 0

/-- The methods of arrays that call nothing back and go by what they make. -/
theorem charging_array {h : Heap} {address : Nat} {method : String} {args : Array Value}
    (hnone : flatCharge? h (.array address) method args = none)
    (hback : callsBack (.array address) method = false) : method = "push" ∨ method = "join" := by
  simp only [flatCharge?] at hnone
  split at hnone
  · cases hnone
  · cases hnone
  · exact .inl rfl
  · exact .inr rfl
  · rw [hback] at hnone
    cases hnone

/-- The methods of strings that go by what they make. -/
theorem charging_string {h : Heap} {s method : String} {args : Array Value}
    (hnone : flatCharge? h (.string s) method args = none) :
    method = "concat" ∨ method = "repeat" ∨
      method = "replace" ∧
        ∃ i, Text.find? ((argument args 0).toText h).toList s.toList = some i := by
  simp only [flatCharge?] at hnone
  split at hnone
  · cases hnone
  · exact .inl rfl
  · exact .inr (.inl rfl)
  · split at hnone
    next hfound => exact .inr (.inr ⟨rfl, Option.isSome_iff_exists.1 hfound⟩)
    next => cases hnone
  · cases hnone

variable {m : Machine} {c : Nat}

/-! ### Flat charges -/

theorem costs_numberArgument (args : Array Value) (i : Nat) (default : Float) :
    Costs (numberArgument args i default) m 0 := by
  unfold numberArgument
  split
  · exact costs_pure _
  · exact costs_free (costs_view _) fun _ _ _ => costs_pure _

theorem costs_sliceBounds (args : Array Value) (length : Nat) :
    Costs (sliceBounds args length) m 0 :=
  costs_free (costs_numberArgument _ _ _) fun _ _ _ =>
    costs_free (costs_numberArgument _ _ _) fun _ _ _ => costs_pure _

theorem costs_newArray (items : Array Value) : Costs (newArray items) m 0 := by
  intro v m' h
  cases h
  rfl

theorem costs_modifyArray (address : Nat) (f : Array Value → Array Value) :
    Costs (modifyArray address f) m 0 := costs_update rfl

theorem costs_unshift (address : Nat) (args : Array Value) :
    Costs (unshift address args) m ((m.heap.elements address).size / 8) := by
  intro v m' h
  obtain ⟨rest, m₁, hrest, h⟩ := exists_of_bind_ok h
  cases hrest
  -- room is made for what was there, behind the arguments
  have htaken : Costs (do
      modifyArray address fun _ => #[]
      reserve args.size (m.heap.elements address).size
      modifyArray address fun _ => args ++ m.heap.elements address
      return Value.number (Float.ofNat (args.size + (m.heap.elements address).size))) m
        ((m.heap.elements address).size / 8) :=
    costs_free (costs_modifyArray _ _) fun _ _ _ =>
      costs_bind (costs_reserve _ _) fun _ _ _ =>
        costs_free (costs_modifyArray _ _) fun _ _ _ => costs_pure _
  exact htaken v m' h

/-- Making room changes nothing but the counter, so all arguments are read off one heap. -/
theorem costs_concatFrom (items : List Value) (out : Array Value) :
    Costs (concatFrom items out) m (concatCharge m.heap items) := by
  induction items generalizing out m with
  | nil => exact costs_pure _
  | cons v rest ih =>
      have hrest (extra : Array Value) (hsize : extra.size = concatSize m.heap v) :
          Costs (do reserve out.size extra.size; concatFrom rest (out ++ extra)) m
            (concatCharge m.heap (v :: rest)) := by
        intro a m' h
        obtain ⟨_, m₁, hreserve, h⟩ := exists_of_bind_ok h
        obtain ⟨-, rfl⟩ := reserve_ok hreserve
        have hcosts := ih _ a m' h
        simp only [concatCharge, List.map_cons, List.sum_cons] at hcosts ⊢
        rw [← hsize]
        omega
      cases v with
      | array address => exact hrest (m.heap.elements address) rfl
      | undefined | null | bool | number | string | object | function => exact hrest #[_] rfl

theorem costs_arrayMethod {invoke : Invoke} {address : Nat} {method : String} {args : Array Value}
    (h : flatCharge? m.heap (.array address) method args = some c) :
    Costs (arrayMethod invoke address method args) m c := by
  simp only [arrayMethod]
  split
  · cases h
  · cases h
    exact costs_unshift address args
  · cases h
    exact costs_free (costs_view _) fun _ _ _ =>
      costs_free (costs_modifyArray _ _) fun _ _ _ => costs_pure _
  · cases h
    exact costs_free (costs_view _) fun _ _ _ =>
      costs_free (costs_modifyArray _ _) fun _ _ _ => costs_pure _
  · cases h
    exact costs_free (costs_modifyArray _ _) fun _ _ _ => costs_pure _
  · cases h
    intro v m' hx
    obtain ⟨items, m₁, helements, hx⟩ := exists_of_bind_ok hx
    cases helements
    -- the elements of the receiver are copied without a charge
    have hconcat : Costs (do newArray (← concatFrom args.toList (m.heap.elements address))) m
        (concatCharge m.heap args.toList) :=
      costs_bind (costs_concatFrom _ _) fun _ _ _ => costs_newArray _
    exact hconcat v m' hx
  · cases h
    exact costs_free (costs_view _) fun _ _ _ =>
      costs_free (costs_sliceBounds _ _) fun _ _ _ => costs_newArray _
  · cases h
  · cases h
    exact costs_free (costs_view _) fun _ _ _ => costs_pure _
  · cases h
    exact costs_free (costs_view _) fun _ _ _ => costs_pure _
  · cases h
    exact costs_map (costs_view _)
  -- what is left calls back, but for a name that is no method
  all_goals first | exact costs_raise _ _ | cases h

theorem costs_split {s : String} {parts : Run (List String)} {v : Value}
    (hparts : parts m = .ok (splitParts m.heap s v) m) :
    Costs (do
        let parts ← parts
        reserve 0 parts.length
        newArray (parts.map Value.string).toArray) m ((splitParts m.heap s v).length / 8) := by
  intro w m' h
  rw [bind_of_ok hparts] at h
  have hmade : Costs (do
      reserve 0 (splitParts m.heap s v).length
      newArray ((splitParts m.heap s v).map Value.string).toArray) m
        ((splitParts m.heap s v).length / 8) :=
    costs_bind (costs_reserve _ _) fun _ _ _ => costs_newArray _
  exact hmade w m' h

theorem costs_stringMethod {invoke : Invoke} {s method : String} {args : Array Value}
    (h : flatCharge? m.heap (.string s) method args = some c) :
    Costs (stringMethod invoke s method args) m c := by
  simp only [stringMethod]
  split
  · cases h
    exact costs_pure _
  · cases h
    exact costs_pure _
  · cases h
    exact costs_pure _
  · cases h
    exact costs_pure _
  · cases h
    exact costs_pure _
  · cases h
    exact costs_free (costs_numberArgument _ _ _) fun _ _ _ => costs_pure _
  · cases h
    exact costs_free (costs_view _) fun _ _ _ => costs_pure _
  · cases h
    exact costs_free (costs_view _) fun _ _ _ => costs_pure _
  · cases h
    exact costs_free (costs_view _) fun _ _ _ => costs_pure _
  · cases h
    exact costs_free (costs_view _) fun _ _ _ => costs_pure _
  · cases h
    exact costs_free (costs_sliceBounds _ _) fun _ _ _ => costs_pure _
  · cases h
    exact costs_free (costs_sliceBounds _ _) fun _ _ _ => costs_pure _
  · cases h
    cases argument args 0 with
    | undefined => exact costs_split rfl
    | null | bool | number | string | array | object | function => exact costs_split rfl
  · cases h
  · cases h
  · -- nothing is charged only where the pattern is not found
    intro v m' hx
    obtain ⟨pattern, m₁, hpattern, hx⟩ := exists_of_bind_ok hx
    cases hpattern
    have hflat : (if (Text.find? ((argument args 0).toText m.heap).toList s.toList).isSome
        then none else some 0) = some c := h
    cases hfind : Text.find? ((argument args 0).toText m.heap).toList s.toList with
    | some i => simp [hfind] at hflat
    | none =>
        simp only [hfind, Option.isSome_none, Bool.false_eq_true, if_false] at hflat hx
        cases hflat
        exact costs_pure _ v m' hx
  · exact costs_raise _ _

theorem costs_functionMethod {invoke : Invoke} {f : FunctionRef} {method : String}
    {args : Array Value} (h : flatCharge? m.heap (.function f) method args = some c) :
    Costs (functionMethod invoke f method args) m c := by
  unfold functionMethod
  split
  · cases h
  · cases h
  · cases h
    exact costs_pure _
  · exact costs_raise _ _

theorem costs_numberMethod (x : Float) (method : String) (args : Array Value) :
    Costs (numberMethod x method args) m 0 := by
  unfold numberMethod
  split
  · exact costs_pure _
  · refine costs_free (costs_numberArgument _ _ _) fun places _ _ => ?_
    split
    · exact costs_pure _
    · exact costs_raise _ _
  · exact costs_raise _ _

theorem costs_objectMethod (receiver : Value) (method : String) (args : Array Value) :
    Costs (objectMethod receiver method args) m 0 := by
  unfold objectMethod
  split
  · split
    · exact costs_free (costs_pure _) fun _ _ _ => costs_view _
    · exact costs_free (costs_view _) fun _ _ _ => costs_view _
  · exact costs_map (costs_view _)
  · exact costs_raise _ _

/-- What a method charges that does not go by what it makes. -/
theorem costs_callMethod {invoke : Invoke} {receiver : Value} {method : String}
    {args : Array Value} (h : flatCharge? m.heap receiver method args = some c) :
    Costs (callMethod invoke receiver method args) m c := by
  cases receiver with
  | array address => exact costs_arrayMethod h
  | string s => exact costs_stringMethod h
  | function f => exact costs_functionMethod h
  | number x =>
      cases h
      exact costs_numberMethod x method args
  | object address =>
      cases h
      exact costs_objectMethod _ method args
  | undefined | null | bool b =>
      cases h
      show Costs (if method = "toString" then Value.string <$> Run.text _ else raise _) m 0
      split
      · exact costs_map (costs_view _)
      · exact costs_raise _ _

theorem costs_setProperty (v : Value) (key : String) (x : Value) :
    Costs (setProperty v key x) m 0 := by
  refine costs_free (costs_view _) fun planned m' _ => ?_
  split
  · exact costs_update rfl
  · exact costs_raise _ _

theorem costs_assignKeys (target source : Value) (keys : List String) :
    Costs (assignKeys target source keys) m 0 := by
  induction keys generalizing m with
  | nil => exact costs_pure _
  | cons key rest ih =>
      exact costs_free (costs_view _) fun _ _ _ =>
        costs_free (costs_setProperty _ _ _) fun _ _ _ => ih

theorem costs_assignAll (target : Value) (sources : List Value) :
    Costs (assignAll target sources) m 0 := by
  induction sources generalizing m with
  | nil => exact costs_pure _
  | cons source rest ih =>
      exact costs_free (costs_view _) fun _ _ _ =>
        costs_free (costs_assignKeys _ _ _) fun _ _ _ => ih

/-- The functions of `Object` and `Array` charge nothing. -/
theorem costs_callStatic (owner method : String) (args : Array Value) :
    Costs (callStatic owner method args) m 0 := by
  unfold callStatic
  split
  · exact costs_free (costs_view _) fun _ _ _ => costs_newArray _
  · exact costs_free (costs_view _) fun _ _ _ => costs_newArray _
  · exact costs_free (costs_assignAll _ _) fun _ _ _ => costs_pure _
  · exact costs_pure _
  · exact costs_pure _
  · exact costs_raise _ _

/-- Conversions charge nothing. -/
theorem costs_convert {name : String} {args : Array Value} {x : Run Value}
    (h : convert? name args = some x) : Costs x m 0 := by
  unfold convert? at h
  split at h
  · obtain rfl := Option.some.inj h
    split
    · exact costs_pure _
    · exact costs_map (costs_view _)
  · obtain rfl := Option.some.inj h
    split
    · exact costs_pure _
    · exact costs_map (costs_view _)
  · obtain rfl := Option.some.inj h
    exact costs_pure _
  · cases h

/-! ### Charges for what is made -/

theorem pays_stringConcat (s : String) (args : Array Value) :
    Pays (do
      let out ← appendFrom args.toList s
      checkString out
      return .string out) m :=
  pays_bind (Metered.appendFrom _ _).steps_le fun _ _ _ => pays_checked _

theorem pays_stringRepeat (s : String) (args : Array Value) : Pays (stringRepeat s args) m := by
  refine pays_bind (Metered.numberArgument _ _ _).steps_le fun count _ _ => ?_
  split
  · exact pays_raise _
  · split
    · exact pays_raise _
    · split
      · exact pays_raise _
      · exact pays_checked _

/-- What a function makes of an occurrence is charged for with the string that it stands in. -/
theorem pays_stringReplace {invoke : Invoke} (calls : Calls invoke) {s : String}
    {args : Array Value} {i : Nat}
    (hi : Text.find? ((argument args 0).toText m.heap).toList s.toList = some i) :
    Pays (stringReplace invoke s args) m := by
  intro v m' h
  obtain ⟨pattern, m₁, hpattern, h⟩ := exists_of_bind_ok h
  cases hpattern
  simp only [hi] at h
  have hpays : Pays (do
      let replacement ← replacementText invoke s ((argument args 0).toText m.heap) i
        (argument args 1)
      let out := String.ofList (s.toList.take i) ++ replacement ++
        String.ofList (s.toList.drop (i + ((argument args 0).toText m.heap).length))
      checkString out
      return .string out) m :=
    pays_bind (Plan.replacementText calls _ _ _ _).steps_le fun _ _ _ => pays_checked _
  exact hpays v m' h

theorem pays_join (address : Nat) (args : Array Value) (invoke : Invoke) :
    Pays (arrayMethod invoke address "join" args) m := by
  simp only [arrayMethod]
  split
  · exact pays_bind (Metered.pure _).steps_le fun _ _ _ =>
      pays_bind (Metered.view _).steps_le fun _ _ _ =>
        pays_bind (Metered.joinFrom _ _ _ _).steps_le fun _ _ _ => pays_checked _
  · exact pays_bind (Metered.view _).steps_le fun _ _ _ =>
      pays_bind (Metered.view _).steps_le fun _ _ _ =>
        pays_bind (Metered.joinFrom _ _ _ _).steps_le fun _ _ _ => pays_checked _

end Builtin

end ScopedViews.Sandbox
