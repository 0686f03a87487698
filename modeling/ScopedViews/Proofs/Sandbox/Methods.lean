import ScopedViews.Proofs.Sandbox.Contents
/-!
# What operators and methods answer

Operators and most methods keep a law by themselves: they read what a machine holds, or check the
length of what they have built.  Some methods build strings of which nothing looks at the length,
and `Object.keys` and `Object.values` arrays of which nothing looks at the size.  They keep a law if
what they build is admitted.

* `Builtin.isUnchecked`: methods that answer a string of any length;
* `Law.keeps_callMethod`, `Law.keeps_callStatic`, `Law.keeps_convert`: methods and conversions.
-/

namespace ScopedViews.Sandbox

open Script

/-- Methods that build a string and do not look at its length. -/
def Builtin.isUnchecked : Value → String → Bool
  | .string _, method =>
    ["toUpperCase", "toLowerCase", "trim", "slice", "substring"].contains method
  | .number _, method => method == "toString" || method == "toFixed"
  | .array _, method => method == "toString"
  | .function _, method => method == "toString"
  | _, _ => false

namespace Law

variable {L : Law} {m : Machine}

/-- Values that are no functions. -/
def IsData (v : Value) : Prop := ∀ f, v ≠ .function f

theorem isData_string (s : String) : IsData (.string s) := nofun

/-- A computation that keeps a law apart from the string that it answers. -/
theorem keeps_unchecked {x : Run Value} (hx : L.Keeps IsData x m)
    (h : ∀ t m', x m = .ok (.string t) m' → L.text t) : L.Keeps L.Admits x m := by
  intro hm
  obtain ⟨hholds, hdata⟩ := hx hm
  refine ⟨hholds, fun v m' hv => ?_⟩
  cases v with
  | string t => exact h t m' hv
  | function f => exact absurd rfl (hdata _ m' hv f)
  | undefined | null | bool | number | array | object => trivial

theorem keeps_shown (v : Value) : L.Keeps IsData (Value.string <$> Run.text v) m :=
  keeps_map (keeps_look _) fun _ _ => isData_string _

theorem keeps_value {α : Type} (a : α) : L.Keeps (fun _ => True) (pure a) m := keeps_pure trivial

theorem keeps_text {α : Type} (f : String → α) (v : Value) :
    L.Keeps (fun _ => True) (f <$> Run.text v) m :=
  keeps_map (keeps_look _) fun _ h => h

/-- What has been pushed to the arrays is found there. -/
theorem elements_push (h : Heap) (items : Array Value) :
    ({ h with arrays := h.arrays.push items } : Heap).elements h.arrays.size = items := by
  simp [Heap.elements]

/-! ## Operators -/

theorem keeps_applyUnary (op : UnaryOp) (v : Value) : L.Keeps L.Admits (applyUnary op v) m := by
  cases op with
  | minus | plus | bitNot => exact keeps_bind (keeps_look _) fun _ _ _ _ => keeps_pure trivial
  | not | void | delete => exact keeps_pure trivial
  | typeof => exact keeps_pure (text_typeOf v)

theorem keeps_compareBy (strings : String → String → Bool) (numbers : Float → Float → Bool)
    (left right : Value) : L.Keeps L.Admits (compareBy strings numbers left right) m := by
  unfold compareBy
  split
  · exact keeps_pure trivial
  · exact keeps_view fun _ => trivial

theorem keeps_addition (left right : Value) : L.Keeps L.Admits (addition left right) m := by
  unfold addition
  split
  · exact keeps_view fun _ => trivial
  · exact keeps_bind (keeps_look _) fun _ _ _ _ => keeps_bind (keeps_look _) fun _ _ _ _ =>
      keeps_checked _

theorem keeps_hasKey (left right : Value) : L.Keeps L.Admits (hasKey left right) m := by
  refine keeps_bind (keeps_look _) fun key m' _ _ => ?_
  split
  · exact keeps_view fun _ => trivial
  · exact keeps_view fun _ => trivial
  · exact keeps_raise _

theorem keeps_applyBinary (op : BinaryOp) (left right : Value) (span : Span) :
    L.Keeps L.Admits (applyBinary op left right span) m := by
  cases op with
  | add => exact keeps_addition left right
  | less | lessEqual | greater | greaterEqual =>
      unfold applyBinary
      exact keeps_compareBy _ _ left right
  | identical | notIdentical => exact keeps_pure trivial
  | isIn => exact keeps_hasKey left right
  | instanceOf => exact keeps_halt _
  | _ => exact keeps_view fun _ => trivial

theorem keeps_appendQuasis (quasis : List Quasi) (text : String) :
    L.Keeps (fun _ => True) (appendQuasis quasis text) m := by
  induction quasis generalizing text m with
  | nil => exact keeps_pure trivial
  | cons quasi quasis ih => exact keeps_bind (keeps_checkLength _) fun _ _ _ _ => ih _

/-! ## Arguments -/

open Builtin

theorem admits_argument {args : Array Value} (h : ∀ v ∈ args, L.Admits v) (i : Nat) :
    L.Admits (argument args i) := by
  unfold argument
  rw [Array.getD_eq_getD_getElem?]
  cases hi : args[i]? with
  | none => trivial
  | some v => exact h v (Array.mem_of_getElem? hi)

theorem keeps_numberArgument (args : Array Value) (i : Nat) (default : Float) :
    L.Keeps (fun _ => True) (numberArgument args i default) m := by
  unfold numberArgument
  split
  · exact keeps_pure trivial
  · exact keeps_bind (keeps_look _) fun _ _ _ _ => keeps_pure trivial

theorem keeps_sliceBounds (args : Array Value) (length : Nat) :
    L.Keeps (fun _ => True) (sliceBounds args length) m :=
  keeps_bind (keeps_numberArgument _ _ _) fun _ _ _ _ =>
    keeps_bind (keeps_numberArgument _ _ _) fun _ _ _ _ => keeps_pure trivial

theorem keeps_argumentList (v : Value) :
    L.Keeps (fun items => ∀ x ∈ items, L.Admits x) (argumentList v) m := by
  unfold argumentList
  split
  · exact keeps_pure (by simp)
  · exact keeps_pure (by simp)
  · exact keeps_iterate _

/-! ## Methods of arrays -/

theorem fits_append {items extra : Array Value} (hitems : ∀ v ∈ items, L.Admits v)
    (hextra : ∀ v ∈ extra, L.Admits v) (hroom : items.size + extra.size ≤ maxArrayLength) :
    L.Fits (items ++ extra) where
  size := by
    rw [Array.size_append]
    exact L.size_of_small hroom
  all v hv := by
    rcases Array.mem_append.1 hv with hv | hv
    · exact hitems v hv
    · exact hextra v hv

theorem fits_extract {items : Array Value} (h : L.Fits items) (i j : Nat) :
    L.Fits (items.extract i j) := by
  refine h.mono ?_ fun v hv => mem_of_mem_extract hv
  rw [Array.size_extract]
  omega

theorem keeps_push {address : Nat} {args : Array Value} (hargs : ∀ v ∈ args, L.Admits v) :
    L.Keeps L.Admits (push address args) m := by
  have hsize : L.Keeps (fun present => present = (m.heap.elements address).size)
      (Run.view fun m => (m.heap.elements address).size) m := keeps_view fun _ => rfl
  refine keeps_bind hsize fun present m₁ hview hpresent => ?_
  obtain rfl : m₁ = m := by cases hview; rfl
  refine keeps_bind (keeps_reserve present args.size) fun _ m₂ hreserve hroom => ?_
  -- the room was reserved behind the elements that are there now
  obtain ⟨-, rfl⟩ := reserve_ok hreserve
  refine keeps_bind (keeps_modifyArray fun hm => ?_) fun _ _ _ _ => keeps_pure trivial
  refine fits_append (hm.elements address).all hargs ?_
  rw [hpresent] at hroom
  exact hroom

theorem keeps_unshift {address : Nat} {args : Array Value} (hargs : ∀ v ∈ args, L.Admits v) :
    L.Keeps L.Admits (unshift address args) m := by
  refine keeps_bind (keeps_elements address) fun rest _ _ hrest => ?_
  refine keeps_bind (keeps_modifyArray fun _ => fits_empty) fun _ _ _ _ => ?_
  refine keeps_bind (keeps_reserve args.size rest.size) fun _ _ _ hroom => ?_
  refine keeps_bind (keeps_modifyArray fun _ => ?_) fun _ _ _ _ => keeps_pure trivial
  exact fits_append hargs hrest.all hroom

theorem keeps_pop (address : Nat) : L.Keeps L.Admits (pop address) m := by
  have hlast : L.Keeps (fun last : Option Value => L.Admits (last.getD .undefined))
      (Run.view fun m => (m.heap.elements address).back?) m := by
    refine keeps_view fun hm => ?_
    cases hback : (m.heap.elements address).back? with
    | none => trivial
    | some v =>
        obtain ⟨front, hfront⟩ := Array.back?_eq_some_iff.1 hback
        refine (hm.elements address).all v ?_
        rw [hfront]
        exact Array.mem_push_self
  refine keeps_bind hlast fun last _ _ hlast => ?_
  refine keeps_bind (keeps_modifyArray fun hm => ?_) fun _ _ _ _ => keeps_pure hlast
  refine (hm.elements address).mono ?_ fun v hv => mem_of_mem_pop hv
  rw [Array.size_pop]
  exact Nat.sub_le _ _

theorem keeps_shift (address : Nat) : L.Keeps L.Admits (shift address) m := by
  have hfirst : L.Keeps (fun first : Option Value => L.Admits (first.getD .undefined))
      (Run.view fun m => (m.heap.elements address)[0]?) m := by
    refine keeps_view fun hm => ?_
    cases hfront : (m.heap.elements address)[0]? with
    | none => trivial
    | some v => exact (hm.elements address).all v (Array.mem_of_getElem? hfront)
  refine keeps_bind hfirst fun first _ _ hfirst => ?_
  refine keeps_bind (keeps_modifyArray fun hm => ?_) fun _ _ _ _ => keeps_pure hfirst
  exact fits_extract (hm.elements address) _ _

theorem keeps_joinFrom (separator : String) (items : List Value) (first : Bool) (out : String) :
    L.Keeps (fun _ => True) (joinFrom separator items first out) m := by
  induction items generalizing first out m with
  | nil => exact keeps_pure trivial
  | cons v rest ih =>
      have hrest (text : String) (m : Machine) :
          L.Keeps (fun _ => True) (do Run.checkLength text; joinFrom separator rest false text) m :=
        keeps_bind (keeps_checkLength _) fun _ _ _ _ => ih _ _
      by_cases hnullish : v.isNullish
      · simp only [joinFrom, hnullish, if_true]
        exact hrest _ _
      · simp only [joinFrom, hnullish]
        exact keeps_bind (keeps_text _ _) fun _ _ _ _ => hrest _ _

theorem keeps_concatFrom {items : List Value} {out : Array Value} (hout : L.Fits out)
    (hitems : ∀ v ∈ items, L.Admits v) : L.Keeps L.Fits (concatFrom items out) m := by
  induction items generalizing out m with
  | nil => exact keeps_pure hout
  | cons v rest ih =>
      have hrest := fun x hx => hitems x (List.mem_cons_of_mem v hx)
      unfold concatFrom
      split
      next address =>
        refine keeps_bind (keeps_elements address) fun extra _ _ hextra => ?_
        exact keeps_bind (keeps_reserve _ _) fun _ _ _ hroom =>
          ih (fits_append hout.all hextra.all hroom) hrest
      next =>
        have hv : ∀ x ∈ #[v], L.Admits x := by
          intro x hx
          rw [Array.mem_singleton.1 hx]
          exact hitems v List.mem_cons_self
        refine keeps_bind (keeps_pure (show #[v] = #[v] from rfl)) fun extra _ _ hextra => ?_
        subst hextra
        exact keeps_bind (keeps_reserve _ _) fun _ _ _ hroom =>
          ih (fits_append hout.all hv hroom) hrest

theorem keeps_arrayMethod {invoke : Invoke} {address : Nat} {method : String} {args : Array Value}
    (hargs : ∀ v ∈ args, L.Admits v) (h : callsBack (.array address) method = false)
    (hanswer : ∀ t m', isUnchecked (.array address) method = true →
      arrayMethod invoke address method args m = .ok (.string t) m' → L.text t) :
    L.Keeps L.Admits (arrayMethod invoke address method args) m := by
  generalize hx : arrayMethod invoke address method args = x at hanswer ⊢
  simp only [arrayMethod] at hx
  split at hx <;> subst hx
  · exact keeps_push hargs
  · exact keeps_unshift hargs
  · exact keeps_pop address
  · exact keeps_shift address
  · refine keeps_bind (keeps_modifyArray fun hm => ?_) fun _ _ _ _ => keeps_pure trivial
    exact (hm.elements address).mono (Nat.le_of_eq Array.size_reverse) fun v hv =>
      Array.mem_reverse.1 hv
  · refine keeps_bind (keeps_elements address) fun items _ _ hitems => ?_
    refine keeps_bind (keeps_concatFrom hitems ?_) fun out _ _ hout => keeps_newArray hout
    exact fun v hv => hargs v (Array.mem_toList_iff.1 hv)
  · refine keeps_bind (keeps_elements address) fun items _ _ hitems => ?_
    refine keeps_bind (keeps_sliceBounds _ _) fun bounds _ _ _ => ?_
    exact keeps_newArray (fits_extract hitems _ _)
  · split
    · refine keeps_bind (keeps_value _) fun _ _ _ _ => ?_
      refine keeps_bind (keeps_look _) fun _ _ _ _ => ?_
      exact keeps_bind (keeps_joinFrom _ _ _ _) fun _ _ _ _ => keeps_checked _
    · refine keeps_bind (keeps_look _) fun _ _ _ _ => ?_
      refine keeps_bind (keeps_look _) fun _ _ _ _ => ?_
      exact keeps_bind (keeps_joinFrom _ _ _ _) fun _ _ _ _ => keeps_checked _
  · exact keeps_bind (keeps_look _) fun _ _ _ _ => keeps_pure trivial
  · exact keeps_bind (keeps_look _) fun _ _ _ _ => keeps_pure trivial
  · exact keeps_unchecked (keeps_shown _) (hanswer · · rfl)
  -- what is left calls back, but for a name that is no method
  all_goals first | exact keeps_raise _ | exact Bool.noConfusion (show true = false from h)

/-! ## Methods of strings -/

theorem keeps_appendFrom (items : List Value) (out : String) :
    L.Keeps (fun _ => True) (appendFrom items out) m := by
  induction items generalizing out m with
  | nil => exact keeps_pure trivial
  | cons v rest ih =>
      exact keeps_bind (keeps_look _) fun _ _ _ _ =>
        keeps_bind (keeps_checkLength _) fun _ _ _ _ => ih _

theorem keeps_stringRepeat (s : String) (args : Array Value) :
    L.Keeps L.Admits (stringRepeat s args) m := by
  refine keeps_bind (keeps_numberArgument _ _ _) fun count _ _ _ => ?_
  split
  · exact keeps_raise _
  · split
    · exact keeps_raise _
    · split
      · exact keeps_raise _
      · exact keeps_checked _

/-- The parts of a string, of which nothing looks at the lengths. -/
theorem keeps_split {x : Run (List String)} (hx : L.Keeps (fun _ => True) x m)
    (h : ∀ a m', (do
        let parts ← x
        Run.reserve 0 parts.length
        Run.newArray (parts.map Value.string).toArray) m = .ok (.array a) m' →
      ∀ t, .string t ∈ m'.heap.elements a → L.text t) :
    L.Keeps L.Admits (do
        let parts ← x
        Run.reserve 0 parts.length
        Run.newArray (parts.map Value.string).toArray) m := by
  refine keeps_bind hx fun parts m₁ hparts _ => ?_
  refine keeps_bind (keeps_reserve 0 parts.length) fun _ m₂ hreserve hroom => ?_
  refine keeps_newArray ⟨?_, fun v hv => ?_⟩
  · simp only [List.size_toArray, List.length_map]
    exact L.size_of_small (by omega)
  · have hrun := Run.bind_of_ok hparts (k := fun parts => do
      Run.reserve 0 parts.length
      Run.newArray (parts.map Value.string).toArray)
    have hrest := Run.bind_of_ok hreserve (k := fun _ =>
      Run.newArray (parts.map Value.string).toArray)
    obtain ⟨t, -, rfl⟩ := List.mem_map.1 (List.mem_toArray.1 hv)
    refine h m₂.heap.arrays.size _ (hrun.trans hrest) t ?_
    rw [elements_push]
    exact hv

theorem keeps_stringMethod {invoke : Invoke} {s method : String} {args : Array Value}
    (hs : L.text s) (h : callsBack (.string s) method = false)
    (hanswer : ∀ t m', isUnchecked (.string s) method = true →
      stringMethod invoke s method args m = .ok (.string t) m' → L.text t)
    (hparts : ∀ a m', method = "split" → stringMethod invoke s method args m = .ok (.array a) m' →
      ∀ t, .string t ∈ m'.heap.elements a → L.text t) :
    L.Keeps L.Admits (stringMethod invoke s method args) m := by
  generalize hx : stringMethod invoke s method args = x at hanswer hparts ⊢
  simp only [stringMethod] at hx
  split at hx <;> subst hx
  · exact keeps_pure hs
  · exact keeps_pure hs
  · exact keeps_unchecked (keeps_pure (isData_string _)) (hanswer · · rfl)
  · exact keeps_unchecked (keeps_pure (isData_string _)) (hanswer · · rfl)
  · exact keeps_unchecked (keeps_pure (isData_string _)) (hanswer · · rfl)
  · refine keeps_bind (keeps_numberArgument _ _ _) fun x _ _ _ => keeps_pure ?_
    split
    next c _ => exact text_char c
    next => exact text_empty
  · exact keeps_bind (keeps_look _) fun _ _ _ _ => keeps_pure trivial
  · exact keeps_bind (keeps_look _) fun _ _ _ _ => keeps_pure trivial
  · exact keeps_bind (keeps_look _) fun _ _ _ _ => keeps_pure trivial
  · exact keeps_bind (keeps_look _) fun _ _ _ _ => keeps_pure trivial
  · exact keeps_unchecked
      (keeps_bind (keeps_sliceBounds _ _) fun _ _ _ _ => keeps_pure (isData_string _))
      (hanswer · · rfl)
  · exact keeps_unchecked
      (keeps_bind (keeps_sliceBounds _ _) fun _ _ _ _ => keeps_pure (isData_string _))
      (hanswer · · rfl)
  · cases harg : argument args 0 with
    | undefined =>
        simp only [harg] at hparts ⊢
        exact keeps_split (keeps_value _) (hparts · · trivial)
    | null | bool | number | string | array | object | function =>
        simp only [harg] at hparts ⊢
        exact keeps_split (keeps_text _ _) (hparts · · trivial)
  · exact keeps_bind (keeps_appendFrom _ _) fun _ _ _ _ => keeps_checked _
  · exact keeps_stringRepeat s args
  · exact Bool.noConfusion (show true = false from h)
  · exact keeps_raise _

/-! ## Methods of other values -/

theorem keeps_functionMethod {invoke : Invoke} {f : FunctionRef} {method : String}
    {args : Array Value} (h : callsBack (.function f) method = false)
    (hanswer : ∀ t m', isUnchecked (.function f) method = true →
      functionMethod invoke f method args m = .ok (.string t) m' → L.text t) :
    L.Keeps L.Admits (functionMethod invoke f method args) m := by
  generalize hx : functionMethod invoke f method args = x at hanswer ⊢
  unfold functionMethod at hx
  split at hx <;> subst hx
  · exact Bool.noConfusion (show true = false from h)
  · exact Bool.noConfusion (show true = false from h)
  · exact keeps_unchecked (keeps_pure (isData_string _)) (hanswer · · rfl)
  · exact keeps_raise _

theorem keeps_numberMethod {a : Float} {method : String} {args : Array Value}
    (hanswer : ∀ t m', isUnchecked (.number a) method = true →
      numberMethod a method args m = .ok (.string t) m' → L.text t) :
    L.Keeps L.Admits (numberMethod a method args) m := by
  generalize hx : numberMethod a method args = x at hanswer ⊢
  unfold numberMethod at hx
  split at hx <;> subst hx
  · exact keeps_unchecked (keeps_pure (isData_string _)) (hanswer · · rfl)
  · refine keeps_unchecked (keeps_bind (keeps_numberArgument _ _ _) fun places _ _ _ => ?_)
      (hanswer · · rfl)
    split
    · exact keeps_pure (isData_string _)
    · exact keeps_raise _
  · exact keeps_raise _

/-- The text of a value that is neither a string, nor a number, an array or a function. -/
theorem text_toText {h : Heap} {v : Value}
    (hv : v.typeName ∈ ["undefined", "null", "boolean", "object"]) : L.text (v.toText h) := by
  refine L.text_of_short ?_
  cases v with
  | undefined | null | object =>
      simp only [Value.toText, Value.writeText]
      decide
  | bool b =>
      simp only [Value.toText, Value.writeText]
      cases b <;> decide
  | number | string | array | function => simp [Value.typeName] at hv

theorem keeps_objectMethod (address : Nat) (method : String) (args : Array Value) :
    L.Keeps L.Admits (objectMethod (.object address) method args) m := by
  unfold objectMethod
  split
  · split
    · exact keeps_bind (keeps_value _) fun _ _ _ _ => keeps_view fun _ => trivial
    · exact keeps_bind (keeps_look _) fun _ _ _ _ => keeps_view fun _ => trivial
  · refine keeps_map (keeps_view fun _ => ?_) fun t ht => ht
    exact text_toText (by simp [Value.typeName])
  · exact keeps_raise _

/-- Methods that call nothing back keep a law if the strings that they do not check are admitted. -/
theorem keeps_callMethod {invoke : Invoke} {receiver : Value} {method : String}
    {args : Array Value} (hreceiver : L.Admits receiver) (hargs : ∀ v ∈ args, L.Admits v)
    (h : callsBack receiver method = false)
    (hanswer : ∀ t m', isUnchecked receiver method = true →
      callMethod invoke receiver method args m = .ok (.string t) m' → L.text t)
    (hparts : ∀ s a m', receiver = .string s → method = "split" →
      callMethod invoke receiver method args m = .ok (.array a) m' →
      ∀ t, .string t ∈ m'.heap.elements a → L.text t) :
    L.Keeps L.Admits (callMethod invoke receiver method args) m := by
  cases receiver with
  | array address => exact keeps_arrayMethod hargs h hanswer
  | string s => exact keeps_stringMethod hreceiver h hanswer (hparts s · · rfl)
  | function f => exact keeps_functionMethod h hanswer
  | number a => exact keeps_numberMethod hanswer
  | object address => exact keeps_objectMethod address method args
  | undefined | null | bool b =>
      show L.Keeps L.Admits
        (if method = "toString" then Value.string <$> Run.text _ else Run.raise _) m
      split
      · refine keeps_map (keeps_view fun _ => ?_) fun t ht => ht
        exact text_toText (by simp [Value.typeName])
      · exact keeps_raise _

/-! ## Functions that need no receiver -/

theorem keeps_assignKeys (target source : Value) (keys : List String) :
    L.Keeps (fun _ => True) (assignKeys target source keys) m := by
  induction keys generalizing m with
  | nil => exact keeps_value _
  | cons key rest ih =>
      have hget : L.Keeps L.Admits (Run.view fun m => source.get m.heap key) m :=
        keeps_view fun hm => hm.get source key
      exact keeps_bind hget fun v _ _ hv => keeps_bind (keeps_setProperty _ _ hv) fun _ _ _ _ => ih

theorem keeps_assignAll (target : Value) (sources : List Value) :
    L.Keeps (fun _ => True) (assignAll target sources) m := by
  induction sources generalizing m with
  | nil => exact keeps_value _
  | cons source rest ih =>
      exact keeps_bind (keeps_look _) fun _ _ _ _ =>
        keeps_bind (keeps_assignKeys _ _ _) fun _ _ _ _ => ih

/-- `Object.keys` and `Object.values` keep a law if their arrays, and the names in them, are
admitted. -/
theorem keeps_callStatic {owner method : String} {args : Array Value}
    (hargs : ∀ v ∈ args, L.Admits v)
    (hnames : owner = "Object" → method = "keys" →
      ∀ key ∈ (argument args 0).keys m.heap, L.text key)
    (hcount : owner = "Object" → method = "keys" ∨ method = "values" →
      L.size ((argument args 0).keys m.heap).length) :
    L.Keeps L.Admits (callStatic owner method args) m := by
  unfold callStatic
  split
  · have hkeys : L.Keeps (fun keys => keys = (argument args 0).keys m.heap)
        (Run.view fun m => (argument args 0).keys m.heap) m := keeps_view fun _ => rfl
    refine keeps_bind hkeys fun keys _ _ hkeys => keeps_newArray ⟨?_, fun v hv => ?_⟩
    · rw [hkeys]
      simpa using hcount rfl (.inl rfl)
    · obtain ⟨key, hkey, rfl⟩ := List.mem_map.1 (List.mem_toArray.1 hv)
      exact hnames rfl rfl key (hkeys ▸ hkey)
  · have hvalues : L.Keeps
        (fun values => values.length = ((argument args 0).keys m.heap).length ∧
          ∀ v ∈ values, L.Admits v)
        (Run.view fun m =>
          ((argument args 0).keys m.heap).map ((argument args 0).get m.heap)) m := by
      refine keeps_view fun hm => ⟨List.length_map _, fun v hv => ?_⟩
      obtain ⟨key, -, rfl⟩ := List.mem_map.1 hv
      exact hm.get _ key
    refine keeps_bind hvalues fun values _ _ hvalues => keeps_newArray ⟨?_, fun v hv => ?_⟩
    · rw [List.size_toArray, hvalues.1]
      exact hcount rfl (.inr rfl)
    · exact hvalues.2 v (List.mem_toArray.1 hv)
  · exact keeps_bind (keeps_assignAll _ _) fun _ _ _ _ => keeps_pure (admits_argument hargs 0)
  · exact keeps_pure (admits_argument hargs 0)
  · exact keeps_pure trivial
  · exact keeps_raise _

/-- A conversion keeps a law if the string that it answers is admitted. -/
theorem keeps_convert {name : String} {args : Array Value} {x : Run Value}
    (h : convert? name args = some x)
    (hanswer : ∀ t m', x m = .ok (.string t) m' → L.text t) : L.Keeps L.Admits x m := by
  refine keeps_unchecked ?_ hanswer
  unfold convert? at h
  split at h
  · obtain rfl := Option.some.inj h
    split
    · exact keeps_pure (isData_string _)
    · exact keeps_shown _
  · obtain rfl := Option.some.inj h
    split
    · exact keeps_pure nofun
    · exact keeps_map (keeps_look _) fun _ _ => nofun
  · obtain rfl := Option.some.inj h
    exact keeps_pure nofun
  · cases h

theorem keeps_finish (visit : Visit) {out : Array Value} (hout : L.Fits out) :
    L.Keeps L.Admits (visit.finish out) m := by
  cases visit with
  | map | filter => exact keeps_newArray hout
  | forEach | some | every | find => exact keeps_pure trivial

/-! ## Declarations -/

theorem keeps_functionValue {scene : Scene} (hreads : L.Reads scene.source) {f : Script.Function}
    (hf : L.Allows f.literals (⟨false, f⟩ :: f.definitions))
    (hstart : L.start f.parts.span.start) : L.Keeps L.Admits (functionValue scene f) m := by
  obtain ⟨hd, hbody⟩ := allows_cons.1 hf
  cases f
  exact keeps_makeFunction hreads hd hstart hbody

theorem keeps_methodValue {scene : Scene} (hreads : L.Reads scene.source) {f : Script.Function}
    (hf : L.Allows f.literals (⟨true, f⟩ :: f.definitions))
    (hstart : L.start f.parts.span.start) : L.Keeps L.Admits (methodValue scene f) m := by
  obtain ⟨hd, hbody⟩ := allows_cons.1 hf
  cases f
  exact keeps_makeFunction hreads hd hstart hbody

theorem live_of_bind {α β : Type} {x : Run α} {k : α → Run β} (hk : ∀ a, Metered (k a)) {a : α}
    {m m' : Machine} (hx : x m = .ok a m') (hlive : L.Live (Ending.machine ((x >>= k) m))) :
    L.Live m' := by
  rw [Run.bind_of_ok hx] at hlive
  exact hlive.of_precedes ((hk a).returns m').toPrecedes

/-- A declaration that is hoisted has been registered in the end. -/
theorem keeps_hoist {scene : Scene} (hreads : L.Reads scene.source) {body : List Stmt}
    (hbody : L.Allows (Stmt.literalsOfAll body) (Stmt.definitionsOfAll body))
    (hlive : L.Live (Ending.machine (hoist scene body m))) :
    L.Keeps (fun _ => True) (hoist scene body) m := by
  induction body generalizing m with
  | nil => exact keeps_value _
  | cons s rest ih =>
      rw [Stmt.literalsOfAll, Stmt.definitionsOfAll, allows_append] at hbody
      obtain ⟨hs, hrest⟩ := hbody
      cases s with
      | function f =>
          obtain ⟨span, form, name, isAsync, generator, params, bodySpan, directives, body,
            concise⟩ := f
          cases name with
          | none => exact ih hrest hlive
          | some name =>
              rw [Stmt.literals, Stmt.definitions] at hs
              have hbehind (v : Value) : Metered
                  (do Run.define name.text v; hoist scene rest) :=
                .bind (.define _ _) fun _ => .hoist scene rest
              -- what is registered here is not taken back by what follows
              have hregistered := live_of_bind hbehind rfl hlive
              have hstart : L.start span.start :=
                hregistered _ (OrderedMap.mem_keys_insert.2 (.inr rfl))
              refine keeps_bind (keeps_functionValue hreads hs hstart) fun v m₁ hvalue hv => ?_
              refine keeps_bind (keeps_define _ hv) fun _ m₂ hdefine _ => ih hrest ?_
              have hlast := Run.bind_of_ok (k := fun _ => hoist scene rest) hdefine
              have hboth := Run.bind_of_ok
                (k := fun v => do Run.define name.text v; hoist scene rest) hvalue
              rw [← hlast, ← hboth]
              exact hlive
      | _ => exact ih hrest hlive

theorem keeps_bindCaught {param : Option Pattern} {text : String}
    (h : ∀ span name, param = some (.name span name) → L.text text) :
    L.Keeps (fun _ => True) (bindCaught param text) m := by
  unfold bindCaught
  split
  · exact keeps_value _
  · split
    next span name => exact keeps_define _ (h span name rfl)
    next => exact keeps_halt _

end Law

end ScopedViews.Sandbox
