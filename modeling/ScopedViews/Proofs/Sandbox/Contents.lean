import ScopedViews.Proofs.Sandbox.Budget
import ScopedViews.Proofs.Sandbox.Indices
import ScopedViews.Proofs.Script.Definitions
import ScopedViews.Proofs.Script.Literals
/-!
# What a machine holds

A law says which strings, which sizes of arrays and which functions are admitted.  Short strings and
small arrays always are.  A machine holds to a law if all that it holds does, and what the small
computations of an evaluation store and answer is admitted again, as long as what they build
themselves is.

* `Law`, `Law.Holds`: laws, and the machines that hold to them;
* `Law.Lenient`: laws that are about strings and arrays only;
* `Law.Keeps`: computations that start on such a machine and leave one;
* the lemmas `keeps_…`: the small computations do.
-/

namespace ScopedViews

namespace OrderedMap

variable {κ α : Type} [DecidableEq κ] {m : OrderedMap κ α} {k : κ} {v : α} {e : κ × α}

theorem mem_entries_insert (h : e ∈ (m.insert k v).entries) : e ∈ m.entries ∨ e = (k, v) := by
  obtain ⟨entries, nodup⟩ := m
  simp only [insert] at h
  split at h
  next i _ => exact Array.mem_or_eq_of_mem_setIfInBounds h
  next => exact Array.mem_push.1 h

end OrderedMap

theorem mem_or_eq_of_mem_modify {α : Type} {xs : Array α} {i : Nat} {f : α → α} {x : α}
    (default : α) (h : x ∈ xs.modify i f) : x ∈ xs ∨ x = f (xs.getD i default) := by
  obtain ⟨j, hj, rfl⟩ := Array.mem_iff_getElem.1 h
  rw [Array.size_modify] at hj
  rw [Array.getElem_modify]
  split
  next hij =>
    subst hij
    refine .inr ?_
    rw [Array.getD_eq_getD_getElem?, Array.getElem?_eq_getElem hj]
    rfl
  next => exact .inl (Array.getElem_mem hj)

theorem mem_of_mem_extract {α : Type} {xs : Array α} {i j : Nat} {x : α}
    (h : x ∈ xs.extract i j) : x ∈ xs := by
  obtain ⟨k, hk, rfl⟩ := Array.mem_extract_iff_getElem.1 h
  exact Array.getElem_mem _

theorem mem_of_mem_pop {α : Type} {xs : Array α} {x : α} (h : x ∈ xs.pop) : x ∈ xs := by
  obtain ⟨i, hi, rfl⟩ := Array.mem_iff_getElem.1 h
  rw [Array.getElem_pop]
  exact Array.getElem_mem _

namespace Sandbox

open Script

/-! ## Laws -/

/-- Which strings, arrays of how many elements, and functions may be held, where functions may start
that are called, which definitions may be evaluated and how many frames there may be. -/
structure Law where
  text : String → Prop
  size : Nat → Prop
  text_of_short {s : String} : s.utf8ByteSize ≤ maxStringLength → text s
  size_of_small {n : Nat} : n ≤ maxArrayLength → size n
  size_mono {n k : Nat} : k ≤ n → size n → size k
  function : FunctionRef → Prop := fun _ => True
  start : Nat → Prop := fun _ => True
  definition : Definition → Prop := fun _ => True
  frames : Nat → Prop := fun _ => True

namespace Law

variable (L : Law)

def Admits : Value → Prop
  | .string s => L.text s
  | .function f => L.start f.start ∧ L.function f
  | _ => True

/-- The elements of an array that may be held. -/
structure Fits (items : Array Value) : Prop where
  size : L.size items.size
  all : ∀ v ∈ items, L.Admits v

def AdmitsAll (members : Properties) : Prop := ∀ e ∈ members.entries, L.Admits e.2

/-- Code that spells out these strings and defines these functions may be evaluated. -/
structure Allows (literals : List String) (definitions : List Definition) : Prop where
  texts : ∀ s ∈ literals, L.text s
  definitions : ∀ d ∈ definitions, L.definition d

/-- What is registered at an offset is a definition that starts there and may be evaluated. -/
structure Registers (start : Nat) (f : Script.Function) : Prop where
  defined : ∃ d, L.definition d ∧ d.start = start ∧ d.function = f
  body : L.Allows f.literals f.definitions

/-- All that a machine holds is admitted, and so are the definitions of its functions. -/
structure Holds (m : Machine) : Prop where
  arrays : ∀ items ∈ m.heap.arrays, L.Fits items
  objects : ∀ members ∈ m.heap.objects, L.AdmitsAll members
  locals : ∀ frame ∈ m.locals, L.AdmitsAll frame
  global : L.AdmitsAll m.global
  functions : ∀ e ∈ m.functions.entries, L.Registers e.1 e.2

/-- All functions that a machine has registered may be called. -/
def Live (m : Machine) : Prop := ∀ start ∈ m.starts, L.start start

/-- The functions that a text defines may be held. -/
def Reads (source : String) : Prop :=
  ∀ d, L.definition d → ∀ made, L.function ⟨made, d.start, d.text source⟩

/-- A law that is about strings and arrays only. -/
class Lenient : Prop where
  function : ∀ f, L.function f
  start : ∀ start, L.start start
  definition : ∀ d, L.definition d
  frames : ∀ n, L.frames n

/-- The law that admits everything. -/
def everything : Law where
  text _ := True
  size _ := True
  text_of_short _ := trivial
  size_of_small _ := trivial
  size_mono _ _ := trivial

instance : everything.Lenient :=
  ⟨fun _ => trivial, fun _ => trivial, fun _ => trivial, fun _ => trivial⟩

variable {L}

/-- A law that admits more is held to as well. -/
theorem Holds.imp {L' : Law} [hlenient : L'.Lenient] {m : Machine} (h : L.Holds m)
    (htext : ∀ s, L.text s → L'.text s) (hsize : ∀ n, L.size n → L'.size n) : L'.Holds m := by
  have hadmits (v : Value) (hv : L.Admits v) : L'.Admits v := by
    cases v with
    | string s => exact htext s hv
    | function f => exact ⟨hlenient.start _, hlenient.function f⟩
    | undefined | null | bool | number | array | object => trivial
  have hall {members : Properties} (hmembers : L.AdmitsAll members) : L'.AdmitsAll members :=
    fun e he => hadmits e.2 (hmembers e he)
  exact
    { arrays := fun items hitems =>
        { size := hsize _ (h.arrays items hitems).size
          all := fun v hv => hadmits v ((h.arrays items hitems).all v hv) }
      objects := fun members hmembers => hall (h.objects members hmembers)
      locals := fun frame hframe => hall (h.locals frame hframe)
      global := hall h.global
      functions := fun e he =>
        { defined := (h.functions e he).defined.imp fun d hd => ⟨hlenient.definition d, hd.2⟩
          body :=
            { texts := fun s hs => htext s ((h.functions e he).body.texts s hs)
              definitions := fun d _ => hlenient.definition d } } }

theorem Live.of_precedes {m m' : Machine} (h : L.Live m') (hprecedes : m.Precedes m') : L.Live m :=
  fun start hstart => h start (hprecedes.starts start hstart)

/-! ### Code -/

theorem allows_append {literals literals' : List String}
    {definitions definitions' : List Definition} :
    L.Allows (literals ++ literals') (definitions ++ definitions') ↔
      L.Allows literals definitions ∧ L.Allows literals' definitions' := by
  constructor
  · rintro ⟨htexts, hdefinitions⟩
    rw [List.forall_mem_append] at htexts hdefinitions
    exact ⟨⟨htexts.1, hdefinitions.1⟩, ⟨htexts.2, hdefinitions.2⟩⟩
  · rintro ⟨h, h'⟩
    exact ⟨List.forall_mem_append.2 ⟨h.texts, h'.texts⟩,
      List.forall_mem_append.2 ⟨h.definitions, h'.definitions⟩⟩

theorem allows_cons {literals : List String} {d : Definition} {definitions : List Definition} :
    L.Allows literals (d :: definitions) ↔ L.definition d ∧ L.Allows literals definitions := by
  constructor
  · rintro ⟨htexts, hdefinitions⟩
    rw [List.forall_mem_cons] at hdefinitions
    exact ⟨hdefinitions.1, htexts, hdefinitions.2⟩
  · rintro ⟨hd, h⟩
    exact ⟨h.texts, List.forall_mem_cons.2 ⟨hd, h.definitions⟩⟩

/-! ### Values and collections of them -/

@[simp] theorem admits_undefined : L.Admits .undefined := trivial

@[simp] theorem admits_null : L.Admits .null := trivial

@[simp] theorem admits_bool (b : Bool) : L.Admits (.bool b) := trivial

@[simp] theorem admits_number (x : Float) : L.Admits (.number x) := trivial

@[simp] theorem admits_string {s : String} : L.Admits (.string s) ↔ L.text s := .rfl

@[simp] theorem admits_array (address : Nat) : L.Admits (.array address) := trivial

@[simp] theorem admits_object (address : Nat) : L.Admits (.object address) := trivial

@[simp] theorem admits_function {f : FunctionRef} :
    L.Admits (.function f) ↔ L.start f.start ∧ L.function f := .rfl

theorem text_char (c : Char) : L.text c.toString := by
  refine L.text_of_short ?_
  have hsize : c.toString.utf8ByteSize = c.utf8Size := String.utf8ByteSize_singleton
  have hfour := c.utf8Size_le_four
  have hlimit : 4 ≤ maxStringLength := by decide
  omega

theorem text_empty : L.text "" := L.text_of_short (by decide)

theorem text_typeOf (v : Value) : L.text v.typeOf := by
  refine L.text_of_short ?_
  cases v with
  | undefined | null | bool | number | string | array | object | function =>
      simp only [Value.typeOf, Value.typeName]
      decide

theorem Fits.mono {items : Array Value} (h : L.Fits items) {sub : Array Value}
    (hsize : sub.size ≤ items.size) (hsub : ∀ v ∈ sub, v ∈ items) : L.Fits sub where
  size := L.size_mono hsize h.size
  all v hv := h.all v (hsub v hv)

theorem fits_empty : L.Fits #[] where
  size := L.size_of_small (Nat.zero_le _)
  all v hv := by simp at hv

theorem AdmitsAll.insert {members : Properties} (h : L.AdmitsAll members) {key : String}
    {v : Value} (hv : L.Admits v) : L.AdmitsAll (members.insert key v) := by
  intro e he
  rcases OrderedMap.mem_entries_insert he with he | rfl
  · exact h e he
  · exact hv

theorem AdmitsAll.get? {members : Properties} (h : L.AdmitsAll members) {key : String} {v : Value}
    (hv : members.get? key = some v) : L.Admits v := by
  exact h (key, v) (OrderedMap.mem_of_get? hv)

theorem admitsAll_empty : L.AdmitsAll .empty := by
  intro e he
  simp [OrderedMap.empty] at he

/-! ### Reading the heap -/

namespace Holds

variable {m : Machine}

theorem elements (h : L.Holds m) (address : Nat) : L.Fits (m.heap.elements address) := by
  unfold Heap.elements
  rw [Array.getD_eq_getD_getElem?]
  cases hitems : m.heap.arrays[address]? with
  | none => exact fits_empty
  | some items => exact h.arrays items (Array.mem_of_getElem? hitems)

theorem properties (h : L.Holds m) (address : Nat) : L.AdmitsAll (m.heap.properties address) := by
  unfold Heap.properties
  rw [Array.getD_eq_getD_getElem?]
  cases hmembers : m.heap.objects[address]? with
  | none => exact admitsAll_empty
  | some members => exact h.objects members (Array.mem_of_getElem? hmembers)

/-- A property that is read is an element, a member or a character. -/
theorem get (h : L.Holds m) (v : Value) (key : String) : L.Admits (v.get m.heap key) := by
  cases v with
  | object address =>
      show L.Admits (((m.heap.properties address).get? key).getD .undefined)
      cases hmember : (m.heap.properties address).get? key with
      | none => trivial
      | some x => exact (h.properties address).get? hmember
  | array address =>
      simp only [Value.get]
      split
      · trivial
      · cases helement : (Value.index? key).bind ((m.heap.elements address)[·]?) with
        | none => trivial
        | some x =>
            obtain ⟨i, -, hi⟩ := Option.bind_eq_some_iff.1 helement
            exact (h.elements address).all x (Array.mem_of_getElem? hi)
  | string s =>
      simp only [Value.get]
      split
      · trivial
      · cases hchar : (Value.index? key).bind (s.toList[·]?) with
        | none => trivial
        | some c => exact text_char c
  | undefined | null | bool | number | function => trivial

theorem find? (h : L.Holds m) {name : String} {v : Value} (hv : Run.find? name m = some v) :
    L.Admits v := by
  -- from the innermost frame outwards, the global one last
  have hgo (frames : List Frame) (hframes : ∀ frame ∈ frames, L.AdmitsAll frame)
      (hv : Run.find?.go name m frames = some v) : L.Admits v := by
    induction frames with
    | nil => exact h.global.get? hv
    | cons frame rest ih =>
        unfold Run.find?.go at hv
        split at hv
        next x hx =>
          cases hv
          exact (hframes frame (List.mem_cons_self)).get? hx
        next => exact ih (fun f hf => hframes f (List.mem_cons_of_mem _ hf)) hv
  exact hgo m.locals h.locals hv

/-! ### Changing the machine -/

theorem modifyArray (h : L.Holds m) {address : Nat} {f : Array Value → Array Value}
    (hf : L.Fits (f (m.heap.elements address))) :
    L.Holds { m with heap := m.heap.modifyArray address f } where
  arrays items hitems := by
    have hitems : items ∈ m.heap.arrays.modify address f := hitems
    rcases mem_or_eq_of_mem_modify #[] hitems with hitems | rfl
    · exact h.arrays items hitems
    · exact hf
  objects := h.objects
  locals := h.locals
  global := h.global
  functions := h.functions

theorem modifyObject (h : L.Holds m) {address : Nat} {key : String} {v : Value}
    (hv : L.Admits v) :
    L.Holds { m with heap := m.heap.modifyObject address (·.insert key v) } where
  arrays := h.arrays
  objects members hmembers := by
    have hmembers : members ∈ m.heap.objects.modify address (·.insert key v) := hmembers
    rcases mem_or_eq_of_mem_modify .empty hmembers with hmembers | rfl
    · exact h.objects members hmembers
    · exact (h.properties address).insert hv
  locals := h.locals
  global := h.global
  functions := h.functions

theorem newArray (h : L.Holds m) {items : Array Value} (hitems : L.Fits items) :
    L.Holds { m with heap := { m.heap with arrays := m.heap.arrays.push items } } where
  arrays xs hxs := by
    rcases Array.mem_push.1 hxs with hxs | rfl
    · exact h.arrays xs hxs
    · exact hitems
  objects := h.objects
  locals := h.locals
  global := h.global
  functions := h.functions

theorem newObject (h : L.Holds m) {members : Properties} (hmembers : L.AdmitsAll members) :
    L.Holds { m with heap := { m.heap with objects := m.heap.objects.push members } } where
  arrays := h.arrays
  objects xs hxs := by
    rcases Array.mem_push.1 hxs with hxs | rfl
    · exact h.objects xs hxs
    · exact hmembers
  locals := h.locals
  global := h.global
  functions := h.functions

end Holds

/-! ## Computations that keep a law -/

/-- Started on a machine that holds to a law, a computation leaves one that does as well, and what
it answers is good. -/
def Keeps (L : Law) {α : Type} (good : α → Prop) (x : Run α) (m : Machine) : Prop :=
  L.Holds m → L.Holds (Ending.machine (x m)) ∧ ∀ a m', x m = .ok a m' → good a

section Rules

variable {α β : Type} {good : α → Prop} {good' : β → Prop} {x : Run α} {m : Machine}

theorem keeps_pure {a : α} (ha : good a) : L.Keeps good (pure a) m := by
  intro hm
  refine ⟨hm, fun b m' hb => ?_⟩
  cases hb
  exact ha

theorem keeps_error {fault : Fault} (hx : x m = .error fault m) : L.Keeps good x m := by
  intro hm
  rw [hx]
  exact ⟨hm, nofun⟩

theorem keeps_raise (e : Exception) : L.Keeps good (Run.raise e) m := keeps_error rfl

theorem keeps_halt (h : Halt) : L.Keeps good (Run.halt h) m := keeps_error rfl

theorem keeps_view {f : Machine → α} (hf : L.Holds m → good (f m)) :
    L.Keeps good (Run.view f) m := by
  intro hm
  refine ⟨hm, fun b m' hb => ?_⟩
  cases hb
  exact hf hm

/-- Nothing needs to be said of what is read off a machine, unless it is a value. -/
theorem keeps_look (f : Machine → α) : L.Keeps (fun _ => True) (Run.view f) m :=
  keeps_view fun _ => trivial

theorem keeps_update {f : Machine → Machine} (hf : L.Holds m → L.Holds (f m)) :
    L.Keeps (fun _ => True) (Run.update f) m :=
  fun hm => ⟨hf hm, fun _ _ _ => trivial⟩

theorem keeps_bind {k : α → Run β} (hx : L.Keeps good x m)
    (hk : ∀ a m', x m = .ok a m' → good a → L.Keeps good' (k a) m') :
    L.Keeps good' (x >>= k) m := by
  intro hm
  obtain ⟨hmachine, hgood⟩ := hx hm
  cases hrun : x m with
  | ok a m' =>
      rw [hrun] at hmachine
      rw [Run.bind_of_ok hrun]
      exact hk a m' hrun (hgood a m' hrun) hmachine
  | error fault m' =>
      rw [hrun] at hmachine
      rw [Run.bind_of_error hrun]
      exact ⟨hmachine, nofun⟩

theorem keeps_map {f : α → β} (hx : L.Keeps good x m) (hf : ∀ a, good a → good' (f a)) :
    L.Keeps good' (f <$> x) m := by
  rw [map_eq_pure_bind]
  exact keeps_bind hx fun a _ _ ha => keeps_pure (hf a ha)

theorem Keeps.imp {good' : α → Prop} (hx : L.Keeps good x m) (h : ∀ a, good a → good' a) :
    L.Keeps good' x m := by
  intro hm
  obtain ⟨hmachine, hgood⟩ := hx hm
  exact ⟨hmachine, fun a m' ha => h a (hgood a m' ha)⟩

end Rules

variable {m : Machine}

/-! ### Checks and charges -/

theorem Holds.withSteps (h : L.Holds m) (steps : Nat) : L.Holds { m with steps := steps } :=
  ⟨h.arrays, h.objects, h.locals, h.global, h.functions⟩

theorem keeps_charge (n : Nat) : L.Keeps (fun _ => True) (Run.charge n) m := by
  intro hm
  rw [charge_eq]
  split
  · exact ⟨hm.withSteps _, fun _ _ _ => trivial⟩
  · exact ⟨hm.withSteps _, fun _ _ _ => trivial⟩

theorem keeps_checkLength (s : String) :
    L.Keeps (fun _ => s.utf8ByteSize ≤ maxStringLength) (Run.checkLength s) m := by
  unfold Run.checkLength
  split
  next => exact keeps_raise _
  next hshort => exact keeps_pure (Nat.not_lt.1 hshort)

theorem keeps_checkString (s : String) :
    L.Keeps (fun _ => s.utf8ByteSize ≤ maxStringLength) (Run.checkString s) m :=
  keeps_bind (keeps_checkLength s) fun _ _ _ hshort => (keeps_charge _).imp fun _ _ => hshort

theorem keeps_reserve (present extra : Nat) :
    L.Keeps (fun _ => present + extra ≤ maxArrayLength) (Run.reserve present extra) m := by
  unfold Run.reserve
  split
  next =>
    have hraise : L.Keeps (fun _ => False) (Run.raise (.range .invalidArrayLength) : Run Unit) m :=
      keeps_raise _
    exact keeps_bind hraise fun _ _ _ h => h.elim
  next hroom => exact (keeps_charge _).imp fun _ _ => Nat.not_lt.1 hroom

/-- A string that is checked before it is answered. -/
theorem keeps_checked (s : String) :
    L.Keeps L.Admits (do Run.checkString s; return .string s) m :=
  keeps_bind (keeps_checkString s) fun _ _ _ hshort => keeps_pure (L.text_of_short hshort)

/-! ### Bindings -/

theorem keeps_define (name : String) {v : Value} (hv : L.Admits v) :
    L.Keeps (fun _ => True) (Run.define name v) m := by
  refine keeps_update fun hm => ?_
  obtain ⟨heap, locals, global, functions, made, steps⟩ := m
  cases locals with
  | nil => exact ⟨hm.arrays, hm.objects, hm.locals, hm.global.insert hv, hm.functions⟩
  | cons frame rest =>
      refine ⟨hm.arrays, hm.objects, ?_, hm.global, hm.functions⟩
      intro f hf
      rcases List.mem_cons.1 hf with rfl | hf
      · exact (hm.locals frame List.mem_cons_self).insert hv
      · exact hm.locals f (List.mem_cons_of_mem _ hf)

theorem keeps_lookup (name : String) : L.Keeps L.Admits (Run.lookup name) m := by
  have hfind : L.Keeps (fun found : Option Value => ∀ v, found = some v → L.Admits v)
      (Run.view (Run.find? name)) m :=
    keeps_view fun hm v hv => hm.find? hv
  refine keeps_bind hfind fun found m' _ hfound => ?_
  cases found with
  | some v => exact keeps_pure (hfound v rfl)
  | none =>
      -- the three names that have a value without being bound
      dsimp only
      repeat' split
      all_goals first | exact keeps_pure trivial | exact keeps_raise _

/-- An assignment to a frame changes one binding. -/
theorem admits_assignLocal? {name : String} {v : Value} (hv : L.Admits v)
    {frames changed : List Frame} (hframes : ∀ frame ∈ frames, L.AdmitsAll frame)
    (hchanged : Run.assignLocal? name v frames = some changed) :
    ∀ frame ∈ changed, L.AdmitsAll frame := by
  induction frames generalizing changed with
  | nil => cases hchanged
  | cons f rest ih =>
      have hrest := fun frame hframe => hframes frame (List.mem_cons_of_mem f hframe)
      unfold Run.assignLocal? at hchanged
      split at hchanged
      next =>
        cases hchanged
        intro frame hframe
        rcases List.mem_cons.1 hframe with rfl | hframe
        · exact (hframes f List.mem_cons_self).insert hv
        · exact hrest frame hframe
      next =>
        obtain ⟨inner, hinner, rfl⟩ := Option.map_eq_some_iff.1 hchanged
        intro frame hframe
        rcases List.mem_cons.1 hframe with rfl | hframe
        · exact hframes frame List.mem_cons_self
        · exact ih hrest hinner frame hframe

theorem keeps_assign (name : String) {v : Value} (hv : L.Admits v) :
    L.Keeps (fun _ => True) (Run.assign name v) m := by
  refine keeps_update fun hm => ?_
  split
  next locals hlocals =>
    exact ⟨hm.arrays, hm.objects, admits_assignLocal? hv hm.locals hlocals, hm.global, hm.functions⟩
  next => exact ⟨hm.arrays, hm.objects, hm.locals, hm.global.insert hv, hm.functions⟩

/-- A function value stands for the definition that is registered with it. -/
theorem keeps_makeFunction {d : Definition} {source : String} (hreads : L.Reads source)
    (hd : L.definition d) (hstart : L.start d.start)
    (hbody : L.Allows d.function.literals d.function.definitions) :
    L.Keeps L.Admits (Run.makeFunction d.function d.start (d.text source)) m := by
  intro hm
  refine ⟨⟨hm.arrays, hm.objects, hm.locals, hm.global, fun e he => ?_⟩, fun a m' ha => ?_⟩
  · rcases OrderedMap.mem_entries_insert he with he | rfl
    · exact hm.functions e he
    · exact ⟨⟨d, hd, rfl, rfl⟩, hbody⟩
  · cases ha
    exact ⟨hstart, hreads d hd m.made⟩

/-- The definition of a function that is called has been registered. -/
theorem keeps_definitionAt (start : Nat) :
    L.Keeps (fun f => L.Allows f.literals f.definitions) (definitionAt start) m := by
  have hfind : L.Keeps (fun found : Option Script.Function =>
      ∀ f, found = some f → L.Allows f.literals f.definitions)
      (Run.view (·.functions.get? start)) m :=
    keeps_view fun hm f hf => (hm.functions (start, f) (OrderedMap.mem_of_get? hf)).body
  refine keeps_bind hfind fun found m' _ hfound => ?_
  cases found with
  | some f => exact keeps_pure (hfound f rfl)
  | none => exact keeps_raise _

/-! ### The heap -/

theorem keeps_elements (address : Nat) : L.Keeps L.Fits (Run.elements address) m :=
  keeps_view fun hm => hm.elements address

theorem keeps_newArray {items : Array Value} (hitems : L.Fits items) :
    L.Keeps L.Admits (Run.newArray items) m := by
  intro hm
  refine ⟨hm.newArray hitems, fun a m' ha => ?_⟩
  cases ha
  trivial

theorem keeps_newObject {members : Properties} (hmembers : L.AdmitsAll members) :
    L.Keeps L.Admits (Run.newObject members) m := by
  intro hm
  refine ⟨hm.newObject hmembers, fun a m' ha => ?_⟩
  cases ha
  trivial

theorem keeps_modifyArray {address : Nat} {f : Array Value → Array Value}
    (hf : L.Holds m → L.Fits (f (m.heap.elements address))) :
    L.Keeps (fun _ => True) (Run.modifyArray address f) m :=
  keeps_update fun hm => hm.modifyArray (hf hm)

theorem keeps_iterate (v : Value) :
    L.Keeps (fun items => ∀ x ∈ items, L.Admits x) (Run.iterate v) m := by
  unfold Run.iterate
  split
  next address => exact (keeps_elements address).imp fun items hitems => hitems.all
  next s =>
    refine keeps_pure fun x hx => ?_
    obtain ⟨c, -, rfl⟩ := Array.mem_map.1 hx
    exact text_char c
  next => exact keeps_raise _

theorem keeps_readProperty (v : Value) (key : String) :
    L.Keeps L.Admits (Run.readProperty v key) m := by
  unfold Run.readProperty
  split
  · exact keeps_raise _
  · exact keeps_view fun hm => hm.get v key

/-! ### Writing properties -/

theorem size_resize (items : Array Value) (n : Nat) : (Value.resize items n).size = n := by
  unfold Value.resize
  split
  next h =>
    show (items.extract 0 n).size = n
    rw [Array.size_extract]
    omega
  next h =>
    rw [Array.size_append, Array.size_replicate]
    omega

theorem all_resize {items : Array Value} (h : ∀ v ∈ items, L.Admits v) (n : Nat) :
    ∀ v ∈ Value.resize items n, L.Admits v := by
  intro v hv
  unfold Value.resize at hv
  split at hv
  next =>
    exact h v (mem_of_mem_extract hv)
  next =>
    rcases Array.mem_append.1 hv with hv | hv
    · exact h v hv
    · rw [(Array.mem_replicate.1 hv).2]
      trivial

theorem fits_resize {items : Array Value} (h : L.Fits items) {n : Nat} (hn : n ≤ maxArrayLength) :
    L.Fits (Value.resize items n) where
  size := by
    rw [size_resize]
    exact L.size_of_small hn
  all := all_resize h.all n

theorem fits_writeAt {items : Array Value} (h : L.Fits items) {i : Nat} (hi : i < maxArrayLength)
    {v : Value} (hv : L.Admits v) : L.Fits (Value.writeAt items i v) := by
  unfold Value.writeAt
  split
  next =>
    refine ⟨?_, fun x hx => ?_⟩
    · rw [Array.size_setIfInBounds]
      exact h.size
    · rcases Array.mem_or_eq_of_mem_setIfInBounds hx with hx | rfl
      · exact h.all x hx
      · exact hv
  next =>
    refine ⟨?_, fun x hx => ?_⟩
    · rw [Array.size_push, size_resize]
      exact L.size_of_small hi
    · rcases Array.mem_push.1 hx with hx | rfl
      · exact all_resize h.all i x hx
      · exact hv

theorem keeps_setProperty (v : Value) (key : String) {x : Value} (hx : L.Admits x) :
    L.Keeps (fun _ => True) (Run.setProperty v key x) m := by
  have hplan : L.Keeps (fun planned => planned = v.planWrite m.heap key x)
      (Run.view fun m => v.planWrite m.heap key x) m := keeps_view fun _ => rfl
  refine keeps_bind hplan fun planned m' hview hplanned => ?_
  obtain rfl : m' = m := by cases hview; rfl
  cases planned with
  | error e => exact keeps_raise e
  | ok w =>
      refine keeps_update fun hm => ?_
      -- the limits are those that planning the write has tested
      unfold Value.planWrite at hplanned
      split at hplanned
      next address =>
        cases hplanned
        exact hm.modifyObject hx
      next address =>
        split at hplanned
        next =>
          cases hlength : Value.requestedLength m'.heap x with
          | error e =>
              rw [hlength] at hplanned
              cases hplanned
          | ok n =>
              rw [hlength] at hplanned
              cases hplanned
              have hn := (Value.requestedLength_eq_ok_iff.1 hlength).1
              exact hm.modifyArray (fits_resize (hm.elements address) hn)
        next =>
          split at hplanned
          next => cases hplanned
          next i hi =>
            split at hplanned
            next => cases hplanned
            next hlimit =>
              cases hplanned
              exact hm.modifyArray (fits_writeAt (hm.elements address) (Nat.not_le.1 hlimit) hx)
      next => cases hplanned
      next => cases hplanned
      next =>
        cases hplanned
        exact hm

theorem keeps_read (p : Place) : L.Keeps L.Admits p.read m := by
  cases p with
  | binding name => exact keeps_lookup name
  | property holder key => exact keeps_readProperty holder key

theorem keeps_write (p : Place) {x : Value} (hx : L.Admits x) :
    L.Keeps (fun _ => True) (p.write x) m := by
  cases p with
  | binding name => exact keeps_assign name hx
  | property holder key =>
      refine keeps_bind (keeps_look _) fun _ _ _ _ => ?_
      refine keeps_bind (keeps_setProperty holder key hx) fun _ _ _ _ => ?_
      refine keeps_bind (keeps_look _) fun _ _ _ _ => ?_
      exact keeps_charge _

end Law

end Sandbox

end ScopedViews
