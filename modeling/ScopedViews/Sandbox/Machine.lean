import ScopedViews.Sandbox.Value
import ScopedViews.Script.Tree
/-!
# The machine of the evaluator

The machine holds the heap, the call frames, the functions defined so far and the steps spent.
Computations over it keep the machine whether they succeed or fail, so what a failed step has done
stays done.
-/

namespace ScopedViews.Sandbox

/-- The bindings of one call. -/
abbrev Frame := OrderedMap String Value

structure Machine where
  heap : Heap
  /-- Frames of the active calls, innermost first. -/
  locals : List Frame
  global : Frame
  /-- The definition that starts at each offset, for those evaluated so far. -/
  functions : OrderedMap Nat Script.Function
  /-- How many function values have been made. -/
  made : Nat
  steps : Nat

/-- The number of frames, the global one included. -/
def Machine.depth (m : Machine) : Nat := m.locals.length + 1

/-- The binding that a script block describes itself through. -/
def exportsName : String := "exports"

/-- The machine before a block runs: `exports` holds two empty lists and two nulls. -/
def Machine.initial : Machine :=
  let (required, heap) := Heap.empty.newArray #[]
  let (included, heap) := heap.newArray #[]
  let (exported, heap) := heap.newObject
    (.ofList [("required", required), ("include", included), ("init", .null), ("ready", .null)])
  { heap := heap
    locals := []
    global := OrderedMap.empty.insert exportsName exported
    functions := .empty
    made := 0
    steps := 0 }

/-- Computations that change a machine and may end in a fault. -/
abbrev Run := EStateM Fault Machine

namespace Run

def raise {α : Type} (e : Exception) : Run α := throw (.exception e)

def halt {α : Type} (h : Halt) : Run α := throw (.halt h)

def unsupported {α : Type} (c : Construct) (s : Script.Span) : Run α :=
  halt (.unsupported c s.start)

/-- Reads something off the machine. -/
@[inline] def view {α : Type} (f : Machine → α) : Run α := fun m => .ok (f m) m

@[inline] def update (f : Machine → Machine) : Run Unit := fun m => .ok () (f m)

/-- Spends steps; past the budget the evaluation halts. -/
def charge (n : Nat) : Run Unit := fun m =>
  let steps := m.steps + n
  let m := { m with steps := steps }
  if maxSteps < steps then .error (.halt .stepLimit) m else .ok () m

/-- The step that every iteration and every call costs. -/
def tick : Run Unit := charge 1

/-- A new array with these elements. -/
def newArray (items : Array Value) : Run Value := fun m =>
  let address := m.heap.arrays.size
  .ok (.array address)
    { m with heap := { m.heap with arrays := m.heap.arrays.push items } }

def newObject (members : Properties) : Run Value := fun m =>
  let address := m.heap.objects.size
  .ok (.object address)
    { m with heap := { m.heap with objects := m.heap.objects.push members } }

def elements (address : Nat) : Run (Array Value) := view (·.heap.elements address)

def modifyArray (address : Nat) (f : Array Value → Array Value) : Run Unit :=
  update fun m => { m with heap := m.heap.modifyArray address f }

def text (v : Value) : Run String := view fun m => v.toText m.heap

def number (v : Value) : Run Float := view fun m => v.toNumber m.heap

/-- A string that an operator has built may not be longer than the limit. -/
def checkLength (s : String) : Run Unit :=
  if maxStringLength < s.utf8ByteSize then raise (.range .invalidStringLength) else pure ()

/-- Checks the length of a string that has been built, and charges for its bytes. -/
def checkString (s : String) : Run Unit := do
  checkLength s
  charge (s.utf8ByteSize / 64)

/-- Room for `extra` elements behind `present` ones, and the charge for them. -/
def reserve (present extra : Nat) : Run Unit := do
  if maxArrayLength < present + extra then raise (.range .invalidArrayLength)
  charge (extra / 8)

/-- The elements that spreading or a loop visits. -/
def iterate (v : Value) : Run (Array Value) :=
  match v with
  | .array address => elements address
  | .string s => pure (s.toList.toArray.map fun c => .string c.toString)
  | v => raise (.type (.notIterable v.typeName))

/-- Reads a property of anything but undefined and null. -/
def readProperty (v : Value) (key : String) : Run Value :=
  if v.isNullish then raise (.type (.readOfNullish v.typeName key))
  else view fun m => v.get m.heap key

/-- Carries out a change of the heap. -/
@[noinline] def change (w : Value.Write) : Run Unit := fun m =>
  .ok () { m with heap := w.apply m.heap }

/-- Writes a property. -/
def setProperty (v : Value) (key : String) (x : Value) : Run Unit := do
  match ← view fun m => v.planWrite m.heap key x with
  | .ok w => change w
  | .error e => raise e

/-- The value bound to a name, innermost frame first. -/
def find? (name : String) (m : Machine) : Option Value :=
  go m.locals
where
  go : List Frame → Option Value
    | [] => m.global.get? name
    | f :: rest =>
      match f.get? name with
      | some v => some v
      | none => go rest

def isBound (name : String) : Run Bool := view fun m => (find? name m).isSome

/-- The value of a name; three names have a value without being bound. -/
def lookup (name : String) : Run Value := do
  match ← view (find? name) with
  | some v => return v
  | none =>
    if name = "undefined" then return .undefined
    else if name = "NaN" then return .number (0.0 / 0.0)
    else if name = "Infinity" then return .number (1.0 / 0.0)
    else raise (.reference name)

/-- Binds a name in the innermost frame. -/
def define (name : String) (v : Value) : Run Unit :=
  update fun m =>
    match m with
    | ⟨heap, [], global, functions, made, steps⟩ =>
      ⟨heap, [], global.insert name v, functions, made, steps⟩
    | ⟨heap, f :: rest, global, functions, made, steps⟩ =>
      ⟨heap, f.insert name v :: rest, global, functions, made, steps⟩

/-- Whether the innermost frame binds a name. -/
def definedHere (name : String) : Run Bool :=
  view fun m =>
    match m.locals with
    | [] => m.global.contains name
    | f :: _ => f.contains name

/-- The frames with `v` assigned to the innermost binding of `name`, if there is one. -/
def assignLocal? (name : String) (v : Value) : List Frame → Option (List Frame)
  | [] => none
  | f :: rest =>
    if f.contains name then some (f.insert name v :: rest)
    else (assignLocal? name v rest).map (f :: ·)

/-- Assigns to the innermost binding of a name, or makes a global one. -/
def assign (name : String) (v : Value) : Run Unit :=
  update fun m =>
    match assignLocal? name v m.locals with
    | some locals => { m with locals := locals }
    | none => { m with global := m.global.insert name v }

/-- Makes a function value of a definition and registers the definition. -/
def makeFunction (f : Script.Function) (start : Nat) (source : String) : Run Value := fun m =>
  .ok (.function ⟨m.made, start, source⟩)
    { m with functions := m.functions.insert start f, made := m.made + 1 }

/-- Runs a call in a frame of its own, which is gone afterwards in every case. -/
def withFrame {α : Type} (body : Run α) : Run α := fun m =>
  match body { m with locals := .empty :: m.locals } with
  | .ok a m => .ok a { m with locals := m.locals.drop 1 }
  | .error e m => .error e { m with locals := m.locals.drop 1 }

end Run

end ScopedViews.Sandbox
