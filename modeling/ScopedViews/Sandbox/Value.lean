import ScopedViews.Number.Read
import ScopedViews.OrderedMap
import ScopedViews.Sandbox.Fault
import ScopedViews.Text.Blank
/-!
# Values of the evaluator

Arrays and objects live in a heap and are shared by reference.  Reading, writing, printing and
comparing values are functions of the heap.
-/

namespace ScopedViews.Sandbox

/-- A function made by evaluating a definition: which making it was, where the definition starts,
and its text. -/
structure FunctionRef where
  identity : Nat
  start : Nat
  source : String
deriving Repr, DecidableEq

inductive Value where
  | undefined
  | null
  | bool (b : Bool)
  | number (x : Float)
  | string (s : String)
  | array (address : Nat)
  | object (address : Nat)
  | function (f : FunctionRef)
deriving Repr

instance : Inhabited Value := ⟨.undefined⟩

abbrev Properties := OrderedMap String Value

/-- The arrays and the objects that have been made. -/
structure Heap where
  arrays : Array (Array Value)
  objects : Array Properties

namespace Heap

def empty : Heap := ⟨#[], #[]⟩

def elements (h : Heap) (address : Nat) : Array Value := h.arrays.getD address #[]

def properties (h : Heap) (address : Nat) : Properties := h.objects.getD address .empty

def newArray (h : Heap) (items : Array Value) : Value × Heap :=
  (.array h.arrays.size, { h with arrays := h.arrays.push items })

def newObject (h : Heap) (members : Properties) : Value × Heap :=
  (.object h.objects.size, { h with objects := h.objects.push members })

/-- Replaces the elements of an array by their image. -/
def modifyArray (h : Heap) (address : Nat) (f : Array Value → Array Value) : Heap :=
  { h with arrays := h.arrays.modify address f }

def modifyObject (h : Heap) (address : Nat) (f : Properties → Properties) : Heap :=
  { h with objects := h.objects.modify address f }

end Heap

namespace Value

def typeName : Value → String
  | .undefined => "undefined"
  | .null => "null"
  | .bool _ => "boolean"
  | .number _ => "number"
  | .string _ => "string"
  | .array _ => "array"
  | .object _ => "object"
  | .function _ => "function"

/-- What the `typeof` operator answers. -/
def typeOf : Value → String
  | .null | .array _ | .object _ => "object"
  | v => v.typeName

def isTruthy : Value → Bool
  | .undefined | .null => false
  | .bool b => b
  | .number x => !(x == 0.0) && !x.isNaN
  | .string s => !s.isEmpty
  | .array _ | .object _ | .function _ => true

def isNullish : Value → Bool
  | .undefined | .null => true
  | _ => false

/-- Primitive values other than strings. -/
def isNumericPrimitive : Value → Bool
  | .undefined | .null | .bool _ | .number _ => true
  | _ => false

/-- Arrays, objects and functions. -/
def isComposite : Value → Bool
  | .array _ | .object _ | .function _ => true
  | _ => false

def isArray : Value → Bool
  | .array _ => true
  | _ => false

/-- The text of `v` after `out`.  Arrays already being printed are left out, and no element is
begun once the text is past the limit. -/
def writeText (h : Heap) : Nat → List Nat → Value → String → String
  | _, _, .undefined, out => out ++ "undefined"
  | _, _, .null, out => out ++ "null"
  | _, _, .bool b, out => out ++ (if b then "true" else "false")
  | _, _, .number x, out => out ++ Number.text x
  | _, _, .string s, out => out ++ s
  | _, _, .object _, out => out ++ "[object Object]"
  | _, _, .function f, out => out ++ f.source
  | 0, _, .array _, out => out
  | depth + 1, seen, .array address, out =>
    if seen.contains address then out
    else
      ((h.elements address).foldl
        (fun (out, first) item =>
          if maxStringLength < out.utf8ByteSize then (out, false)
          else
            let out := if first then out else out.push ','
            (if item.isNullish then out else writeText h depth (address :: seen) item out, false))
        (out, true)).1

/-- The text of a value; nesting ends with the arrays there are. -/
def toText (h : Heap) (v : Value) : String :=
  match v with
  | .string s => s
  | .array _ => writeText h (h.arrays.size + 1) [] v ""
  | _ => writeText h 0 [] v ""

/-- The number that a text stands for. -/
def parseNumber (s : String) : Float :=
  match Text.trimChars s.toList with
  | [] => 0.0
  | cs =>
    if cs = "Infinity".toList || cs = "+Infinity".toList then 1.0 / 0.0
    else if cs = "-Infinity".toList then -1.0 / 0.0
    else (Number.decimal? cs).getD (0.0 / 0.0)

def toNumber (h : Heap) : Value → Float
  | .undefined => 0.0 / 0.0
  | .null => 0.0
  | .bool b => if b then 1.0 else 0.0
  | .number x => x
  | .string s => parseNumber s
  | v@(.array _) => parseNumber (v.toText h)
  | .object _ | .function _ => 0.0 / 0.0

/-- `===`. -/
def strictEquals : Value → Value → Bool
  | .undefined, .undefined | .null, .null => true
  | .bool a, .bool b => a == b
  | .number a, .number b => a == b
  | .string a, .string b => a == b
  | .array a, .array b => a == b
  | .object a, .object b => a == b
  | .function f, .function g => f.identity == g.identity
  | _, _ => false

/-- `==` of a text and a value that is neither nullish nor composite. -/
def textEquals (h : Heap) (s : String) : Value → Bool
  | .string t => s == t
  | v => parseNumber s == v.toNumber h

/-- `==`. -/
def looseEquals (h : Heap) (a b : Value) : Bool :=
  if a.isNullish || b.isNullish then a.isNullish && b.isNullish
  else
    match a, b with
    | .string s, .string t => s == t
    | .string s, b => if b.isComposite then textEquals h (b.toText h) a else textEquals h s b
    | a, .string t => if a.isComposite then textEquals h (a.toText h) b else textEquals h t a
    | a, b =>
      if a.isComposite && b.isComposite then a.strictEquals b
      else if a.isComposite then textEquals h (a.toText h) b
      else if b.isComposite then textEquals h (b.toText h) a
      else a.toNumber h == b.toNumber h

/-- The array index that a property key is the canonical text of. -/
def index? (key : String) : Option Nat :=
  let cs := key.toList
  match cs with
  | [] => none
  | '0' :: _ :: _ => none
  | _ =>
    if cs.all Char.isDigit then
      let n := Number.digitsValue cs
      if n < Nat.pow 2 64 then some n else none
    else none

/-- The property `key`; one that is missing is undefined. -/
def get (h : Heap) (v : Value) (key : String) : Value :=
  match v with
  | .object address => ((h.properties address).get? key).getD .undefined
  | .array address =>
    if key = "length" then .number (Float.ofNat (h.elements address).size)
    else ((index? key).bind ((h.elements address)[·]?)).getD .undefined
  | .string s =>
    if key = "length" then .number (Float.ofNat s.length)
    else (((index? key).bind (s.toList[·]?)).map fun c => .string c.toString).getD .undefined
  | _ => .undefined

/-- The keys that `for … in` and `Object.keys` list. -/
def keys (h : Heap) : Value → List String
  | .object address => (h.properties address).keys
  | .array address => (List.range (h.elements address).size).map toString
  | .string s => (List.range s.length).map toString
  | _ => []

/-- An array shortened to `n` elements, or filled up with undefined ones. -/
def resize (items : Array Value) (n : Nat) : Array Value :=
  if n < items.size then items.take n else items ++ Array.replicate (n - items.size) .undefined

/-- The length that a value assigned to `length` asks for. -/
def requestedLength (h : Heap) (v : Value) : Except Exception Nat :=
  let x := v.toNumber h
  if x < 0.0 || !Number.isWhole x then .error (.range .invalidArrayLength)
  else if Float.ofNat maxArrayLength < x then .error (.range (.arrayLength (Number.text x)))
  else .ok ((Number.whole? x).getD 0).toNat

/-- An element written at `i`; elements in between are undefined. -/
def writeAt (items : Array Value) (i : Nat) (x : Value) : Array Value :=
  if i < items.size then items.setIfInBounds i x else (resize items i).push x

/-- A change to the heap that writing one property makes. -/
inductive Write where
  | nothing
  | member (address : Nat) (key : String) (x : Value)
  | element (address i : Nat) (x : Value)
  | length (address n : Nat)

/-- The change that writing a property asks for.  Other primitives and functions ignore it. -/
def planWrite (h : Heap) (v : Value) (key : String) (x : Value) : Except Exception Write :=
  match v with
  | .object address => .ok (.member address key x)
  | .array address =>
    if key = "length" then (requestedLength h x).map (.length address)
    else
      match index? key with
      | none => .error (.type (.arrayProperty key))
      | some i =>
        if maxArrayLength ≤ i then .error (.range (.arrayIndex key)) else .ok (.element address i x)
  | .undefined | .null => .error (.type (.writeToNullish v.typeName key))
  | _ => .ok .nothing

/-- Carries out a change. -/
def Write.apply (w : Write) (h : Heap) : Heap :=
  match w with
  | .nothing => h
  | .member address key x => h.modifyObject address (·.insert key x)
  | .element address i x => h.modifyArray address (writeAt · i x)
  | .length address n => h.modifyArray address (resize · n)

/-- Writes a property. -/
def set (h : Heap) (v : Value) (key : String) (x : Value) : Except Exception Heap :=
  (planWrite h v key x).map (·.apply h)

/-- The number of elements of an array, and zero for anything else. -/
def arrayLength (h : Heap) : Value → Nat
  | .array address => (h.elements address).size
  | _ => 0

end Value

end ScopedViews.Sandbox
