import ScopedViews.Sandbox.Machine
import ScopedViews.Text.Case
import ScopedViews.Text.Find
/-!
# Built-in methods

The methods of arrays, strings, numbers, objects and functions, and the few functions that are
reached through `Object` and `Array`.  Methods that call back take the way to call a function as
an argument.
-/

namespace ScopedViews.Sandbox

/-- How a function that starts at an offset is called. -/
abbrev Invoke := Nat → Array Value → Run Value

namespace Builtin

/-- The argument at a position, undefined if there are fewer. -/
def argument (args : Array Value) (i : Nat) : Value := args.getD i .undefined

/-- The number at a position, rounded toward zero; the default if it is missing or no number. -/
def numberArgument (args : Array Value) (i : Nat) (default : Float) : Run Float :=
  match argument args i with
  | .undefined => pure default
  | v => do
    let x ← Run.number v
    return if x.isNaN then default else Number.truncate x

/-- The text at a position. -/
def textArgument (args : Array Value) (i : Nat) : Run String := Run.text (argument args i)

/-- A position in a sequence of `length` items: negative ones count from the end. -/
def resolvePosition (length : Nat) (x : Float) : Nat :=
  match Number.whole? x with
  | some n => if n < 0 then ((length : Int) + n).toNat else min n.toNat length
  | none => if 0.0 < x then length else 0

/-- The start and end that two arguments name in a sequence. -/
def sliceBounds (args : Array Value) (length : Nat) : Run (Nat × Nat) := do
  let start ← numberArgument args 0 0.0
  let stop ← numberArgument args 1 (Float.ofNat length)
  return (resolvePosition length start, resolvePosition length stop)

/-- The items from `start` up to `stop`. -/
def sliceList {α : Type} (xs : List α) (bounds : Nat × Nat) : List α :=
  (xs.take bounds.2).drop bounds.1

/-- The first position at which a number points into a sequence. -/
def charAt (s : String) (x : Float) : Option Char :=
  match Number.whole? x with
  | some n => if 0 ≤ n then s.toList[n.toNat]? else none
  | none => none

/-- Calls a value back. -/
def callback (invoke : Invoke) (f : Value) (args : Array Value) : Run Value :=
  match f with
  | .function f => invoke f.start args
  | v => do
    let shown ← Run.text v
    Run.raise (.type (.notFunction shown))

/-- The arguments that a value passes on as a list. -/
def argumentList : Value → Run (Array Value)
  | .undefined | .null => pure #[]
  | v => Run.iterate v

/-- What `call` and `apply` pass on. -/
def functionMethod (invoke : Invoke) (f : FunctionRef) (method : String) (args : Array Value) :
    Run Value :=
  match method with
  | "call" => invoke f.start (args.extract 1 args.size)
  | "apply" => do
    let list ← argumentList (argument args 1)
    invoke f.start list
  | "toString" => pure (.string f.source)
  | _ => Run.raise (.type (.noMethod "function" method))

def numberMethod (x : Float) (method : String) (args : Array Value) : Run Value :=
  match method with
  | "toString" => pure (.string (Number.text x))
  | "toFixed" => do
    let places ← numberArgument args 0 0.0
    if 0.0 ≤ places && places ≤ 100.0 then
      return .string (Number.fixed x ((Number.whole? places).getD 0).toNat)
    else Run.raise (.range .fixedDigits)
  | _ => Run.raise (.type (.noMethod "number" method))

def objectMethod (receiver : Value) (method : String) (args : Array Value) : Run Value :=
  match method with
  | "hasOwnProperty" => do
    let key ← if args.isEmpty then pure "" else textArgument args 0
    Run.view fun m => .bool ((receiver.keys m.heap).contains key)
  | "toString" => .string <$> Run.text receiver
  | _ => Run.raise (.type (.noMethod "object" method))

/-- Elements joined with a separator, the length checked after each. -/
def joinFrom (separator : String) : List Value → Bool → String → Run String
  | [], _, out => pure out
  | v :: rest, first, out => do
    let out := if first then out else out ++ separator
    let out ← if v.isNullish then pure out else (out ++ ·) <$> Run.text v
    Run.checkLength out
    joinFrom separator rest false out

/-- Arguments appended to an array, arrays among them element by element. -/
def concatFrom : List Value → Array Value → Run (Array Value)
  | [], out => pure out
  | v :: rest, out => do
    let extra ←
      match v with
      | .array address => Run.elements address
      | v => pure #[v]
    Run.reserve out.size extra.size
    concatFrom rest (out ++ extra)

/-- Which of the methods that visit every element is meant. -/
inductive Visit where
  | map | filter | forEach | some | every | find
deriving Repr, DecidableEq

/-- What a visit answers when no element ended it. -/
def Visit.finish (visit : Visit) (out : Array Value) : Run Value :=
  match visit with
  | .map | .filter => Run.newArray out
  | .some => pure (.bool false)
  | .every => pure (.bool true)
  | .forEach | .find => pure .undefined

/-- Visits the elements from position `i` on. -/
def visitFrom (invoke : Invoke) (visit : Visit) (f receiver : Value) :
    List Value → Nat → Array Value → Run Value
  | [], _, out => visit.finish out
  | item :: rest, i, out => do
    let result ← callback invoke f #[item, .number (Float.ofNat i), receiver]
    match visit, result.isTruthy with
    | .map, _ => visitFrom invoke visit f receiver rest (i + 1) (out.push result)
    | .filter, true => visitFrom invoke visit f receiver rest (i + 1) (out.push item)
    | .some, true => return .bool true
    | .every, false => return .bool false
    | .find, true => return item
    | _, _ => visitFrom invoke visit f receiver rest (i + 1) out

/-- Folds the elements from position `i` on. -/
def reduceFrom (invoke : Invoke) (f receiver : Value) : List Value → Nat → Value → Run Value
  | [], _, acc => pure acc
  | item :: rest, i, acc => do
    let acc ← callback invoke f #[acc, item, .number (Float.ofNat i), receiver]
    reduceFrom invoke f receiver rest (i + 1) acc

/-- Appends arguments in place. -/
def push (address : Nat) (args : Array Value) : Run Value := do
  let present ← Run.view fun m => (m.heap.elements address).size
  Run.reserve present args.size
  Run.modifyArray address (· ++ args)
  return .number (Float.ofNat (present + args.size))

/-- Puts arguments in front.  The array is taken apart before the room for it is checked. -/
def unshift (address : Nat) (args : Array Value) : Run Value := do
  let rest ← Run.elements address
  Run.modifyArray address fun _ => #[]
  Run.reserve args.size rest.size
  Run.modifyArray address fun _ => args ++ rest
  return .number (Float.ofNat (args.size + rest.size))

def pop (address : Nat) : Run Value := do
  let last ← Run.view fun m => (m.heap.elements address).back?
  Run.modifyArray address Array.pop
  return last.getD .undefined

def shift (address : Nat) : Run Value := do
  let first ← Run.view fun m => (m.heap.elements address)[0]?
  Run.modifyArray address fun items => items.extract 1 items.size
  return first.getD .undefined

def arrayMethod (invoke : Invoke) (address : Nat) (method : String) (args : Array Value) :
    Run Value :=
  let receiver := Value.array address
  let visit (v : Visit) : Run Value := do
    let items ← Run.elements address
    visitFrom invoke v (argument args 0) receiver items.toList 0 #[]
  match method with
  | "push" => push address args
  | "unshift" => unshift address args
  | "pop" => pop address
  | "shift" => shift address
  | "reverse" => do
    Run.modifyArray address Array.reverse
    return receiver
  | "concat" => do
    let out ← concatFrom args.toList (← Run.elements address)
    Run.newArray out
  | "slice" => do
    let items ← Run.elements address
    let (start, stop) ← sliceBounds args items.size
    Run.newArray (items.extract start stop)
  | "join" => do
    let separator ←
      match argument args 0 with
      | .undefined => pure ","
      | v => Run.text v
    let items ← Run.elements address
    let out ← joinFrom separator items.toList true ""
    Run.checkString out
    return .string out
  | "indexOf" => do
    let items ← Run.elements address
    return .number <|
      match items.findIdx? (·.strictEquals (argument args 0)) with
      | some i => Float.ofNat i
      | none => -1.0
  | "includes" => do
    let items ← Run.elements address
    return .bool (items.any (·.strictEquals (argument args 0)))
  | "toString" => .string <$> Run.text receiver
  | "map" => visit .map
  | "filter" => visit .filter
  | "forEach" => visit .forEach
  | "some" => visit .some
  | "every" => visit .every
  | "find" => visit .find
  | "reduce" => do
    let items ← Run.elements address
    match args[1]?, items.toList with
    | some initial, list => reduceFrom invoke (argument args 0) receiver list 0 initial
    | none, first :: rest => reduceFrom invoke (argument args 0) receiver rest 1 first
    | none, [] => Run.raise (.type .emptyReduce)
  | _ => Run.raise (.type (.noMethod "array" method))

/-- Texts appended to a string, the length checked after each. -/
def appendFrom : List Value → String → Run String
  | [], out => pure out
  | v :: rest, out => do
    let out := out ++ (← Run.text v)
    Run.checkLength out
    appendFrom rest out

/-- The parts of a string between occurrences of a separator; an empty one separates all
characters. -/
def splitText (s separator : String) : List String :=
  if separator.isEmpty then s.toList.map (·.toString)
  else (Text.splitAt separator.toList s.toList).map String.ofList

/-- A string `n` times over. -/
def repeatText (s : String) : Nat → String → String
  | 0, out => out
  | n + 1, out => repeatText s n (out ++ s)

def stringRepeat (s : String) (args : Array Value) : Run Value := do
  let count ← numberArgument args 0 0.0
  match Number.whole? count with
  | none => Run.raise (.range (.repeatCount (Number.text count)))
  | some n =>
    if n < 0 then Run.raise (.range (.repeatCount (Number.text count)))
    else if Float.ofNat maxStringLength < Float.ofNat s.utf8ByteSize * count then
      Run.raise (.range .invalidStringLength)
    else
      let out := if s.isEmpty then "" else repeatText s n.toNat ""
      Run.checkString out
      return .string out

/-- What stands for an occurrence of `pattern` at position `i`: a text, or what a function makes
of it. -/
def replacementText (invoke : Invoke) (s pattern : String) (i : Nat) : Value → Run String
  | .function f => do
    let v ← invoke f.start #[.string pattern, .number (Float.ofNat i), .string s]
    Run.text v
  | v => Run.text v

/-- Replaces the first occurrence. -/
def stringReplace (invoke : Invoke) (s : String) (args : Array Value) : Run Value := do
  let pattern ← textArgument args 0
  match Text.find? pattern.toList s.toList with
  | none => return .string s
  | some i =>
    let replacement ← replacementText invoke s pattern i (argument args 1)
    let out := String.ofList (s.toList.take i) ++ replacement ++
      String.ofList (s.toList.drop (i + pattern.length))
    Run.checkString out
    return .string out

def stringMethod (invoke : Invoke) (s method : String) (args : Array Value) : Run Value :=
  match method with
  | "toString" => pure (.string s)
  | "valueOf" => pure (.string s)
  | "toUpperCase" => pure (.string (Text.toUpper s))
  | "toLowerCase" => pure (.string (Text.toLower s))
  | "trim" => pure (.string (Text.trim s))
  | "charAt" => do
    let x ← numberArgument args 0 0.0
    return .string (match charAt s x with | some c => c.toString | none => "")
  | "indexOf" => do
    let needle ← textArgument args 0
    return .number <|
      match Text.find? needle.toList s.toList with
      | some i => Float.ofNat i
      | none => -1.0
  | "includes" => do
    let needle ← textArgument args 0
    return .bool (Text.contains s needle)
  | "startsWith" => do
    let needle ← textArgument args 0
    return .bool (needle.toList.isPrefixOf s.toList)
  | "endsWith" => do
    let needle ← textArgument args 0
    return .bool (needle.toList.isSuffixOf s.toList)
  | "slice" => do
    let cs := s.toList
    return .string (String.ofList (sliceList cs (← sliceBounds args cs.length)))
  | "substring" => do
    let cs := s.toList
    return .string (String.ofList (sliceList cs (← sliceBounds args cs.length)))
  | "split" => do
    let parts ←
      match argument args 0 with
      | .undefined => pure [s]
      | v => splitText s <$> Run.text v
    Run.reserve 0 parts.length
    Run.newArray (parts.map Value.string).toArray
  | "concat" => do
    let out ← appendFrom args.toList s
    Run.checkString out
    return .string out
  | "repeat" => stringRepeat s args
  | "replace" => stringReplace invoke s args
  | _ => Run.raise (.type (.noMethod "string" method))

/-- Calls a method of any value but an object's own function. -/
def callMethod (invoke : Invoke) (receiver : Value) (method : String) (args : Array Value) :
    Run Value :=
  match receiver with
  | .array address => arrayMethod invoke address method args
  | .string s => stringMethod invoke s method args
  | .function f => functionMethod invoke f method args
  | .number x => numberMethod x method args
  | .object _ => objectMethod receiver method args
  | v =>
    if method = "toString" then .string <$> Run.text v
    else Run.raise (.type (.noMethod v.typeName method))

/-- Writes the properties of a source, key by key. -/
def assignKeys (target source : Value) : List String → Run Unit
  | [] => pure ()
  | key :: rest => do
    let v ← Run.view fun m => source.get m.heap key
    Run.setProperty target key v
    assignKeys target source rest

/-- Writes the properties of several sources. -/
def assignAll (target : Value) : List Value → Run Unit
  | [] => pure ()
  | source :: rest => do
    let keys ← Run.view fun m => source.keys m.heap
    assignKeys target source keys
    assignAll target rest

/-- The functions reached through the names `Object` and `Array`. -/
def callStatic (owner method : String) (args : Array Value) : Run Value :=
  let first := argument args 0
  match owner, method with
  | "Object", "keys" => do
    let keys ← Run.view fun m => first.keys m.heap
    Run.newArray (keys.map Value.string).toArray
  | "Object", "values" => do
    let values ← Run.view fun m => (first.keys m.heap).map (first.get m.heap)
    Run.newArray values.toArray
  | "Object", "assign" => do
    assignAll first (args.toList.drop 1)
    return first
  | "Object", "freeze" => pure first
  | "Array", "isArray" => pure (.bool first.isArray)
  | _, _ => Run.raise (.type (.noMethod owner method))

/-- The conversions that are called by name; none if there is no such conversion. -/
def convert? (name : String) (args : Array Value) : Option (Run Value) :=
  match name with
  | "String" =>
    some (if args.isEmpty then pure (.string "") else .string <$> textArgument args 0)
  | "Number" =>
    some (if args.isEmpty then pure (.number 0.0) else .number <$> Run.number (argument args 0))
  | "Boolean" => some (pure (.bool (argument args 0).isTruthy))
  | _ => none

end Builtin

end ScopedViews.Sandbox
