import ScopedViews.Sandbox.Machine
/-!
# Operators

What the unary, binary and logical operators compute, and what assignments store to.
-/

namespace ScopedViews.Sandbox

open Script (BinaryOp LogicalOp Span)

/-- Whether the left operand alone decides. -/
def shortCircuits (op : LogicalOp) (left : Value) : Bool :=
  match op with
  | .or => left.isTruthy
  | .and => !left.isTruthy
  | .coalesce => !left.isNullish

/-- An order test: strings by their characters, anything else as numbers. -/
def compareBy (strings : String → String → Bool) (numbers : Float → Float → Bool)
    (left right : Value) : Run Value :=
  match left, right with
  | .string a, .string b => pure (.bool (strings a b))
  | _, _ => Run.view fun m => .bool (numbers (left.toNumber m.heap) (right.toNumber m.heap))

/-- An operation on numbers. -/
def numeric (f : Float → Float → Float) (left right : Value) : Run Value :=
  Run.view fun m => .number (f (left.toNumber m.heap) (right.toNumber m.heap))

/-- An operation on 32-bit integers. -/
def bitwise (f : BitVec 32 → BitVec 32 → BitVec 32) (left right : Value) : Run Value :=
  numeric (fun a b =>
    Float.ofInt (f (.ofInt 32 (Number.toInt32 a)) (.ofInt 32 (Number.toInt32 b))).toInt) left right

/-- The sum of numbers, or the concatenation of texts. -/
def addition (left right : Value) : Run Value := do
  if left.isNumericPrimitive && right.isNumericPrimitive then
    numeric (· + ·) left right
  else
    let s ← Run.text left
    let t ← Run.text right
    let text := s ++ t
    Run.checkString text
    return .string text

/-- Whether an object or array has a key. -/
def hasKey (left right : Value) : Run Value := do
  let key ← Run.text left
  match right with
  | .object _ => Run.view fun m => .bool ((right.keys m.heap).contains key)
  | .array _ =>
    Run.view fun m => .bool (key = "length" ||
      ((Value.index? key).any fun i => decide (i < right.arrayLength m.heap)))
  | v => Run.raise (.type (.notSearchable key v.typeName))

/-- A binary operator applied to two values. -/
def applyBinary (op : BinaryOp) (left right : Value) (span : Span) : Run Value :=
  match op with
  | .add => addition left right
  | .subtract => numeric (· - ·) left right
  | .multiply => numeric (· * ·) left right
  | .divide => numeric (· / ·) left right
  | .remainder => numeric Number.remainder left right
  | .power => numeric Float.pow left right
  | .identical => pure (.bool (left.strictEquals right))
  | .notIdentical => pure (.bool (!left.strictEquals right))
  | .equal => Run.view fun m => .bool (left.looseEquals m.heap right)
  | .notEqual => Run.view fun m => .bool (!left.looseEquals m.heap right)
  | .less => compareBy (fun a b => decide (a < b)) (fun a b => decide (a < b)) left right
  | .lessEqual => compareBy (fun a b => !decide (b < a)) (fun a b => decide (a ≤ b)) left right
  | .greater => compareBy (fun a b => decide (b < a)) (fun a b => decide (b < a)) left right
  | .greaterEqual => compareBy (fun a b => !decide (a < b)) (fun a b => decide (b ≤ a)) left right
  | .bitAnd => bitwise (· &&& ·) left right
  | .bitOr => bitwise (· ||| ·) left right
  | .bitXor => bitwise (· ^^^ ·) left right
  | .shiftLeft => bitwise (fun a b => a <<< (b &&& 31)) left right
  | .shiftRight => bitwise (fun a b => a.sshiftRight (b.toNat % 32)) left right
  | .shiftRightUnsigned =>
    numeric (fun a b =>
      Float.ofNat (Number.toUInt32 a >>> (Number.toUInt32 b % 32))) left right
  | .isIn => hasKey left right
  | .instanceOf => Run.unsupported .instanceOf span

/-- Where an assignment stores its value. -/
inductive Place where
  | binding (name : String)
  | property (holder : Value) (key : String)

namespace Place

def read : Place → Run Value
  | .binding name => Run.lookup name
  | .property holder key => Run.readProperty holder key

/-- Stores a value; elements that an array gains are charged for. -/
def write (p : Place) (x : Value) : Run Unit :=
  match p with
  | .binding name => Run.assign name x
  | .property holder key => do
    let before ← Run.view fun m => holder.arrayLength m.heap
    Run.setProperty holder key x
    let after ← Run.view fun m => holder.arrayLength m.heap
    Run.charge ((after - before) / 8)

end Place

end ScopedViews.Sandbox
