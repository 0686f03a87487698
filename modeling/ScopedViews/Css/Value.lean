import ScopedViews.Css.Verbatim
/-!
# Reading values

Readers take components from the front of a value and give the shortest form of what they read.  The
values that reach them hold no gaps.
-/

namespace ScopedViews.Css

abbrev Reader := StateT (List Component) Option

namespace Reader

/-- The value of a reader that takes up everything. -/
def all? {α : Type} (r : Reader α) (cs : List Component) : Option α :=
  match r.run (Component.solid cs) with
  | some (a, []) => some a
  | _ => none

/-- The next component, if something can be made of it. -/
def pick {α : Type} (f : Component → Option α) : Reader α := fun cs =>
  match cs with
  | c :: rest => (f c).map (·, rest)
  | [] => none

def optional {α : Type} (r : Reader α) : Reader (Option α) := fun cs =>
  match r.run cs with
  | some (a, rest) => some (some a, rest)
  | none => some (none, cs)

/-- As many as there are, each of which takes something up. -/
def many {α : Type} (r : Reader α) : Reader (List α) := fun cs =>
  let rec go (fuel : Nat) (acc : List α) (cs : List Component) : List α × List Component :=
    match fuel with
    | 0 => (acc.reverse, cs)
    | fuel + 1 =>
      match r.run cs with
      | some (a, rest) => go fuel (a :: acc) rest
      | none => (acc.reverse, cs)
  some (go cs.length [] cs)

def many1 {α : Type} (r : Reader α) : Reader (List α) := do
  let a ← r
  let more ← many r
  pure (a :: more)

/-- The first of some readers to succeed. -/
def oneOf {α : Type} (rs : List (Reader α)) : Reader α := fun cs =>
  rs.findSome? fun r => r.run cs

/-- The whole of what is left, read part by part between commas. -/
def commas {α : Type} (r : Reader α) : Reader (List α) := fun cs =>
  ((Component.splitCommas cs).mapM (all? r)).map (·, [])

/-- What a function of a name is given. -/
def inside {α : Type} (name : String) (r : Reader α) : Reader α :=
  pick fun c =>
    match c with
    | .call n body => if n.toLower = name then all? r body else none
    | _ => none

/-- Things that stand in any order, each at most once and at least one of them; each says some
named values, the last said first. -/
def anyParts (rs : List (String × Reader (List (String × String)))) :
    Reader (List (String × String)) := fun cs =>
  let rec go (fuel : Nat) (found : List (String × String))
      (left : List (String × Reader (List (String × String)))) (cs : List Component) :
      List (String × String) × List Component :=
    match fuel with
    | 0 => (found, cs)
    | fuel + 1 =>
      match left.findSome? fun (n, r) => (r.run cs).map fun (s, rest) => (n, s, rest) with
      | some (n, s, rest) => go fuel (s ++ found) (left.filter fun (m, _) => m != n) rest
      | none => (found, cs)
  let (found, rest) := go rs.length [] rs cs
  if found.isEmpty then none else some (found, rest)

/-- Values that stand in any order, each at most once and at least one of them. -/
def anyOrder (rs : List (String × Reader String)) : Reader (List (String × String)) :=
  anyParts (rs.map fun (n, r) => (n, (fun s => [(n, s)]) <$> r))

/-- Words that every property takes and no other value is made of. -/
def common : List String := ["inherit", "initial", "unset", "revert", "revert-layer", "default"]

def word : Reader String :=
  pick fun c =>
    match c with
    | .token (.ident s) => if common.contains s.toLower then none else some s.toLower
    | _ => none

/-- One of some words. -/
def keyword (words : List String) : Reader String :=
  pick fun c =>
    match c with
    | .token (.ident s) => if words.contains s.toLower then some s.toLower else none
    | _ => none

/-- A name that the author chose. -/
def custom : Reader String :=
  pick fun c =>
    match c with
    | .token (.ident s) => if common.contains s.toLower then none else some (Written.ident s)
    | _ => none

def text : Reader String :=
  pick fun c =>
    match c with
    | .token (.string s) => some (Written.string s)
    | _ => none

def mark (ch : Char) : Reader Unit :=
  pick fun c =>
    match c with
    | .token (.delim d) => if d = ch then some () else none
    | _ => none

/-- A quantity of some kind, or a calculation of one. -/
def calculation (kind : Kind) : Reader Calc :=
  pick fun c =>
    match c with
    | .token (.number _) => none
    | c => Calc.ofComponent? kind (fun _ => none) c

/-- A length that does without its unit is one of pixels. -/
def bareLength : Reader Calc :=
  pick fun c =>
    match c with
    | .token (.number n) => some (.value ⟨n.value, "px"⟩)
    | _ => none

/-- Zero may do without its unit. -/
def bareZero (unit : String) : Reader Calc :=
  pick fun c =>
    match c with
    | .token (.number n) => if n.value == 0 then some (.value ⟨n.value, unit⟩) else none
    | _ => none

def lengthCalc : Reader Calc := bareLength <|> calculation .length

def lengthPercentageCalc : Reader Calc := bareLength <|> calculation .lengthPercentage

def length : Reader String := Calc.text <$> lengthCalc

def lengthPercentage : Reader String := Calc.text <$> lengthPercentageCalc

/-- A quantity that is worked out. -/
def quantity (kind : Kind) : Reader Quantity := do
  match ← calculation kind with
  | .value q => pure q
  | _ => failure

def percentage : Reader String := Quantity.text <$> quantity .percentage

def number : Reader Float32 :=
  pick fun c =>
    match Calc.ofComponent? .number (fun _ => none) c with
    | some (.number x) => some x
    | _ => none

def numberText : Reader String := Written.number <$> number

/-- A number, or a percentage as a part of one. -/
def part : Reader Float32 := number <|> Quantity.amount <$> quantity .percentage

/-- A number or a percentage as it is written. -/
def numberOrPercentage : Reader String := numberText <|> percentage

def wholeNumber : Reader Int :=
  pick fun c =>
    match c with
    | .token (.number n) => if n.whole then some n.integer else none
    | _ => none

def integer : Reader String := toString <$> wholeNumber

def time : Reader String := Quantity.text <$> quantity .time

/-- An angle, which needs its unit. -/
def angleUnit : Reader String := Quantity.text <$> quantity .angle

/-- An angle, where zero may do without its unit. -/
def angle : Reader String := do
  let q ← (do
    match ← bareZero "deg" with
    | .value q => pure q
    | _ => failure) <|> quantity .angle
  pure (if q.isZero then "0" else q.text)

def color : Reader String := pick Color.text?

def url : Reader String :=
  pick fun c =>
    match c with
    | .token (.url s) => some (Written.url s)
    | .call n body =>
      match n.toLower, Component.solid body with
      | "url", [.token (.string s)] => some (Written.url s)
      | _, _ => none
    | _ => none

/-- One or two values, of which the second may be left out if it is the same. -/
def pair (r : Reader String) : Reader String := do
  let a ← r
  let b ← optional r
  match b with
  | some b => pure (if a = b then a else a ++ " " ++ b)
  | none => pure a

/-- Values with single blanks between them. -/
def spaced (r : Reader String) : Reader String := (" ".intercalate ·) <$> many1 r

def commaText (r : Reader String) : Reader String := (",".intercalate ·) <$> commas r

end Reader

namespace Sides

/-- Four sides, top, right, bottom and left, without those that the others imply. -/
def text (top right bottom left : String) : String :=
  if left != right then " ".intercalate [top, right, bottom, left]
  else if bottom != top then " ".intercalate [top, right, bottom]
  else if right != top then " ".intercalate [top, right]
  else top

/-- The four sides that one to four values stand for. -/
def ofList? : List String → Option (String × String × String × String)
  | [a] => some (a, a, a, a)
  | [a, b] => some (a, b, a, b)
  | [a, b, c] => some (a, b, c, b)
  | [a, b, c, d] => some (a, b, c, d)
  | _ => none

end Sides

end ScopedViews.Css
