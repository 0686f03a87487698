import ScopedViews.Css.Unit
/-!
# Calculated quantities

Numbers and multiples of units, and what can be worked out of sums, products and functions of them.
What cannot be worked out stays a calculation.
-/

namespace ScopedViews.Css

/-- A multiple of a unit.  Hundredths, of the unit `%`, are held as parts of one. -/
structure Quantity where
  amount : Float32
  unit : String
deriving DecidableEq, Inhabited

namespace Quantity

def isPercent (q : Quantity) : Bool := q.unit = "%"

def isZero (q : Quantity) : Bool := q.amount == 0

/-- The unit in which two units can be added, and what each is worth in it. -/
def common? (a b : Quantity) : Option (Float32 × Float32 × String) :=
  if a.unit = b.unit then some (a.amount, b.amount, a.unit)
  else
    match Dimension.pixels? a.unit, Dimension.pixels? b.unit with
    | some p, some q => some (a.amount * p, b.amount * q, "px")
    | _, _ =>
      match Dimension.degrees? a.amount a.unit, Dimension.degrees? b.amount b.unit with
      | some p, some q => some (p, q, "deg")
      | _, _ =>
        match a.unit, b.unit with
        | "s", "ms" => some (a.amount, b.amount / 1000, "s")
        | "ms", "s" => some (a.amount, b.amount * 1000, "ms")
        | _, _ => none

/-- What an operation makes of two quantities of one kind. -/
def combine? (f : Float32 → Float32 → Float32) (a b : Quantity) : Option Quantity :=
  (common? a b).map fun (x, y, unit) => ⟨f x y, unit⟩

def scaled (k : Float32) (q : Quantity) : Quantity := ⟨q.amount * k, q.unit⟩

/-- A quantity inside a calculation. -/
def body (q : Quantity) : String :=
  if q.isPercent then Written.percentage q.amount else Dimension.text q.amount q.unit

/-- A quantity as a value.  A length of zero needs no unit. -/
def text (q : Quantity) : String :=
  if q.isZero && Dimension.ofUnit? q.unit = some .length then "0" else q.body

/-- A dimension of a token. -/
def ofDimension? (n : Numeral) (unit : String) : Option Quantity :=
  if (Dimension.ofUnit? unit.toLower).isSome then some ⟨n.value, unit.toLower⟩ else none

end Quantity

/-- What a calculation is a calculation of. -/
inductive Kind where
  | number
  | percentage
  | length
  | lengthPercentage
  | angle
  | anglePercentage
  | time
  | resolution
deriving DecidableEq, Inhabited

namespace Kind

/-- Whether quantities of a unit are of a kind. -/
def admits (k : Kind) (unit : String) : Bool :=
  let d := Dimension.ofUnit? unit
  match k with
  | number => false
  | percentage => unit = "%"
  | length => d = some .length
  | lengthPercentage => unit = "%" || d = some .length
  | angle => d = some .angle
  | anglePercentage => unit = "%" || d = some .angle
  | time => d = some .time
  | resolution => d = some .resolution

def admitsAngle : Kind → Bool
  | angle | anglePercentage => true
  | _ => false

end Kind

inductive Calc where
  | number (x : Float32)
  | value (q : Quantity)
  | sum (a b : Calc)
  | product (k : Float32) (c : Calc)
  /-- What has to be written as a calculation of its own. -/
  | wrapped (c : Calc)
  /-- A function that cannot be worked out; `mode` is what it is told before its arguments. -/
  | call (name mode : String) (args : List Calc)
deriving Inhabited

namespace Calc

/-- Whether something is above or below zero, as far as that is known: one with its sign. -/
def sign? : Calc → Option Float32
  | number x => some (signum x)
  | value q => some (signum q.amount)
  | product k c => c.sign?.map (· * signum k)
  | wrapped c => c.sign?
  | call name _ args =>
    match name, args with
    | "abs", _ => some 1
    | "sign", [c] => c.sign?
    | _, _ => none
  | sum _ _ => none
where
  signum (x : Float32) : Float32 := if Single.isNegative x then -1 else 1

def isNegative (c : Calc) : Bool := c.sign?.any (· < 0)

def isPositive (c : Calc) : Bool := c.sign?.any (0 < ·)

/-- A multiple of a calculation. -/
def scaled (k : Float32) (c : Calc) : Calc :=
  if k == 1 then c
  else
    match c with
    | number x => .number (x * k)
    | value q => .value (q.scaled k)
    | sum a b => .sum (scaled k a) (scaled k b)
    | product j c => if j * k == 1 then c else .product (j * k) c
    | wrapped c => .wrapped (scaled k c)
    | c => .product k c

def isZero : Calc → Bool
  | value q => q.isZero
  | _ => false

/-- A sum whose terms have nothing in common.  It starts with what it takes something from. -/
def plain (a b : Calc) : Calc :=
  if a.isZero then b
  else if b.isZero then a
  else if a.isNegative && b.isPositive then .sum b a
  else .sum a b

/-- The sum of two calculations, of which one takes up the other. -/
def join? (a b : Calc) : Option Calc :=
  match a, b with
  | .value p, .value q => (Quantity.combine? (· + ·) p q).map .value
  | .sum x y, b =>
    match join? x b with
    | some r => some (plain r y)
    | none => (join? y b).map (plain x ·)
  | a, .sum x y =>
    match join? a x with
    | some r => some (plain r y)
    | none => (join? a y).map (plain x ·)
  | _, _ => none
termination_by sizeOf a + sizeOf b

/-- A sum, with numbers added to numbers and quantities to those of their kind. -/
def add (a b : Calc) : Calc :=
  match a, b with
  | .number x, .number y => .number (x + y)
  | .sum (.number x) d, .number z => .sum (.number (x + z)) d
  | .sum d (.number x), .number z => .sum d (.number (x + z))
  | .number z, .sum (.number x) d => .sum (.number (z + x)) d
  | .number z, .sum d (.number x) => .sum (.number (z + x)) d
  | .number x, b => .sum (.number x) b
  | a, .number y => .sum a (.number y)
  | .product k c, b => .sum (.product k c) b
  | a, .product k c => .sum a (.product k c)
  | .call n m cs, b => .sum (.call n m cs) b
  | a, .call n m cs => .sum a (.call n m cs)
  | a, b => (join? a b).getD (plain a b)

/-- What an operation makes of two numbers, or of two quantities of one kind. -/
def applied? (f : Float32 → Float32 → Float32) : Calc → Calc → Option Calc
  | .number x, .number y => some (.number (f x y))
  | .value p, .value q => (Quantity.combine? f p q).map .value
  | _, _ => none

/-- Whether one of two comparable calculations is less than the other. -/
def less? : Calc → Calc → Option Bool
  | .number x, .number y => some (x < y)
  | .value p, .value q => (Quantity.common? p q).map fun (x, y, _) => decide (x < y)
  | _, _ => none

/-- What an operation makes of a number or of a quantity that is no share of another. -/
def map? (f : Float32 → Float32) : Calc → Option Calc
  | .number x => some (.number (f x))
  | .value q => if q.isPercent then none else some (.value ⟨f q.amount, q.unit⟩)
  | _ => none

/-- A text as many times as is said. -/
def times (k : Float32) (text : String) : String :=
  if k == 1 then text
  else if k.abs < 1 then text ++ "/" ++ Written.number (1 / k)
  else Written.number k ++ "*" ++ text

mutual

/-- A multiple of a calculation inside another. -/
def multiple (k : Float32) : Calc → String
  | number x => Written.number (x * k)
  | value q => (q.scaled k).body
  | sum a b =>
    if (b.sign?.map (· * k)).any (· < 0) then multiple k a ++ " - " ++ multiple (-k) b
    else multiple k a ++ " + " ++ multiple k b
  | product j c => times (j * k) (multiple 1 c)
  | wrapped c => "calc(" ++ multiple k c ++ ")"
  | call name mode args =>
    times k (name ++ "(" ++ (if mode.isEmpty then "" else mode ++ ",") ++
      ",".intercalate (bodies args) ++ ")")

def bodies : List Calc → List String
  | [] => []
  | c :: cs => multiple 1 c :: bodies cs

end

/-- A calculation inside another. -/
def body (c : Calc) : String := multiple 1 c

/-- A calculation as a value. -/
def text : Calc → String
  | value q => q.text
  | c => c.body

/-! ## Functions -/

/-- The least or greatest of calculations, where those that can be compared are. -/
def extremes (least : Bool) (args : List Calc) : List Calc :=
  args.foldl (fun kept arg =>
    let rec put : List Calc → List Calc
      | [] => [arg]
      | c :: cs =>
        match less? arg c, less? c arg with
        | some below, some above =>
          if (if least then below else above) then arg :: cs else c :: cs
        | _, _ => c :: put cs
    put kept) []

def extreme (name : String) (args : List Calc) : Calc :=
  match extremes (name = "min") args with
  | [c] => c
  | cs => .call name "" cs

/-- A calculation kept between two others, of which the lower one wins. -/
def clamp (low c high : Calc) : Calc :=
  let (c, high) :=
    match c, high with
    | .value _, .value _ =>
      match less? high c with
      | some true => (high, none)
      | some false => (c, none)
      | none => (c, some high)
    | _, _ => (c, some high)
  let (low, c) :=
    match low, c with
    | .value _, .value _ =>
      match less? c low with
      | some true => (none, low)
      | some false => (none, c)
      | none => (some low, c)
    | _, _ => (some low, c)
  match low, high with
  | none, none => c
  | some low, none => .call "max" "" [low, c]
  | none, some high => .call "min" "" [c, high]
  | some low, some high => .call "clamp" "" [low, c, high]

/-- To a multiple of a step. -/
def rounded (mode : String) (x step : Float32) : Float32 :=
  let n := x / step
  step * (match mode with
    | "up" => n.ceil
    | "down" => n.floor
    | "to-zero" => Single.truncate n
    | _ => n.round)

/-- The remainder with the sign of the divisor. -/
def modulo (x y : Float32) : Float32 :=
  Single.remainder (Single.remainder x y + y) y

/-- Functions of a number. -/
def ofNumber? (name : String) : Option (Float32 → Float32) :=
  match name with
  | "sqrt" => some Float32.sqrt
  | "exp" => some Float32.exp
  | _ => none

/-- Functions of an angle. -/
def ofAngle? (name : String) : Option (Float32 → Float32) :=
  match name with
  | "sin" => some Float32.sin
  | "cos" => some Float32.cos
  | "tan" => some Float32.tan
  | _ => none

/-- Functions whose value is an angle. -/
def toAngle? (name : String) : Option (Float32 → Float32) :=
  match name with
  | "asin" => some Float32.asin
  | "acos" => some Float32.acos
  | "atan" => some Float32.atan
  | _ => none

def constant? (name : String) : Option Float32 :=
  match name with
  | "e" => some 2.71828182845905
  | "pi" => some Dimension.pi
  | "infinity" => some (1 / 0)
  | "-infinity" => some (-1 / 0)
  | "nan" => some (0 / 0)
  | _ => none

def radians? (q : Quantity) : Option Float32 :=
  if q.unit = "rad" then some q.amount
  else (Dimension.degrees? q.amount q.unit).map (· * (Dimension.pi / 180))

/-- The length of a diagonal. -/
def hypot? : List Calc → Option Calc
  | [] => none
  | [c] => some c
  | [a, b] => applied? (fun x y => (x * x + y * y).sqrt) a b
  | a :: cs => do
    let sum ← cs.foldlM (applied? fun x y => x + y * y) (← applied? (fun x _ => x * x) a a)
    applied? (fun x _ => x.sqrt) sum sum

/-! ## Reading -/

/-- Where a calculation is read: its kind, and the words that stand for numbers in it. -/
structure Place where
  kind : Kind
  word? : String → Option Calc

def skip (cs : List Component) : List Component := cs.dropWhile (·.isGap)

/-- What a whole list of components stands for. -/
def ended {α : Type} : Option (α × List Component) → Option α
  | some (a, rest) => if (skip rest).isEmpty then some a else none
  | none => none

def rounding : List Component → String × List Component
  | .token (.ident s) :: rest =>
    if ["nearest", "up", "down", "to-zero"].contains s.toLower then (s.toLower, rest)
    else ("", .token (.ident s) :: rest)
  | cs => ("", cs)

def uncommented (cs : List Component) : List Component :=
  cs.filter fun c =>
    match c with
    | .token .comment => false
    | _ => true

mutual

/-- A sum of products.  A plus or a minus has a blank in front of it. -/
def read (fuel : Nat) (p : Place) (cs : List Component) : Option (Calc × List Component) :=
  match fuel with
  | 0 => none
  | fuel + 1 => do
    let (a, rest) ← readProduct fuel p cs
    readTerms fuel p a rest

/-- The products that follow a plus or a minus. -/
def readTerms (fuel : Nat) (p : Place) (a : Calc) (cs : List Component) :
    Option (Calc × List Component) :=
  match fuel with
  | 0 => none
  | fuel + 1 =>
    match cs with
    | .token .blank :: rest =>
      match skip rest with
      | .token (.delim '+') :: rest => do
        let (b, rest) ← readProduct fuel p rest
        readTerms fuel p (add a b) rest
      | .token (.delim '-') :: rest => do
        let (b, rest) ← readProduct fuel p rest
        readTerms fuel p (add a (scaled (-1) b)) rest
      | [] => some (a, [])
      | .token .comma :: _ => some (a, skip rest)
      | _ => none
    | cs => some (a, cs)

def readProduct (fuel : Nat) (p : Place) (cs : List Component) : Option (Calc × List Component) :=
  match fuel with
  | 0 => none
  | fuel + 1 => do
    let (a, rest) ← readValue fuel p cs
    readFactors fuel p a rest

/-- The values that follow a times or an over. -/
def readFactors (fuel : Nat) (p : Place) (a : Calc) (cs : List Component) :
    Option (Calc × List Component) :=
  match fuel with
  | 0 => none
  | fuel + 1 =>
    match skip cs with
    | .token (.delim '*') :: rest => do
      let (b, rest) ← readValue fuel p rest
      match a, b with
      | _, .number y => readFactors fuel p (scaled y a) rest
      | .number x, b => readFactors fuel p (scaled x b) rest
      | _, _ => none
    | .token (.delim '/') :: rest => do
      let (b, rest) ← readValue fuel p rest
      match b with
      | .number y => if y == 0 then none else readFactors fuel p (scaled (1 / y) a) rest
      | _ => none
    | _ => some (a, cs)

def readValue (fuel : Nat) (p : Place) (cs : List Component) : Option (Calc × List Component) :=
  match fuel with
  | 0 => none
  | fuel + 1 =>
    match skip cs with
    | .token (.number n) :: rest => some (.number n.value, rest)
    | .token (.percentage n) :: rest =>
      if p.kind.admits "%" then some (.value ⟨n.part, "%"⟩, rest) else none
    | .token (.dimension n unit) :: rest =>
      if p.kind.admits unit.toLower then some (.value ⟨n.value, unit.toLower⟩, rest) else none
    | .token (.ident s) :: rest =>
      match constant? s.toLower with
      | some x => some (.number x, rest)
      | none => (p.word? s).map (·, rest)
    | .block .round body :: rest => (ended (read fuel p (uncommented body))).map (·, rest)
    | .call name body :: rest =>
      (readCall fuel p name.toLower (uncommented body)).map fun c =>
        match c with
        | .wrapped c => (c, rest)
        | c => (c, rest)
    | _ => none

/-- What a function stands for. -/
def readCall (fuel : Nat) (p : Place) (name : String) (body : List Component) : Option Calc :=
  match fuel with
  | 0 => none
  | fuel + 1 =>
    let args (k : Kind) (body : List Component) : Option (List Calc) :=
      readAll fuel ⟨k, p.word?⟩ (Component.splitCommas body)
    let both (f : Float32 → Float32 → Float32) (mode : String) (body : List Component) :
        Option Calc :=
      match args p.kind body with
      | some [a, b] => some ((applied? f a b).getD (.call name mode [a, b]))
      | _ => none
    match name with
    | "calc" => (ended (read fuel p body)).map fun c =>
        match c with
        | .value _ | .number _ => c
        | c => .wrapped c
    | "min" | "max" => (args p.kind body).map (extreme name)
    | "clamp" =>
      match args p.kind body with
      | some [a, b, c] => some (clamp a b c)
      | _ => none
    | "round" =>
      let (mode, rest) := rounding (skip body)
      if mode.isEmpty then both (rounded "") "" body
      else
        match skip rest with
        | .token .comma :: rest => both (rounded mode) (if mode = "nearest" then "" else mode) rest
        | _ => none
    | "rem" => both Single.remainder "" body
    | "mod" => both modulo "" body
    | "abs" => (ended (read fuel p body)).map fun c =>
        (map? Float32.abs c).getD (.call name "" [c])
    | "sign" => (ended (read fuel p body)).map fun c =>
        match c with
        | .number x => .number (Single.signum x)
        | .value q => if q.isPercent then .call name "" [c] else .number (Single.signum q.amount)
        | c => .call name "" [c]
    | "hypot" => do
      let cs ← args p.kind body
      some ((hypot? cs).getD (.call name "" cs))
    | "pow" =>
      match args .number body with
      | some [.number x, .number y] => some (.number (x.pow y))
      | _ => none
    | "log" =>
      match args .number body with
      | some [.number x] => some (.number x.log)
      | some [.number x, .number y] => some (.number (x.log / y.log))
      | _ => none
    | "atan2" =>
      let angle := [Kind.length, .percentage, .angle, .time, .number].findSome? fun k =>
        match args k body with
        | some [.number y, .number x] => some (y.atan2 x)
        | some [.value y, .value x] =>
          (Quantity.common? y x).map fun (y, x, _) => y.atan2 x
        | _ => none
      match angle with
      | some a => if p.kind.admitsAngle then some (.value ⟨a, "rad"⟩) else none
      | none => none
    | _ =>
      match ofNumber? name, ofAngle? name, toAngle? name with
      | some f, _, _ =>
        match args .number body with
        | some [.number x] => some (.number (f x))
        | _ => none
      | _, some f, _ =>
        match args .angle body with
        | some [.number x] => some (.number (f x))
        | some [.value q] => (radians? q).map fun x => .number (f x)
        | _ => none
      | _, _, some f =>
        match args .angle body with
        | some [.number x] =>
          let a := f x
          if a.isNaN then some (.number a)
          else if p.kind.admitsAngle then some (.value ⟨a, "rad"⟩)
          else none
        | _ => none
      | none, none, none => none

/-- What each of some parts stands for. -/
def readAll (fuel : Nat) (p : Place) (parts : List (List Component)) : Option (List Calc) :=
  match fuel with
  | 0 => none
  | fuel + 1 =>
    match parts with
    | [] => some []
    | part :: parts => do
      let c ← ended (read fuel p part)
      some (c :: (← readAll fuel p parts))

end

/-- The quantity or number of some kind that a component stands for. -/
def ofComponent? (kind : Kind) (word? : String → Option Calc) (c : Component) : Option Calc :=
  match c with
  | .token (.ident s) => word? s
  | .call name body => readCall (8 * c.weight + 8) ⟨kind, word?⟩ name.toLower (uncommented body)
  | .block _ _ => none
  | c => (readValue 2 ⟨kind, word?⟩ [c]).map (·.1)

end Calc

end ScopedViews.Css
