import ScopedViews.Json.Basic
import ScopedViews.Number.Read
/-!
# Reading JSON

Main definition: `Json.ofText?`, which accepts exactly one value between blanks.  Containers may
be nested at most 127 deep, numbers have to be finite, and escapes have to form whole characters.
-/

namespace ScopedViews.Json

def isQuote (c : Char) : Bool := c.toNat = 34

def isBlank (c : Char) : Bool := c = ' ' || c = '\n' || c = '\t' || c = '\r'

def skipBlanks (cs : List Char) : List Char := cs.dropWhile isBlank

/-- The value of `count` hexadecimal digits. -/
def hex? : Nat → List Char → Option (Nat × List Char)
  | 0, cs => some (0, cs)
  | count + 1, cs =>
    match cs with
    | [] => none
    | c :: rest => do
      let digit ← Number.hexDigit? c
      let (value, rest) ← hex? count rest
      return (digit * Nat.pow 16 count + value, rest)

/-- The character that four hexadecimal digits stand for, or eight in two escapes. -/
def escapedUnit? (cs : List Char) : Option (Char × List Char) := do
  let (high, rest) ← hex? 4 cs
  if 0xDC00 ≤ high && high ≤ 0xDFFF then none
  else if 0xD800 ≤ high && high ≤ 0xDBFF then
    match rest with
    | '\\' :: 'u' :: rest => do
      let (low, rest) ← hex? 4 rest
      if 0xDC00 ≤ low && low ≤ 0xDFFF then
        some (Char.ofNat (0x10000 + (high - 0xD800) * 0x400 + (low - 0xDC00)), rest)
      else none
    | _ => none
  else some (Char.ofNat high, rest)

/-- The character after a backslash. -/
def escaped? : List Char → Option (Char × List Char)
  | '\\' :: rest => some ('\\', rest)
  | '/' :: rest => some ('/', rest)
  | 'b' :: rest => some ('\x08', rest)
  | 'f' :: rest => some ('\x0c', rest)
  | 'n' :: rest => some ('\n', rest)
  | 'r' :: rest => some ('\r', rest)
  | 't' :: rest => some ('\t', rest)
  | 'u' :: rest => escapedUnit? rest
  | c :: rest => if isQuote c then some (c, rest) else none
  | [] => none

/-- The rest of a text after its opening quote; `out` is what was read, reversed. -/
def stringBody? : Nat → List Char → List Char → Option (String × List Char)
  | 0, _, _ => none
  | _ + 1, _, [] => none
  | fuel + 1, out, c :: rest =>
    if isQuote c then some (String.ofList out.reverse, rest)
    else if c = '\\' then do
      let (c, rest) ← escaped? rest
      stringBody? fuel (c :: out) rest
    else if c.toNat < 0x20 then none
    else stringBody? fuel (c :: out) rest

def quoted? : List Char → Option (String × List Char)
  | c :: rest => if isQuote c then stringBody? (rest.length + 1) [] rest else none
  | [] => none

/-- At least one digit, and none more than one if the first is a zero. -/
def wholeDigits? (cs : List Char) : Option (List Char × List Char) :=
  match cs.span Char.isDigit with
  | ([], _) => none
  | ('0' :: _ :: _, _) => none
  | (digits, rest) => some (digits, rest)

def fraction? : List Char → Option (List Char × List Char)
  | '.' :: rest =>
    match rest.span Char.isDigit with
    | ([], _) => none
    | (digits, rest) => some ('.' :: digits, rest)
  | cs => some ([], cs)

def exponent? : List Char → Option (List Char × List Char)
  | c :: rest =>
    if c = 'e' || c = 'E' then
      let (sign, rest) :=
        match rest with
        | '+' :: rest => (['+'], rest)
        | '-' :: rest => (['-'], rest)
        | _ => ([], rest)
      match rest.span Char.isDigit with
      | ([], _) => none
      | (digits, rest) => some (c :: sign ++ digits, rest)
    else some ([], c :: rest)
  | [] => some ([], [])

/-- The digits of a number as a whole number of 64 bits, and the power of ten it is to be taken
times.  Digits that no longer fit count for nothing but their place, those behind the point not
even for that. -/
def gather (whole fraction : List Char) : Nat × Int :=
  let most := 18446744073709551615
  let digit (c : Char) : Nat := c.toNat - 48
  let (n, power, _) := whole.foldl
    (fun (n, power, full) c =>
      if full || most < 10 * n + digit c then (n, power + 1, true)
      else (10 * n + digit c, power, false))
    ((0, 0, false) : Nat × Int × Bool)
  let (n, power, _) := fraction.foldl
    (fun (n, power, full) c =>
      if full || most < 10 * n + digit c then (n, power, true)
      else (10 * n + digit c, power - 1, false))
    (n, power, false)
  (n, power)

/-- Whether a number times a power of ten is in the range of doubles, as it comes out where both are
rounded first. -/
def inRange (n : Nat) (power : Int) : Bool :=
  n = 0 || power < 0 ||
    (power ≤ 308 && !(n.toFloat * Float.ofScientific 1 false power.toNat).isInf)

/-- The power of ten that an exponent is written for. -/
def powerOf : List Char → Int
  | _ :: '-' :: digits => -(digits.foldl (fun n c => 10 * n + (c.toNat - 48)) 0 : Nat)
  | _ :: '+' :: digits => (digits.foldl (fun n c => 10 * n + (c.toNat - 48)) 0 : Nat)
  | _ :: digits => (digits.foldl (fun n c => 10 * n + (c.toNat - 48)) 0 : Nat)
  | [] => 0

/-- A number that is not too large for a double. -/
def number? (cs : List Char) : Option (Json × List Char) := do
  let (sign, rest) :=
    match cs with
    | '-' :: rest => (['-'], rest)
    | _ => ([], cs)
  let (whole, rest) ← wholeDigits? rest
  let (fraction, rest) ← fraction? rest
  let (exponent, rest) ← exponent? rest
  let (n, power) := gather whole (fraction.drop 1)
  if inRange n (power + powerOf exponent) then
    some (.number (String.ofList (sign ++ whole ++ fraction ++ exponent)), rest)
  else none

/-- Items separated by commas, up to `close`.  `opening` is the text behind the opening bracket. -/
def separated? {α : Type} (item : List Char → Option (α × List Char)) (close : Char)
    (opening : List Char) : Option (List α × List Char) :=
  let rec more : Nat → List α → List Char → Option (List α × List Char)
    | 0, _, _ => none
    | fuel + 1, out, cs => do
      let (x, rest) ← item (skipBlanks cs)
      match skipBlanks rest with
      | [] => none
      | c :: rest =>
        if c = ',' then more fuel (x :: out) rest
        else if c = close then some ((x :: out).reverse, rest)
        else none
  match skipBlanks opening with
  | [] => none
  | c :: rest => if c = close then some ([], rest) else more opening.length [] (c :: rest)

/-- A key, a colon and a value. -/
def member? (value : List Char → Option (Json × List Char)) (cs : List Char) :
    Option ((String × Json) × List Char) := do
  let (key, rest) ← quoted? cs
  match skipBlanks rest with
  | ':' :: rest => do
    let (x, rest) ← value (skipBlanks rest)
    return ((key, x), rest)
  | _ => none

/-- One value with at most `depth` containers inside one another. -/
def value? (depth : Nat) (cs : List Char) : Option (Json × List Char) :=
  match cs with
  | 'n' :: 'u' :: 'l' :: 'l' :: rest => some (.null, rest)
  | 't' :: 'r' :: 'u' :: 'e' :: rest => some (.bool true, rest)
  | 'f' :: 'a' :: 'l' :: 's' :: 'e' :: rest => some (.bool false, rest)
  | '[' :: rest =>
    match depth with
    | 0 => none
    | depth + 1 => do
      let (items, rest) ← separated? (value? depth) ']' rest
      return (.array items, rest)
  | c :: rest =>
    if c.toNat = 0x7B then
      match depth with
      | 0 => none
      | depth + 1 => do
        let (members, rest) ← separated? (member? (value? depth)) (Char.ofNat 0x7D) rest
        return (.object members, rest)
    else if isQuote c then (quoted? cs).map fun (s, rest) => (.string s, rest)
    else number? cs
  | [] => none

/-- The value that a text consists of. -/
def ofText? (s : String) : Option Json := do
  let (j, rest) ← value? 127 (skipBlanks s.toList)
  if (skipBlanks rest).isEmpty then some j else none

end ScopedViews.Json
