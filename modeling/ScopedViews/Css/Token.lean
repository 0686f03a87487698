import ScopedViews.Number.Read
import ScopedViews.Number.Single
/-!
# Style sheet tokens

The tokens of a style sheet: names with escapes, numbers with units, texts, addresses, and
punctuation.
-/

namespace ScopedViews.Css

/-- A number: its value, whether it has a sign, whether it has neither a point nor a power of ten,
and how it is written. -/
structure Numeral where
  exact : Float
  signed : Bool
  whole : Bool
  written : String
deriving BEq, Inhabited

namespace Numeral

/-- The value that a style sheet's number stands for. -/
def value (n : Numeral) : Float32 := n.exact.toFloat32

/-- A number of hundredths as a part of one. -/
def part (n : Numeral) : Float32 := (n.exact / 100).toFloat32

/-- A whole number, kept to 32 bits. -/
def integer (n : Numeral) : Int :=
  max (-2147483648) (min 2147483647 ((Number.whole? n.exact).getD
    (if n.exact < 0 then -2147483648 else 2147483647)))

end Numeral

inductive Bracket where
  | round
  | square
  | curly
deriving DecidableEq, Inhabited

namespace Bracket

def opening : Bracket → Char
  | round => '('
  | square => '['
  | curly => '\x7b'

def closing : Bracket → Char
  | round => ')'
  | square => ']'
  | curly => '\x7d'

end Bracket

inductive Token where
  | ident (name : String)
  /-- A name and the parenthesis right after it. -/
  | function (name : String)
  | atWord (name : String)
  /-- A name behind a `#`, and whether it could stand without it. -/
  | hash (name : String) (isName : Bool)
  | string (value : String)
  | url (value : String)
  /-- A text or an address that breaks off. -/
  | broken
  | delim (c : Char)
  | number (n : Numeral)
  | percentage (n : Numeral)
  | dimension (n : Numeral) (unit : String)
  | blank
  | comment
  /-- The start or the end of a comment in markup. -/
  | markup
  | colon
  | semicolon
  | comma
  /-- Two characters that compare an attribute. -/
  | matching (c : Char)
  | opening (b : Bracket)
  | closing (b : Bracket)
deriving BEq, Inhabited

namespace Token

def isNameStart (c : Char) : Bool :=
  c.isAlpha || c = '_' || 0x80 ≤ c.toNat

def isNamePart (c : Char) : Bool :=
  isNameStart c || c.isDigit || c = '-'

def isBlank (c : Char) : Bool :=
  c = ' ' || c = '\t' || c = '\n'

/-- Whether a backslash and what follows it write a character of a name. -/
def startsEscape : List Char → Bool
  | '\x5c' :: '\n' :: _ => false
  | '\x5c' :: _ => true
  | _ => false

/-- Whether a name starts here. -/
def startsName : List Char → Bool
  | '-' :: '-' :: _ => true
  | '-' :: c :: rest => isNameStart c || startsEscape (c :: rest)
  | c :: rest => isNameStart c || startsEscape (c :: rest)
  | [] => false

/-- Whether a number starts here. -/
def startsNumber (cs : List Char) : Bool :=
  match (Number.sign cs).2 with
  | '.' :: c :: _ => c.isDigit
  | c :: _ => c.isDigit
  | [] => false

/-- The character that an escape writes, after the backslash, and what follows it. -/
def escaped : List Char → Char × List Char
  | [] => ('\ufffd', [])
  | c :: rest =>
    if (Number.hexDigit? c).isSome then
      let digits := (c :: rest).take 6 |>.takeWhile fun d => (Number.hexDigit? d).isSome
      let n := digits.foldl (fun n d => 16 * n + (Number.hexDigit? d).getD 0) 0
      let after := (c :: rest).drop digits.length
      let after :=
        match after with
        | b :: more => if isBlank b then more else after
        | [] => []
      (if n = 0 ∨ ¬ n.isValidChar then '\ufffd' else Char.ofNat n, after)
    else (c, rest)

/-- The name at the front of a text. -/
def spanName : Nat → List Char → List Char → List Char × List Char
  | 0, acc, rest => (acc.reverse, rest)
  | fuel + 1, acc, cs =>
    match cs with
    | [] => (acc.reverse, [])
    | c :: rest =>
      if isNamePart c then spanName fuel (c :: acc) rest
      else if startsEscape cs then
        let (e, after) := escaped rest
        spanName fuel (e :: acc) after
      else (acc.reverse, cs)

def name (cs : List Char) : String × List Char :=
  let (n, rest) := spanName cs.length [] cs
  (String.ofList n, rest)

/-- The number at the front of a text. -/
def numeral (cs : List Char) : Numeral × List Char :=
  let (negative, rest) := Number.sign cs
  let signed := rest.length != cs.length
  let (int, rest) := Number.spanDigits rest
  let (fraction, rest) :=
    match rest with
    | '.' :: c :: more => if c.isDigit then Number.spanDigits (c :: more) else ([], rest)
    | _ => ([], rest)
  let (exponent, rest) :=
    match rest with
    | e :: more =>
      if e = 'e' || e = 'E' then
        let (down, digits) := Number.sign more
        match Number.spanDigits digits with
        | ([], _) => (none, rest)
        | (ds, after) =>
          let n : Int := Number.digitsValue ds
          (some (if down then -n else n), after)
      else (none, rest)
    | [] => (none, rest)
  let whole := int.foldl (fun x d => x * 10 + digit d) 0.0
  let parts := (fraction.foldl (fun (x, unit) d => (x + digit d * unit, unit * 0.1)) (0.0, 0.1)).1
  let value := if negative then -(whole + parts) else whole + parts
  let value :=
    match exponent with
    | some n => value * Float.pow 10.0 (Float.ofInt n)
    | none => value
  let written := String.ofList (cs.take (cs.length - rest.length))
  (⟨value, signed, fraction.isEmpty && exponent.isNone, written⟩, rest)
where
  digit (c : Char) : Float := Float.ofNat (c.toNat - 48)

/-- A number, with its unit if one follows. -/
def numeric (cs : List Char) : Token × List Char :=
  let (n, rest) := numeral cs
  if startsName rest then
    let (unit, rest) := name rest
    (.dimension n unit, rest)
  else
    match rest with
    | '%' :: rest => (.percentage n, rest)
    | _ => (.number n, rest)

/-- The rest of a quoted text. -/
def quoted (quote : Char) : Nat → List Char → List Char → Token × List Char
  | 0, acc, rest => (.string (String.ofList acc.reverse), rest)
  | fuel + 1, acc, cs =>
    match cs with
    | [] => (.string (String.ofList acc.reverse), [])
    | '\n' :: _ => (.broken, cs)
    | '\x5c' :: [] => (.string (String.ofList acc.reverse), [])
    | '\x5c' :: '\n' :: rest => quoted quote fuel acc rest
    | c :: rest =>
      if c = quote then (.string (String.ofList acc.reverse), rest)
      else if c = '\x5c' then
        let (e, after) := escaped rest
        quoted quote fuel (e :: acc) after
      else quoted quote fuel (c :: acc) rest

/-- What is left after an address that breaks off. -/
def afterBroken : Nat → List Char → List Char
  | 0, rest => rest
  | fuel + 1, cs =>
    match cs with
    | [] => []
    | ')' :: rest => rest
    | '\x5c' :: _ :: rest => afterBroken fuel rest
    | _ :: rest => afterBroken fuel rest

/-- The rest of an address without quotes. -/
def bare : Nat → List Char → List Char → Token × List Char
  | 0, acc, rest => (.url (String.ofList acc.reverse), rest)
  | fuel + 1, acc, cs =>
    match cs with
    | [] => (.url (String.ofList acc.reverse), [])
    | c :: rest =>
      if c = ')' then (.url (String.ofList acc.reverse), rest)
      else if isBlank c then
        match rest.dropWhile isBlank with
        | [] => (.url (String.ofList acc.reverse), [])
        | ')' :: after => (.url (String.ofList acc.reverse), after)
        | after => (.broken, afterBroken fuel after)
      else if startsEscape cs then
        let (e, after) := escaped rest
        bare fuel (e :: acc) after
      else if c.toNat = 34 || c.toNat = 39 || c = '(' || c = '\x5c' || c.toNat < 32 ||
          c.toNat = 127 then
        (.broken, afterBroken fuel rest)
      else bare fuel (c :: acc) rest

/-- A word, a function, or an address. -/
def word (cs : List Char) : Token × List Char :=
  let (n, rest) := name cs
  match rest with
  | '(' :: rest =>
    if n.toLower = "url" then
      let inner := rest.dropWhile isBlank
      match inner with
      | c :: _ => if c.toNat = 34 || c.toNat = 39 then (.function n, rest)
        else bare inner.length [] inner
      | [] => (.url "", [])
    else (.function n, rest)
  | _ => (.ident n, rest)

/-- What follows a comment. -/
def afterComment : List Char → List Char
  | '*' :: '/' :: rest => rest
  | _ :: rest => afterComment rest
  | [] => []

/-- The token at the front of a text that is not empty. -/
def next (c : Char) (rest : List Char) : Token × List Char :=
  let cs := c :: rest
  if isBlank c then (.blank, rest.dropWhile isBlank)
  else if c.toNat = 34 || c.toNat = 39 then quoted c cs.length [] rest
  else if startsNumber cs then numeric cs
  else
    match c, rest with
    | '/', '*' :: more => (.comment, afterComment more)
    | '-', '-' :: '>' :: more => (.markup, more)
    | '<', '!' :: '-' :: '-' :: more => (.markup, more)
    | _, _ =>
      if startsName cs then word cs
      else
        match c, rest with
        | '#', more =>
          match more with
          | d :: _ =>
            if isNamePart d || startsEscape more then
              let (n, after) := name more
              (.hash n (startsName more), after)
            else (.delim '#', rest)
          | [] => (.delim '#', rest)
        | '@', more =>
          if startsName more then
            let (n, after) := name more
            (.atWord n, after)
          else (.delim '@', rest)
        | _, '=' :: more =>
          if c = '~' || c = '|' || c = '^' || c = '$' || c = '*' then (.matching c, more)
          else (.delim c, rest)
        | ':', _ => (.colon, rest)
        | ';', _ => (.semicolon, rest)
        | ',', _ => (.comma, rest)
        | '(', _ => (.opening .round, rest)
        | '[', _ => (.opening .square, rest)
        | '\x7b', _ => (.opening .curly, rest)
        | ')', _ => (.closing .round, rest)
        | ']', _ => (.closing .square, rest)
        | '\x7d', _ => (.closing .curly, rest)
        | _, _ => (.delim c, rest)

/-- The tokens of a text, of which each takes at least one character. -/
def scanFrom : Nat → List Char → List Token
  | 0, _ => []
  | _, [] => []
  | fuel + 1, c :: rest =>
    let (t, after) := next c rest
    t :: scanFrom fuel after

/-- One kind of line break, and no null character. -/
def cleaned : List Char → List Char
  | [] => []
  | '\r' :: '\n' :: rest => '\n' :: cleaned rest
  | '\r' :: rest => '\n' :: cleaned rest
  | c :: rest =>
    (if c.toNat = 12 then '\n' else if c.toNat = 0 then '\ufffd' else c) :: cleaned rest

def scan (source : String) : List Token :=
  let cs := cleaned source.toList
  scanFrom cs.length cs

end Token

end ScopedViews.Css
