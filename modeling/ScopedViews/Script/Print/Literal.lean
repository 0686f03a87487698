import ScopedViews.Number.Dyadic
import ScopedViews.Number.Shortest
import ScopedViews.Text.Pattern
/-!
# Written forms of literals

Numbers are written in the shortest of several ways.  Texts are quoted so that the value reads
back and no closing script tag appears.
-/

namespace ScopedViews.Script

/-- The kinds of quotation marks. -/
inductive Quote where
  | double | single | backquote
deriving Repr, DecidableEq

namespace Quote

def char : Quote → Char
  | .double => Char.ofNat 34
  | .single => Char.ofNat 39
  | .backquote => Char.ofNat 96

end Quote

/-- The shorter of two texts, the first one if they are equally long. -/
def shorter (a b : List Char) : List Char := if b.length < a.length then b else a

def decimalChars (n : Nat) : List Char := (toString n).toList

def signedChars (n : Int) : List Char :=
  if n < 0 then '-' :: decimalChars n.natAbs else decimalChars n.natAbs

/-- The digits of a whole number in hexadecimal. -/
def hexChars (n : Nat) : List Char := '0' :: 'x' :: Nat.toDigits 16 n

/-- `.00012` as `12e-5`. -/
def withNegativeExponent (cs : List Char) : List Char :=
  match cs with
  | '.' :: '0' :: rest =>
    let digits := rest.dropWhile (· == '0')
    if digits.isEmpty then cs
    else shorter cs (digits ++ ['e', '-'] ++ decimalChars (cs.length - 1))
  | _ => cs

/-- `1200000` as `12e5`. -/
def withTrailingZeros (cs : List Char) : List Char :=
  let zeros := (cs.reverse.takeWhile (· == '0')).length
  if zeros = 0 then cs
  else shorter cs (cs.take (cs.length - zeros) ++ ['e'] ++ decimalChars zeros)

/-- What stands before and after the first `mark`. -/
def cutAround? (mark : Char) (cs : List Char) : Option (List Char × List Char) :=
  match cs.span (· != mark) with
  | (_, []) => none
  | (front, _ :: back) => some (front, back)

/-- `1.2e100` as `12e99`. -/
def withoutPoint (cs : List Char) : List Char :=
  match cutAround? '.' cs with
  | none => cs
  | some (whole, rest) =>
    match cutAround? 'e' rest with
    | none => cs
    | some (fraction, exponent) =>
      match (String.ofList exponent).toInt? with
      | none => cs
      | some e => shorter cs (whole ++ fraction ++ 'e' :: signedChars (e - fraction.length))

/-- A number without the blank zero in front of its point and without the sign of its exponent. -/
def plainChars (x : Float) : List Char :=
  let written :=
    match (Number.text x).toList with
    | '0' :: '.' :: rest => '.' :: rest
    | cs => cs
  written.filter (· != '+')

/-- A finite number that is not negative, in the shortest way.  Small whole numbers are written
as usual. -/
def numberChars (x : Float) : List Char :=
  let plain := plainChars x
  let rewritten := withoutPoint (withTrailingZeros (withNegativeExponent plain))
  match Number.whole? x with
  | none => plain
  | some n =>
    if !Number.isWhole x then rewritten
    else if n < 1000 then plain
    else if (hexChars n.toNat).length < plain.length then hexChars n.toNat
    else rewritten

/-- Whether a written number ends so that a dot after it would be read as part of it. -/
def takesDot (cs : List Char) : Bool := !cs.any fun c => c = '.' || c = 'e' || c = 'x'

/-- What follows the start of a closing script tag, in any case. -/
def opensClosingTag (cs : List Char) : Bool :=
  ("</script".toList.map Char.toLower).isPrefixOf ((cs.take 8).map Char.toLower)

/-- A text in which closing script tags have a backslash. -/
def hideClosingTags : List Char → List Char
  | [] => []
  | c :: rest =>
    if opensClosingTag (c :: rest) then c :: '\\' :: hideClosingTags rest
    else c :: hideClosingTags rest

/-- One character of a quoted text, told the characters after it. -/
def quotedChar (q : Quote) (c : Char) (rest : List Char) : List Char :=
  let backquoted := q == .backquote
  match c.toNat with
  | 0 => if (rest.head?.any Char.isDigit) then ['\\', 'x', '0', '0'] else ['\\', '0']
  | 7 => ['\\', 'x', '0', '7']
  | 8 => ['\\', 'b']
  | 10 => if backquoted then ['\n'] else ['\\', 'n']
  | 11 => ['\\', 'v']
  | 12 => ['\\', 'f']
  | 13 => ['\\', 'r']
  | 27 => ['\\', 'x', '1', 'B']
  | 92 => ['\\', '\\']
  | 0xA0 => ['\\', 'x', 'A', '0']
  | 0x2028 => ['\\', 'u', '2', '0', '2', '8']
  | 0x2029 => ['\\', 'u', '2', '0', '2', '9']
  | _ =>
    if c = q.char then ['\\', c]
    else if backquoted && c = '$' && (rest.head?.any (·.toNat = 0x7B)) then ['\\', '$']
    else if opensClosingTag (c :: rest) then ['<', '\\']
    else [c]

def quotedChars (q : Quote) : List Char → List Char
  | [] => []
  | c :: rest => quotedChar q c rest ++ quotedChars q rest

/-- How many characters of a text are not their own written form within quotes. -/
def extraChars (q : Quote) (cs : List Char) : Nat := (quotedChars q cs).length

/-- The quotes that make a text shortest; backquotes are preferred where they may be used. -/
def bestQuote (backquotes : Bool) (cs : List Char) : Quote :=
  let double := extraChars .double cs
  let single := extraChars .single cs
  let backquote := extraChars .backquote cs
  if backquotes && backquote ≤ double && backquote ≤ single then .backquote
  else if double ≤ single then .double
  else .single

/-- A text in quotes. -/
def quoted (q : Quote) (cs : List Char) : List Char := q.char :: quotedChars q cs ++ [q.char]

/-- The quotes for the text of a directive, which is written as it was read: those that do not
occur in it. -/
def directiveQuote : List Char → Quote
  | [] => .double
  | c :: rest =>
    if c.toNat = 34 then .single
    else if c.toNat = 39 then .double
    else if c = '\\' then directiveQuote (rest.drop 1)
    else directiveQuote rest
termination_by cs => cs.length

end ScopedViews.Script
