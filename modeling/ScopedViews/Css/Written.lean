import ScopedViews.Css.Component
/-!
# Shortest written forms

Names, texts, addresses and numbers as a minified style sheet writes them.  A number keeps six
leading digits and no zero in front of its point.
-/

namespace ScopedViews.Css

namespace Written

/-- A character of a name by its code. -/
def coded (c : Char) : String :=
  "\\" ++ String.ofList (Nat.toDigits 16 c.toNat) ++ " "

/-- A character of a name, escaped if it could not stand there. -/
def nameChar (c : Char) : String :=
  if c.toNat = 0 then "\ufffd"
  else if Token.isNamePart c then c.toString
  else if c.toNat < 32 || c.toNat = 127 then coded c
  else "\\" ++ c.toString

def namePart (cs : List Char) : String :=
  String.join (cs.map nameChar)

/-- A name that may stand alone. -/
def ident (s : String) : String :=
  match s.toList with
  | [] => ""
  | ['-'] => "\\-"
  | '-' :: '-' :: rest => "--" ++ namePart rest
  | '-' :: c :: rest =>
    if c.isDigit then "-" ++ coded c ++ namePart rest else "-" ++ namePart (c :: rest)
  | c :: rest => if c.isDigit then coded c ++ namePart rest else namePart (c :: rest)

/-- A quoted text. -/
def string (s : String) : String :=
  let body := s.toList.map fun c =>
    if c.toNat = 34 then "\\\"" else if c = '\x5c' then "\\\\"
    else if c.toNat = 0 then "\ufffd"
    else if c.toNat < 32 || c.toNat = 127 then coded c
    else c.toString
  "\"" ++ String.join body ++ "\""

/-- An address without quotes, or with them where that is shorter. -/
def url (s : String) : String :=
  let body := s.toList.map fun c =>
    let n := c.toNat
    if n ≤ 32 || n = 127 then coded c
    else if n = 34 || n = 39 || c = '(' || c = ')' || c = '\x5c' then "\\" ++ c.toString
    else c.toString
  let plain := "url(" ++ String.join body ++ ")"
  let quoted := string s
  if s.utf8ByteSize + 7 < plain.utf8ByteSize && quoted.utf8ByteSize + 5 < plain.utf8ByteSize then
    "url(" ++ quoted ++ ")"
  else plain

/-- A text of a number less than one without the zero in front of its point. -/
def withoutZero (text : String) : String :=
  match text.toList with
  | '-' :: rest => "-" ++ String.ofList (rest.dropWhile (· = '0'))
  | cs => String.ofList (cs.dropWhile (· = '0'))

/-- A number with nothing in front of its point if it is less than one. -/
def number (x : Float32) : String :=
  let text := Single.text x
  if x != 0 && x.abs < 1 then withoutZero text else text

/-- A number in front of a unit or a percent sign, where zero keeps its sign. -/
def signedZero (x : Float32) : String :=
  if x == 0 && Single.isNegative x then "-0" else Single.text x

/-- A part of one as hundredths. -/
def percentage (x : Float32) : String :=
  let text := signedZero (x * 100)
  (if x != 0 && x.abs < 0.01 then withoutZero text else text) ++ "%"

/-- A number in front of a unit.  Whole numbers of 32 bits keep all their digits. -/
def amount (x : Float32) : String :=
  if x != 0 && x.abs < 1 then number x
  else if x != 0 && Single.isWhole x && x.abs < 2147483648 then toString (Single.toInt32 x)
  else signedZero x

/-- A number with its unit. -/
def dimension (x : Float32) (unit : String) : String :=
  let unit :=
    match unit.toList with
    | e :: rest =>
      if (e = 'e' || e = 'E') && (rest.isEmpty || (rest.head?.any fun c => c = '-' || c.isDigit))
      then coded e ++ namePart rest else ident unit
    | [] => ""
  amount x ++ unit

end Written

end ScopedViews.Css
