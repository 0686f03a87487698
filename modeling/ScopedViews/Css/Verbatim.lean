import ScopedViews.Css.Color
/-!
# Values as written

A value of which no more is known than its tokens: gaps become single blanks, and colours and
numbers take their shortest form.
-/

namespace ScopedViews.Css

namespace Verbatim

/-- A piece of a value: a gap, or finished text. -/
inductive Piece where
  | gap
  | text (s : String)
deriving BEq, Inhabited

def Piece.written : Piece → String
  | .gap => " "
  | .text s => s

/-- Adds a piece; a gap after another is none. -/
def push (p : Piece) (ps : List Piece) : List Piece :=
  match p, ps with
  | .gap, .gap :: _ => ps
  | p, ps => p :: ps

/-- A percentage as a token. -/
def percentage (n : Numeral) : String :=
  let x := n.part * 100
  let text := Written.signedZero x
  (if n.signed && !Single.isNegative x then "+" else "") ++ text ++
    (if !n.whole && Single.isWhole x && !(text.toList.any fun c => c = '.' || c = 'e')
      then ".0" else "") ++ "%"

/-- A token that is no gap. -/
def token? : Token → Option String
  | .ident s => some (Written.ident s)
  | .atWord s => some ("@" ++ Written.ident s)
  | .hash s isName =>
    some ((Color.text? (.token (.hash s isName))).getD ("#" ++ Written.namePart s.toList))
  | .string s => some (Written.string s)
  | .url s => some (Written.url s)
  | .number n => some (Written.number n.value)
  | .percentage n => some (percentage n)
  | .dimension n unit =>
    some (match Quantity.ofDimension? n unit with
      | some q => q.body
      | none => Written.dimension n.value unit)
  | .markup => some "-->"
  | .colon => some ":"
  | .semicolon => some ";"
  | .comma => some ","
  | .delim c => some c.toString
  | .matching c => some (c.toString ++ "=")
  | _ => none

/-- The pieces, of which the last comes first, in order and without a gap at either end unless it
is all there is. -/
def trimmed (pieces : List Piece) : List Piece :=
  let pieces := pieces.reverse
  if pieces.length < 2 then pieces
  else
    let pieces := if pieces.head? == some .gap then pieces.drop 1 else pieces
    if pieces.getLast? == some .gap then pieces.dropLast else pieces

def joined (pieces : List Piece) : String :=
  String.join (pieces.map Piece.written)

/-- The channels of a colour whose opacity is not known, and that opacity. -/
def unresolved? (name : String) (body : List Component) : Option (String × List Component) :=
  let (front, back) := body.span fun c =>
    match c with
    | .token (.delim '/') => false
    | _ => true
  match back with
  | [] => none
  | _ :: alpha =>
    match name, Component.solid front with
    | "rgb", [a, b, c] => do
      let read (c : Component) : Option String :=
        (Color.channel? none 255 c).map fun x => Color.component (Color.between 0 255 x.round)
      some ("rgb(" ++ " ".intercalate [← read a, ← read b, ← read c] ++ "/", alpha)
    | "hsl", [a, b, c] => do
      let read (c : Component) : Option String :=
        (Color.channel? none 100 c).map fun x =>
          if x.isNaN then "none" else Written.percentage (Color.between 0 100 x / 100)
      let h := Color.component (← Color.hue? none a)
      some ("hsl(" ++ " ".intercalate [h, ← read b, ← read c] ++ "/", alpha)
    | _, _ => none

mutual

/-- Reads one component more; nothing can be made of what is broken. -/
def read (fuel : Nat) (ps : List Piece) (c : Component) : Option (List Piece) :=
  match fuel with
  | 0 => none
  | fuel + 1 =>
    match c with
    | .token .blank | .token .comment => some (push .gap ps)
    | .token t => (token? t).map fun s => push (.text s) ps
    | .block b body => do
      let inner ← readAll fuel [] body
      some (push (.text (b.opening.toString ++ joined inner.reverse ++ b.closing.toString)) ps)
    | .call name body =>
      match Color.text? c with
      | some s => some (push (.text s) ps)
      | none => do
        let text ←
          match name.toLower, Component.solid body with
          | "url", [.token (.string s)] => some (Written.url s)
          | "url", _ => none
          | lower, _ =>
            match unresolved? lower body with
            | some (front, alpha) => do
              some (front ++ (← inside fuel alpha) ++ ")")
            | none =>
              if lower = "var" || lower = "env" then
                let (front, fallback) := body.span fun c =>
                  match c with
                  | .token .comma => false
                  | _ => true
                do
                  let front ← inside fuel front
                  let back ←
                    match fallback with
                    | [] => some ""
                    | _ :: back => (inside fuel back).map ("," ++ ·)
                  some (lower ++ "(" ++ front ++ back ++ ")")
              else do some (Written.ident name ++ "(" ++ (← inside fuel body) ++ ")")
        some (push (.text text) ps)

/-- What stands between brackets of a function. -/
def inside (fuel : Nat) (cs : List Component) : Option String :=
  match fuel with
  | 0 => none
  | fuel + 1 => (readAll fuel [] cs).map fun ps => joined (trimmed ps)

def readAll (fuel : Nat) (ps : List Piece) (cs : List Component) : Option (List Piece) :=
  match fuel with
  | 0 => none
  | fuel + 1 =>
    match cs with
    | [] => some ps
    | c :: cs => do readAll fuel (← read fuel ps c) cs

end

/-- The shortest form of a value as written. -/
def text? (cs : List Component) : Option String := inside (4 * Component.weights cs + 8) cs

end Verbatim

end ScopedViews.Css
