import ScopedViews.Text.Blank
import ScopedViews.Text.Classes
/-!
# Searching texts from left to right

Small matchers on lists of characters.  A matcher is told the characters in front of it, the
nearest first, and answers if a match starts where it stands.
-/

namespace ScopedViews.Text

/-- Whether `c` is the lower-case letter `p` in either case.  The long s is a case of `s`. -/
def foldsTo (p c : Char) : Bool := c.toLower == p || (p == 's' && c.toNat = 0x17F)

/-- What follows `word`, written in lower case and read in any case. -/
def afterWord? : List Char → List Char → Option (List Char)
  | [], cs => some cs
  | _ :: _, [] => none
  | p :: word, c :: cs => if foldsTo p c then afterWord? word cs else none

/-- What follows `part`, read as it is written. -/
def after? : List Char → List Char → Option (List Char)
  | [], cs => some cs
  | _ :: _, [] => none
  | p :: part, c :: cs => if p = c then after? part cs else none

/-- Whether the nearest character is not part of a word. -/
def breaksWord (cs : List Char) : Bool :=
  match cs with
  | [] => true
  | c :: _ => !isWord c

def skipBlanks (cs : List Char) : List Char := cs.dropWhile isBlank

/-- The first position at which `found` answers, with the characters passed on the way there,
the nearest first, and those from there on. -/
def seek? {α : Type} (found : List Char → List Char → Option α) (passed : List Char) :
    List Char → Option (List Char × List Char × α)
  | [] => (found passed []).map (passed, [], ·)
  | c :: cs =>
    match found passed (c :: cs) with
    | some a => some (passed, c :: cs, a)
    | none => seek? found (c :: passed) cs

/-- A text without the matches in it.  `size?` tells how many characters follow the first one of a
match, and `skip` characters of a match are still to be passed over. -/
def eraseFrom (size? : List Char → Option Nat) : Nat → List Char → List Char
  | _, [] => []
  | skip + 1, _ :: cs => eraseFrom size? skip cs
  | 0, c :: cs =>
    match size? (c :: cs) with
    | some more => eraseFrom size? more cs
    | none => c :: eraseFrom size? 0 cs

/-- A text without the matches in it, taken from the left without overlap.  `rest?` gives what
follows a match that starts at the head. -/
def erase (rest? : List Char → Option (List Char)) (cs : List Char) : List Char :=
  eraseFrom (fun cs => (rest? cs).map fun rest => cs.length - rest.length - 1) 0 cs

/-- The number of bytes of a text. -/
def byteCount : List Char → Nat
  | [] => 0
  | c :: cs => c.utf8Size + byteCount cs

/-- The first characters of a text, as far as they fit into `bytes`, and the others. -/
def cutAt : Nat → List Char → List Char × List Char
  | _, [] => ([], [])
  | bytes, c :: cs =>
    if c.utf8Size ≤ bytes then
      let (front, back) := cutAt (bytes - c.utf8Size) cs
      (c :: front, back)
    else ([], c :: cs)

/-- A text with the bytes from `start` up to `stop` replaced. -/
def splice (s : String) (start stop : Nat) (replacement : String) : String :=
  String.ofList ((cutAt start s.toList).1 ++ replacement.toList ++ (cutAt stop s.toList).2)

end ScopedViews.Text
