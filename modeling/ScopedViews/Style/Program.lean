import ScopedViews.Number.Read
import ScopedViews.Text.Blank
import ScopedViews.Text.Utf8
/-!
# Programs

Programs that copy, translate and count bytes, each as a function of its arguments and of what it is
given to read.
-/

namespace ScopedViews.Style

/-- What a program leaves behind, and what of its input it has not read. -/
structure Outcome where
  status : Nat
  output : List UInt8
  errors : List UInt8
  remaining : List UInt8
deriving Repr, DecidableEq, Inhabited

namespace Program

def bytesOf (text : String) : List UInt8 := text.toUTF8.toList

/-- All of the input has been read. -/
def done (output : List UInt8) : Outcome := ⟨0, output, [], []⟩

/-- Something is wrong with the arguments. -/
def failed (text : String) : Outcome := ⟨1, [], bytesOf text, []⟩

def quoted (s : String) : String := "'" ++ s ++ "'"

def helpLine (program : String) : String :=
  "Try " ++ quoted (program ++ " --help") ++ " for more information.\n"

/-- The lines of some bytes, each with the line break that ends it. -/
def lines : List UInt8 → List (List UInt8)
  | [] => []
  | b :: rest =>
    if b = 10 then [b] :: lines rest
    else
      match lines rest with
      | [] => [[b]]
      | l :: ls => (b :: l) :: ls

/-- A line without the break that ends it. -/
def bare (line : List UInt8) : List UInt8 := line.filter (· != 10)

/-- Arguments that begin with a single dash are letters of options; those after `--` are not. -/
def options : List String → List Char × List String
  | [] => ([], [])
  | "--" :: rest => ([], rest)
  | a :: rest =>
    match a.toList with
    | '-' :: c :: cs =>
      let (os, ws) := options rest
      ((c :: cs) ++ os, ws)
    | _ =>
      let (os, ws) := options rest
      (os, a :: ws)

/-! ## Escapes -/

def octal? (c : Char) : Option Nat :=
  if '0' ≤ c && c ≤ '7' then some (c.toNat - 48) else none

/-- The byte that a letter after a backslash stands for. -/
def escaped? (c : Char) : Option UInt8 :=
  match c with
  | 'a' => some 7
  | 'b' => some 8
  | 'f' => some 12
  | 'n' => some 10
  | 'r' => some 13
  | 't' => some 9
  | 'v' => some 11
  | '\x5c' => some 92
  | _ => none

/-- Up to so many octal digits as a byte, and what follows them. -/
def octalByte (most : Nat) (cs : List Char) : Option (UInt8 × List Char) :=
  let digits := (cs.take most).takeWhile fun c => (octal? c).isSome
  if digits.isEmpty then none
  else
    some (UInt8.ofNat (digits.foldl (fun n c => 8 * n + (octal? c).getD 0) 0),
      cs.drop digits.length)

/-- Text with its backslash escapes resolved; one that means nothing stays as it is.  Where `zero`
holds, octal digits follow a zero. -/
def unescape (zero : Bool) : Nat → List Char → List UInt8
  | 0, _ => []
  | _ + 1, [] => []
  | fuel + 1, '\x5c' :: c :: rest =>
    match if zero && c = '0' then octalByte 4 (c :: rest) else octalByte 3 (c :: rest) with
    | some (b, rest) => b :: unescape zero fuel rest
    | none =>
      match escaped? c with
      | some b => b :: unescape zero fuel rest
      | none => 92 :: bytesOf c.toString ++ unescape zero fuel rest
  | fuel + 1, c :: rest => bytesOf c.toString ++ unescape zero fuel rest

/-! ## Copying -/

/-- How some bytes are shown. -/
structure Show where
  ends : Bool
  tabs : Bool
  signs : Bool
  numbers : Bool
  numbersFilled : Bool
  squeezes : Bool

namespace Show

def ofOptions? (os : List Char) : Except Char Show :=
  os.foldlM
    (fun (s : Show) c =>
      match c with
      | 'A' => .ok { s with ends := true, tabs := true, signs := true }
      | 'b' => .ok { s with numbersFilled := true }
      | 'e' => .ok { s with ends := true, signs := true }
      | 'E' => .ok { s with ends := true }
      | 'n' => .ok { s with numbers := true }
      | 's' => .ok { s with squeezes := true }
      | 't' => .ok { s with tabs := true, signs := true }
      | 'T' => .ok { s with tabs := true }
      | 'u' => .ok s
      | 'v' => .ok { s with signs := true }
      | c => .error c)
    ⟨false, false, false, false, false, false⟩

/-- A byte so that it can be seen. -/
def byte (s : Show) (b : UInt8) : List UInt8 :=
  let low (b : UInt8) : List UInt8 :=
    if b < 32 then [94, b + 64] else if b = 127 then [94, 63] else [b]
  if b = 10 then (if s.ends then [36, 10] else [10])
  else if b = 9 then (if s.tabs then [94, 73] else [9])
  else if !s.signs then [b]
  else if b < 128 then low b
  else [77, 45] ++ low (b - 128)

/-- A number in front of a line. -/
def number (n : Nat) : List UInt8 :=
  let digits := toString n
  List.replicate (6 - digits.length) 32 ++ bytesOf digits ++ [9]

/-- Lines without those that are empty and follow one that is. -/
def squeezed : Bool → List (List UInt8) → List (List UInt8)
  | _, [] => []
  | wasEmpty, l :: ls =>
    let isEmpty := l == [10]
    if wasEmpty && isEmpty then squeezed true ls else l :: squeezed isEmpty ls

def bytes (s : Show) (input : List UInt8) : List UInt8 :=
  let ls := if s.squeezes then squeezed false (lines input) else lines input
  let rec go (n : Nat) : List (List UInt8) → List UInt8
    | [] => []
    | l :: ls =>
      let counts := if s.numbersFilled then l != [10] else s.numbers
      (if counts then number n else []) ++ l.flatMap s.byte ++ go (if counts then n + 1 else n) ls
  go 1 ls

end Show

/-- Copies its input, or what is empty, one after another. -/
def cat (arguments : List String) (input : List UInt8) : Outcome :=
  let (os, files) := options arguments
  match Show.ofOptions? os with
  | .error c =>
    failed ("cat: invalid option -- " ++ quoted c.toString ++ "\n" ++ helpLine "cat")
  | .ok s =>
    let step (acc : List UInt8 × Outcome) (file : String) : List UInt8 × Outcome :=
      let (read, r) := acc
      match file with
      | "-" | "/dev/stdin" => (read ++ r.remaining, { r with remaining := [] })
      | "/dev/null" => acc
      | f =>
        (read, { r with
          status := 1
          errors := r.errors ++ bytesOf ("cat: " ++ f ++ ": No such file or directory\n") })
    let (read, r) := (if files.isEmpty then ["-"] else files).foldl step ([], ⟨0, [], [], input⟩)
    { r with output := s.bytes read }

/-! ## Translating -/

/-- All bytes of a class by its name. -/
def class? (name : String) : Option (List UInt8) :=
  let all (p : Nat → Bool) : Option (List UInt8) :=
    some (((List.range 256).filter p).map UInt8.ofNat)
  let upper (n : Nat) : Bool := 65 ≤ n && n ≤ 90
  let lower (n : Nat) : Bool := 97 ≤ n && n ≤ 122
  let digit (n : Nat) : Bool := 48 ≤ n && n ≤ 57
  let graph (n : Nat) : Bool := 33 ≤ n && n ≤ 126
  let alnum (n : Nat) : Bool := upper n || lower n || digit n
  match name with
  | "alnum" => all alnum
  | "alpha" => all fun n => upper n || lower n
  | "blank" => all fun n => n = 9 || n = 32
  | "cntrl" => all fun n => n < 32 || n = 127
  | "digit" => all digit
  | "graph" => all graph
  | "lower" => all lower
  | "print" => all fun n => graph n || n = 32
  | "punct" => all fun n => graph n && !alnum n
  | "space" => all fun n => (9 ≤ n && n ≤ 13) || n = 32
  | "upper" => all upper
  | "xdigit" => all fun n => digit n || (65 ≤ n && n ≤ 70) || (97 ≤ n && n ≤ 102)
  | _ => none

/-- A byte of a set, and whether it was written with a backslash. -/
abbrev Mark := UInt8 × Bool

/-- The bytes of a set as it is written. -/
def marks : Nat → List UInt8 → List Mark
  | 0, _ => []
  | _ + 1, [] => []
  | fuel + 1, 92 :: b :: rest =>
    let text := (b :: rest).map fun b => Char.ofNat b.toNat
    match octalByte 3 text with
    | some (v, more) => (v, true) :: marks fuel (rest.drop (text.length - 1 - more.length))
    | none => ((escaped? (Char.ofNat b.toNat)).getD b, true) :: marks fuel rest
  | fuel + 1, b :: rest => (b, false) :: marks fuel rest

/-- The bytes that a set stands for, or a range that runs backwards.  A star repeats a byte, as
often as is needed if no number follows it. -/
def expand (need : Nat) : Nat → List Mark → Except (UInt8 × UInt8) (List UInt8)
  | 0, _ => .ok []
  | _ + 1, [] => .ok []
  | fuel + 1, (91, false) :: (58, false) :: rest =>
    let name := (rest.takeWhile (· != (58, false))).map (·.1)
    match class? (String.ofList (name.map fun b => Char.ofNat b.toNat)),
        rest.drop name.length with
    | some bs, (58, false) :: (93, false) :: more => (expand need fuel more).map (bs ++ ·)
    | _, _ => (expand need fuel ((58, false) :: rest)).map (91 :: ·)
  | fuel + 1, (91, false) :: (b, e) :: (42, false) :: rest =>
    let digits := (rest.takeWhile fun m => 48 ≤ m.1 && m.1 ≤ 57).map (·.1)
    match rest.drop digits.length with
    | (93, false) :: more => do
      let after ← expand need fuel more
      let count :=
        if digits.all (· = 48) then need - after.length
        else
          let base := if digits.headD 0 = 48 then 8 else 10
          digits.foldl (fun n d => base * n + (d.toNat - 48)) 0
      .ok (List.replicate count b ++ after)
    | _ => (expand need fuel ((b, e) :: (42, false) :: rest)).map (91 :: ·)
  | fuel + 1, (low, _) :: (45, false) :: (high, _) :: rest =>
    if low ≤ high then
      (expand need fuel rest).map fun bs =>
        (List.range (high.toNat - low.toNat + 1)).map (fun i => low + UInt8.ofNat i) ++ bs
    else .error (low, high)
  | fuel + 1, (b, _) :: rest => (expand need fuel rest).map (b :: ·)

/-- What a byte is translated to.  The last byte of the second set stands for all further ones, and
of places in the first set the last counts. -/
def translate (source target : List UInt8) (b : UInt8) : UInt8 :=
  match source.reverse.findIdx? (· == b) with
  | some i => (target[source.length - 1 - i]?.or target.getLast?).getD b
  | none => b

/-- Bytes of a set stand but once in a row. -/
def squeeze (set : List UInt8) : List UInt8 → List UInt8
  | a :: b :: rest =>
    if a = b && set.contains a then squeeze set (b :: rest) else a :: squeeze set (b :: rest)
  | bs => bs

/-- Translates, deletes or squeezes bytes. -/
def tr (arguments : List String) (input : List UInt8) : Outcome :=
  let flags := arguments.takeWhile fun a => a.startsWith "-" && a != "-" && a != "--"
  let letters := flags.flatMap fun a => (a.toList.drop 1)
  let words := (arguments.drop flags.length).filter (· != "--")
  let has (c : Char) : Bool := letters.contains c
  let complement := has 'c' || has 'C'
  let set (need : Nat) (s : String) : Except (UInt8 × UInt8) (List UInt8) :=
    let bs := bytesOf s
    expand need (2 * bs.length + 1) (marks (bs.length + 1) bs)
  let others (bs : List UInt8) : List UInt8 :=
    ((List.range 256).map UInt8.ofNat).filter fun b => !bs.contains b
  let backwards (low high : UInt8) : Outcome :=
    failed ("tr: range-endpoints of " ++ quoted ((Char.ofNat low.toNat).toString ++ "-" ++
      (Char.ofNat high.toNat).toString) ++ " are in reverse collating sequence order\n")
  match letters.find? fun c => !(['c', 'C', 'd', 's', 't'].contains c) with
  | some c => failed ("tr: invalid option -- " ++ quoted c.toString ++ "\n" ++ helpLine "tr")
  | none =>
    match words with
    | [] => failed ("tr: missing operand\n" ++ helpLine "tr")
    | first :: rest =>
      match set 0 first with
      | .error (low, high) => backwards low high
      | .ok plain =>
        let source := if complement then others plain else plain
        match rest with
        | [] =>
          if has 'd' && has 's' then
            failed ("tr: missing operand after " ++ quoted first ++
              "\nTwo strings must be given when both deleting and squeezing repeats.\n" ++
              helpLine "tr")
          else if has 'd' then done (input.filter fun b => !source.contains b)
          else if has 's' then done (squeeze source input)
          else
            failed ("tr: missing operand after " ++ quoted first ++
              "\nTwo strings must be given when translating.\n" ++ helpLine "tr")
        | second :: more =>
          if !more.isEmpty || (has 'd' && !has 's') then
            let extra := if has 'd' && !has 's' then second else more.headD ""
            failed ("tr: extra operand " ++ quoted extra ++ "\n" ++
              (if has 'd' && !has 's' then
                "Only one string may be given when deleting without squeezing repeats.\n"
              else "") ++ helpLine "tr")
          else
            match set source.length second with
            | .error (low, high) => backwards low high
            | .ok target =>
              if has 'd' then
                done (squeeze target (input.filter fun b => !source.contains b))
              else if target.isEmpty && !has 't' then
                failed "tr: when not truncating set1, string2 must be non-empty\n"
              else
                let source := if has 't' then source.take target.length else source
                let output := input.map (translate source target)
                done (if has 's' then squeeze target output else output)

/-! ## Printing -/

/-- Prints its arguments.  A script's own `echo` resolves escapes and knows no option but one. -/
def echo (inScript : Bool) (arguments : List String) (input : List UInt8) : Outcome :=
  let isFlag (a : String) : Bool :=
    match a.toList with
    | '-' :: c :: cs => (c :: cs).all fun c =>
        if inScript then c = 'n' && cs.isEmpty else ['n', 'e', 'E'].contains c
    | _ => false
  let flags := if inScript then (arguments.take 1).takeWhile isFlag else arguments.takeWhile isFlag
  let letters := flags.flatMap fun a => a.toList.drop 1
  let text := (" ".intercalate (arguments.drop flags.length)).toList
  let resolves := inScript ||
    (letters.filter fun c => c = 'e' || c = 'E').getLast? = some 'e'
  let whole := if resolves then unescape true (text.length + 1) text
    else bytesOf (String.ofList text)
  ⟨0, whole ++ (if letters.contains 'n' then [] else [10]), [], input⟩

/-- Text with blanks or zeros up to a width. -/
def padded (left : Bool) (zero : Bool) (width : Nat) (text : List UInt8) : List UInt8 :=
  let fill := width - text.length
  if left then text ++ List.replicate fill 32
  else if zero then
    match text with
    | 45 :: digits => 45 :: List.replicate fill 48 ++ digits
    | digits => List.replicate fill 48 ++ digits
  else List.replicate fill 32 ++ text

/-- One directive of a format: its flags, its width, its precision and its letter. -/
structure Directive where
  flags : List Char
  width : Nat
  precision : Option Nat
  letter : Char

namespace Directive

/-- What follows a percent sign. -/
def read? (cs : List Char) : Option (Directive × List Char) :=
  let number (cs : List Char) : Nat := cs.foldl (fun n c => 10 * n + (c.toNat - 48)) 0
  let (flags, cs) := cs.span fun c => ['-', '+', ' ', '0', '#'].contains c
  let (width, cs) := cs.span Char.isDigit
  let (precision, cs) : Option Nat × List Char :=
    match cs with
    | '.' :: cs => (some (number (cs.takeWhile Char.isDigit)), cs.dropWhile Char.isDigit)
    | cs => (none, cs)
  match cs with
  | letter :: rest => some (⟨flags, number width, precision, letter⟩, rest)
  | [] => none

/-- An argument as the directive prints it. -/
def text (d : Directive) (argument : String) : List UInt8 :=
  let left := d.flags.contains '-'
  let zero := d.flags.contains '0'
  let number : Int :=
    match argument.toList with
    | c :: _ => if c.toNat = 34 || c.toNat = 39 then
        ((argument.toList.drop 1).head?.elim 0 fun c => (c.toNat : Int))
      else argument.trimAscii.toString.toInt?.getD 0
    | [] => 0
  let based (base : Nat) : List UInt8 :=
    let n := if number < 0 then (18446744073709551616 + number).toNat else number.toNat
    bytesOf (String.ofList (Nat.toDigits base n))
  match d.letter with
  | 's' =>
    let bs := bytesOf argument
    padded left false d.width (d.precision.elim bs bs.take)
  | 'b' => padded left false d.width (unescape true (argument.length + 1) argument.toList)
  | 'c' => padded left false d.width (bytesOf argument |>.take 1)
  | 'd' | 'i' =>
    let sign := if 0 ≤ number && d.flags.contains '+' then "+"
      else if 0 ≤ number && d.flags.contains ' ' then " " else ""
    padded left zero d.width (bytesOf (sign ++ toString number))
  | 'u' => padded left zero d.width (based 10)
  | 'o' => padded left zero d.width (based 8)
  | 'x' => padded left zero d.width (based 16)
  | 'X' => padded left zero d.width ((based 16).map fun b => if 97 ≤ b then b - 32 else b)
  | _ => []

end Directive

/-- Goes through a format once: what it prints, and the arguments that are left. -/
def formatOnce : Nat → List Char → List String → List UInt8 × List String
  | 0, _, arguments => ([], arguments)
  | _ + 1, [], arguments => ([], arguments)
  | fuel + 1, '%' :: '%' :: rest, arguments =>
    let (bs, left) := formatOnce fuel rest arguments
    (37 :: bs, left)
  | fuel + 1, '%' :: rest, arguments =>
    match Directive.read? rest with
    | some (d, rest) =>
      let (bs, left) := formatOnce fuel rest (arguments.drop 1)
      (d.text (arguments.headD "") ++ bs, left)
    | none => ([37], arguments)
  | fuel + 1, '\x5c' :: c :: rest, arguments =>
    match octalByte 3 (c :: rest) with
    | some (b, rest) =>
      let (bs, left) := formatOnce fuel rest arguments
      (b :: bs, left)
    | none =>
      let (bs, left) := formatOnce fuel rest arguments
      (match escaped? c with
        | some b => (b :: bs, left)
        | none => (92 :: bytesOf c.toString ++ bs, left))
  | fuel + 1, c :: rest, arguments =>
    let (bs, left) := formatOnce fuel rest arguments
    (bytesOf c.toString ++ bs, left)

/-- Goes through a format as long as there are arguments for it. -/
def formatAll (format : List Char) : Nat → List String → List UInt8
  | 0, _ => []
  | fuel + 1, arguments =>
    let (bs, left) := formatOnce (format.length + 1) format arguments
    if left.isEmpty || left.length = arguments.length then bs
    else bs ++ formatAll format fuel left

def printf (arguments : List String) (input : List UInt8) : Outcome :=
  match if arguments.head? = some "--" then arguments.drop 1 else arguments with
  | [] => { failed ("printf: missing operand\n" ++ helpLine "printf") with remaining := input }
  | format :: arguments =>
    ⟨0, formatAll format.toList (arguments.length + 1) arguments, [], input⟩

/-! ## Lines -/

/-- The number that an option of `head` or `tail` gives: of lines, or of bytes. -/
def countOption : List String → Option (Bool × String × List String)
  | "-n" :: n :: rest => some (false, n, rest)
  | "-c" :: n :: rest => some (true, n, rest)
  | a :: rest =>
    match a.toList with
    | '-' :: 'n' :: n => some (false, String.ofList n, rest)
    | '-' :: 'c' :: n => some (true, String.ofList n, rest)
    | '-' :: c :: n => if c.isDigit then some (false, String.ofList (c :: n), rest) else none
    | _ => none
  | [] => none

def head (arguments : List String) (input : List UInt8) : Outcome :=
  let (bytes, n, _) := (countOption arguments).getD (false, "10", [])
  let pieces := if bytes then input.map fun b => [b] else lines input
  let kept :=
    match n.toList with
    | '-' :: n => pieces.length - (String.ofList n).toNat?.getD 0
    | _ => n.toNat?.getD 10
  done (pieces.take kept).flatten

def tail (arguments : List String) (input : List UInt8) : Outcome :=
  let (bytes, n, _) := (countOption arguments).getD (false, "10", [])
  let pieces := if bytes then input.map fun b => [b] else lines input
  let dropped :=
    match n.toList with
    | '+' :: n => (String.ofList n).toNat?.getD 1 - 1
    | '-' :: n => pieces.length - (String.ofList n).toNat?.getD 10
    | _ => pieces.length - n.toNat?.getD 10
  done (pieces.drop dropped).flatten

/-- Counts lines, words and bytes. -/
def wc (arguments : List String) (input : List UInt8) : Outcome :=
  let (os, _) := options arguments
  let isBlank (b : UInt8) : Bool := b = 32 || (9 ≤ b && b ≤ 13)
  let words := (input.foldl
    (fun (acc : Nat × Bool) b => (if !isBlank b && acc.2 then acc.1 + 1 else acc.1, isBlank b))
    (0, true)).1
  let counts := [('l', input.count 10), ('w', words), ('c', input.length), ('m', input.length)]
  let wanted := if os.isEmpty then ['l', 'w', 'c'] else os
  match (counts.filter fun (c, _) => wanted.contains c).map (·.2) with
  | [n] => done (bytesOf (toString n ++ "\n"))
  | ns =>
    done ((ns.map fun n => padded false false 7 (bytesOf (toString n))).intersperse [32] |>.flatten
      |> (· ++ [10]))

/-- The number at the front of a line. -/
def leading (line : List UInt8) : Int :=
  let digits (cs : List Char) : Nat :=
    (cs.takeWhile Char.isDigit).foldl (fun n c => 10 * n + (c.toNat - 48)) 0
  match (line.map fun b => Char.ofNat b.toNat).dropWhile (· = ' ') with
  | '-' :: cs => -(digits cs : Int)
  | cs => digits cs

/-- Whether a line comes no later than another. -/
def notAfter (numeric : Bool) (a b : List UInt8) : Bool :=
  if numeric && leading a != leading b then leading a < leading b else compare a b != .gt

def sort (arguments : List String) (input : List UInt8) : Outcome :=
  let (os, _) := options arguments
  let ls := ((lines input).map bare).mergeSort (notAfter (os.contains 'n'))
  let ls := if os.contains 'r' then ls.reverse else ls
  done ((if os.contains 'u' then ls.eraseDups else ls).flatMap (· ++ [10]))

/-- Equal neighbours as one, with how many there were. -/
def runs : List (List UInt8) → List (Nat × List UInt8)
  | [] => []
  | l :: ls =>
    match runs ls with
    | (n, m) :: more => if l = m then (n + 1, m) :: more else (1, l) :: (n, m) :: more
    | [] => [(1, l)]

def uniq (arguments : List String) (input : List UInt8) : Outcome :=
  let (os, _) := options arguments
  let found := runs ((lines input).map bare)
  let found := if os.contains 'd' then found.filter (1 < ·.1)
    else if os.contains 'u' then found.filter (·.1 = 1) else found
  done (found.flatMap fun (n, l) =>
    (if os.contains 'c' then padded false false 7 (bytesOf (toString n)) ++ [32] else []) ++ l ++
      [10])

/-- Each line backwards. -/
def rev (input : List UInt8) : Outcome :=
  done ((lines input).flatMap fun l =>
    (bare l).reverse ++ (if l.getLast? = some 10 then [10] else []))

/-- The lines from the last to the first. -/
def tac (input : List UInt8) : Outcome := done (lines input).reverse.flatten

end Program

end ScopedViews.Style
