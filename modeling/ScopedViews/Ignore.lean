import ScopedViews.FileTree
import ScopedViews.Text.Blank
import ScopedViews.Text.Find
/-!
# Ignore files

A directory may hold a file of patterns, one on a line, for names below it that are passed over.
A later pattern has precedence over an earlier one, `!` takes back what earlier ones say, and a
pattern with a slash is matched from the directory of the file on.
-/

namespace ScopedViews.Ignore

/-- A piece of a pattern, which is matched byte by byte. -/
inductive Piece where
  | byte (b : UInt8)
  /-- One byte that is no slash. -/
  | one
  /-- Bytes that are no slashes. -/
  | many
  /-- Nothing, or anything that ends in a slash. -/
  | above
  /-- A slash, or two with anything between them. -/
  | between
  /-- A slash and anything. -/
  | within
  /-- One byte in or, if it is negated, outside of ranges. -/
  | range (negated : Bool) (bounds : List (UInt8 × UInt8))
  /-- One of several patterns. -/
  | choice (patterns : List (List Piece))
deriving Inhabited

/-- Whether something holds behind some bytes, each of which is fit for it. -/
def behind (fit : UInt8 → Bool) (p : Bytes → Bool) : Bytes → Bool
  | [] => p []
  | b :: rest => p (b :: rest) || (fit b && behind fit p rest)

def isSlash (b : UInt8) : Bool := b = 47

def behindSlash (p : Bytes → Bool) : Bytes → Bool
  | [] => false
  | b :: rest => isSlash b && p rest

def anyByte (_ : UInt8) : Bool := true

mutual

/-- Whether a piece stands at the front and `p` holds of what follows. -/
def matchesPiece (piece : Piece) (p : Bytes → Bool) (bs : Bytes) : Bool :=
  match piece with
  | .byte c =>
    match bs with
    | b :: rest => b = c && p rest
    | [] => false
  | .one =>
    match bs with
    | b :: rest => !isSlash b && p rest
    | [] => false
  | .range negated bounds =>
    match bs with
    | b :: rest => (bounds.any fun (low, high) => low ≤ b && b ≤ high) != negated && p rest
    | [] => false
  | .many => behind (fun b => !isSlash b) p bs
  | .above => p bs || behind anyByte (behindSlash p) bs
  | .between => behindSlash p bs || behindSlash (behind anyByte (behindSlash p)) bs
  | .within => behindSlash (behind anyByte p) bs
  | .choice patterns => matchesAny patterns p bs

def matchesAll (pieces : List Piece) (p : Bytes → Bool) (bs : Bytes) : Bool :=
  match pieces with
  | [] => p bs
  | piece :: more => matchesPiece piece (matchesAll more p) bs

def matchesAny (patterns : List (List Piece)) (p : Bytes → Bool) (bs : Bytes) : Bool :=
  match patterns with
  | [] => false
  | pattern :: more => matchesAll pattern p bs || matchesAny more p bs

end

/-- Whether a text has the shape of a pattern. -/
def matchesPieces (pieces : List Piece) (bs : Bytes) : Bool :=
  match pieces with
  | [.above] => true
  | pieces => matchesAll pieces List.isEmpty bs

def bytesOf (c : Char) : Bytes := String.utf8EncodeChar c

/-- The ranges of a bracket and what follows it.  A bracket that closes may stand first, and so may
a dash; a dash may stand last. -/
def bounds? : List Char → (first inRange : Bool) → List (Char × Char) →
    Option (List (Char × Char) × List Char)
  | [], _, _, _ => none
  | c :: rest, first, inRange, bs =>
    let close (c : Char) : Option (List (Char × Char) × List Char) :=
      match bs with
      | (low, _) :: more => if low ≤ c then bounds? rest false false ((low, c) :: more) else none
      | [] => none
    if c = ']' && !first then
      some ((if inRange then ('-', '-') :: bs else bs).reverse, rest)
    else if c = '-' && !first then
      if inRange then close '-' else bounds? rest false true bs
    else if inRange then close c
    else bounds? rest false false ((c, c) :: bs)

/-- A range of characters as ranges of bytes: the bytes of its ends one after another, of which
those in the middle bound a range. -/
def byteBounds (bound : Char × Char) : List (UInt8 × UInt8) :=
  let single (b : UInt8) : UInt8 × UInt8 := (b, b)
  if bound.1 = bound.2 then (bytesOf bound.1).map single
  else
    let low := bytesOf bound.1
    let high := bytesOf bound.2
    low.dropLast.map single ++ [(low.getLastD 0, high.headD 0)] ++ (high.drop 1).map single

/-- A choice while it is read: the patterns before the one at work, and what stands before the
choice, the last first. -/
structure Open where
  patterns : List (List Piece)
  before : List Piece

/-- Reads a pattern; none if it makes no sense.  `read` holds the pieces of the pattern at work, the
last first, and `prev` the character before. -/
def pieces? : Nat → (opened : List Open) → (read : List Piece) → (prev : Option Char) →
    List Char → Option (List Piece)
  | 0, _, _, _, _ => none
  | _ + 1, opened, read, _, [] => if opened.isEmpty then some read.reverse else none
  | fuel + 1, opened, read, prev, c :: rest =>
    match c with
    | '?' => pieces? fuel opened (.one :: read) (some c) rest
    | '*' =>
      match rest with
      | '*' :: after =>
        let twice (after : List Char) : Option (List Piece) :=
          pieces? fuel opened (.many :: .many :: read) (some '*') after
        let closes (c : Char) : Bool := !opened.isEmpty && (c = ',' || c = '\x7d')
        match read with
        | [] =>
          match after with
          | [] => pieces? fuel opened [.above] (some '*') []
          | d :: more =>
            if d = '/' then pieces? fuel opened [.above] (some '/') more else twice after
        | last :: before =>
          if prev != some '/' then twice after
          else
            let put (isLast : Bool) : List Piece :=
              match last with
              | .above => .above :: before
              | .within => .within :: before
              | _ => (if isLast then Piece.within else .between) :: before
            match after with
            | [] => pieces? fuel opened (put true) (some '*') []
            | d :: more =>
              if closes d then pieces? fuel opened (put true) (some '*') after
              else if d = '/' then pieces? fuel opened (put false) (some '/') more
              else twice after
      | rest => pieces? fuel opened (.many :: read) (some c) rest
    | '[' =>
      let (negated, rest) :=
        match rest with
        | '!' :: more | '^' :: more => (true, more)
        | _ => (false, rest)
      match bounds? rest true false [] with
      | some (bs, rest) =>
        pieces? fuel opened (.range negated (bs.flatMap byteBounds) :: read) (some ']') rest
      | none => none
    | '\x7b' => pieces? fuel (⟨[], read⟩ :: opened) [] (some c) rest
    | '\x7d' =>
      match opened with
      | o :: opened =>
        let patterns := (o.patterns ++ [read.reverse]).filter fun p => !p.isEmpty
        let before := if patterns.isEmpty then o.before else .choice patterns :: o.before
        pieces? fuel opened before (some c) rest
      | [] => none
    | ',' =>
      match opened with
      | o :: opened =>
        pieces? fuel (⟨o.patterns ++ [read.reverse], o.before⟩ :: opened) [] (some c) rest
      | [] => pieces? fuel [] (.byte 44 :: read) (some c) rest
    | '\x5c' =>
      match rest with
      | d :: rest =>
        pieces? fuel opened ((bytesOf d).reverse.map Piece.byte ++ read) (some d) rest
      | [] => none
    | c => pieces? fuel opened ((bytesOf c).reverse.map Piece.byte ++ read) (some c) rest

/-- A line of an ignore file. -/
structure Rule where
  pieces : List Piece
  onlyDirectories : Bool
  takesBack : Bool

/-- A line without blanks at its end, unless the last one is escaped. -/
def trimLine (cs : List Char) : List Char :=
  if ['\x5c', ' '].isSuffixOf cs then cs else Text.trimRight cs

/-- The rule of a line, if it has one. -/
def rule? (line : List Char) : Option Rule :=
  let line := trimLine line
  match line with
  | [] | '#' :: _ => none
  | _ =>
    let (takesBack, anchored, line) :=
      match line with
      | '!' :: '/' :: rest => (true, true, rest)
      | '!' :: rest => (true, false, rest)
      | '\x5c' :: '!' :: rest => (false, false, '!' :: rest)
      | '\x5c' :: '#' :: rest => (false, false, '#' :: rest)
      | '/' :: rest => (false, true, rest)
      | _ => (false, false, line)
    let (onlyDirectories, line) :=
      if ['/'].isSuffixOf line then
        let line := line.dropLast
        (true, if ['\x5c'].isSuffixOf line then line.dropLast else line)
      else (false, line)
    let glob :=
      if anchored || line.contains '/' || line = ['*', '*'] then line
      else '*' :: '*' :: '/' :: line
    let glob := if ['/', '*', '*'].isSuffixOf glob then glob ++ ['/', '*'] else glob
    (pieces? (glob.length + 1) [] [] none glob).map fun pieces =>
      { pieces, onlyDirectories, takesBack }

/-- Whether a rule speaks of a name; the name is written from the directory of the rule on. -/
def Rule.covers (r : Rule) (name : Bytes) (isDirectory : Bool) : Bool :=
  (isDirectory || !r.onlyDirectories) && matchesPieces r.pieces name

/-- What rules say of a name: passed over, taken back, or nothing. -/
def verdict (rules : List Rule) (name : Bytes) (isDirectory : Bool) : Option Bool :=
  (rules.reverse.find? (·.covers name isDirectory)).map (!·.takesBack)

/-- The lines of a file up to the first one that is no text.  A mark of byte order at the start does
not count. -/
def linesOf (bytes : ByteArray) : List (List Char) :=
  let rec split : Bytes → Bytes → List Bytes
    | [], [] => []
    | [], line => [line.reverse]
    | 10 :: rest, line => line.reverse :: split rest []
    | b :: rest, line => split rest (b :: line)
  let texts := (split bytes.toList []).map fun l => String.fromUTF8? ⟨l.toArray⟩
  let lines := (texts.takeWhile Option.isSome).filterMap fun t => t.map String.toList
  match lines with
  | first :: more => first.dropWhile (·.toNat = 0xFEFF) :: more
  | [] => []

/-- The rules in a file, none if it is not there. -/
def rulesIn (t : FileTree) (place : Place) : List Rule :=
  match t.contents? place with
  | some bytes => (linesOf bytes).filterMap rule?
  | none => []

/-- The directories from the parent of a place up to the root, with the names from there on. -/
def levels (place : Place) : List (Place × Bytes) :=
  ((List.range place.length).map fun i =>
    (place.take i, Path.joinParts Path.slash (place.drop i))).reverse

/-- Whether a directory belongs to a repository, as its marker tells. -/
def isRepository (t : FileTree) (place : Place) : Bool :=
  let inside := place ++ ([".git"] : Place)
  t.isFile inside || t.isDirectory inside

/-- The levels up to the first repository, if there is one. -/
def repositoryLevels (t : FileTree) (ls : List (Place × Bytes)) : List (Place × Bytes) :=
  if ls.any fun (place, _) => isRepository t place then
    ls.takeWhile (fun (place, _) => !isRepository t place) ++
      (ls.dropWhile fun (place, _) => !isRepository t place).take 1
  else []

/-- What the files of a name at the given levels say; a nearer one has precedence. -/
def verdictOf (t : FileTree) (file : Place) (ls : List (Place × Bytes)) (isDirectory : Bool) :
    Option Bool :=
  ls.findSome? fun (place, name) => verdict (rulesIn t (place ++ file)) name isDirectory

/-! ## A user's own file -/

/-- The file that a line of a user's settings names. -/
def excludesLine? (line : List Char) : Option String :=
  let key := "excludesfile".toList
  let isBlank (c : Char) : Bool := Text.isBlank c
  let line := line.dropWhile isBlank
  if ((line.take key.length).map Char.toLower) = key then
    match (line.drop key.length).dropWhile isBlank with
    | '=' :: value =>
      let isQuote (c : Char) : Bool := c.toNat = 34
      let unquoted (cs : List Char) : List Char :=
        match cs with
        | c :: rest => if isQuote c && !rest.isEmpty then rest else cs
        | [] => []
      let value := (unquoted (value.dropWhile isBlank)).dropWhile isBlank
      let value := (unquoted (value.reverse.dropWhile isBlank)).dropWhile isBlank |>.reverse
      if value.isEmpty || value.any isBlank then none else some (String.ofList value)
    | _ => none
  else none

/-- The file that a user's settings name; a tilde stands for the user's own directory. -/
def excludesFile? (t : FileTree) (settings : Place) : Option Path := do
  let lines := linesOf (← t.contents? settings)
  let name ← lines.findSome? excludesLine?
  some ⟨name.replace "~" ("/" ++ Text.decodeLossy (Path.joinParts Path.slash t.home))⟩

/-- The rules that a user has for all repositories. -/
def ownRules (t : FileTree) : List Rule :=
  let named := (excludesFile? t (t.home ++ ([".gitconfig"] : Place))).or
    (excludesFile? t (t.home ++ ([".config", "git", "config"] : Place)))
  match named with
  | some p =>
    match t.resolve p with
    | .ok place => rulesIn t place
    | .error _ => []
  | none => rulesIn t (t.home ++ ([".config", "git", "ignore"] : Place))

/-- Whether a file or directory is passed over. -/
def isIgnored (t : FileTree) (place : Place) (isDirectory : Bool) : Bool :=
  let ls := levels place
  let repository := repositoryLevels t ls
  let say (file : Place) (ls : List (Place × Bytes)) := verdictOf t file ls isDirectory
  let names := if t.working.isPrefixOf place then place.drop t.working.length else place
  let own :=
    if repository.isEmpty then none
    else verdict (ownRules t) (Path.joinParts Path.slash names) isDirectory
  ((((say [".ignore"] ls).or (say [".gitignore"] repository)).or
    (say [".git", "info", "exclude"] repository)).or own).getD false

/-- The files below a directory that are not passed over, nor lie in a directory that is, by their
names from there on. -/
def filesBelow (t : FileTree) (place : Place) : List Place :=
  (t.files.map Prod.fst).filterMap fun file =>
    if place.isPrefixOf file then
      let names := file.drop place.length
      let passed := (List.range names.length).any fun i =>
        isIgnored t (place ++ names.take (i + 1)) (i + 1 < names.length)
      if passed then none else some names
    else none

end ScopedViews.Ignore
