import ScopedViews.Number.Read
import ScopedViews.Script.Tree
import ScopedViews.Text.Classes
/-!
# Script tokens

Reading one token at a cursor.  A slash is read as an operator and a closing brace as a bracket;
the grammar asks for a regular expression or for the rest of a template where one is due.
-/

namespace ScopedViews.Script

/-- The text from a position on, and the position in bytes. -/
structure Cursor where
  rest : List Char
  offset : Nat
deriving Inhabited

inductive Token where
  | eof
  | word (text : String) (escaped : Bool)
  | privateName (text : String)
  | punct (text : String)
  | number (value : Float) (raw : String)
  | bigint (raw : String)
  | string (value : String)
  /-- Fixed text of a template; `last` when a backquote ends it, else a substitution follows. -/
  | template (raw : String) (cooked : Option String) (last : Bool)
  | regex (pattern flags : String)
deriving Inhabited

/-- What a comment says of the code behind it: that a call, or every call of a function, has no
effect but its value. -/
inductive CommentNote where
  | pureCall | pureFunction
deriving Repr, DecidableEq

/-- A comment, the line breaks around it, and the token it stands in front of. -/
structure Comment where
  span : Span
  block : Bool
  text : String
  lineBefore : Bool
  lineAfter : Bool
  /-- Start of the token that follows, or none for a comment that trails on a token's line. -/
  leads : Option Nat
deriving Repr, Inhabited

namespace Comment

/-- What a comment says of the code behind it, by the word that it begins with. -/
def note (c : Comment) : Option CommentNote :=
  let begins (word : String) : List Char → Bool
    | mark :: rest => (mark = '@' || mark = '#') && word.toList.isPrefixOf rest
    | [] => false
  let cs := c.text.toList.dropWhile Char.isWhitespace
  if begins "__PURE__" cs then some .pureCall
  else if begins "__NO_SIDE_EFFECTS__" cs then some .pureFunction
  else none

end Comment

namespace Cursor

/-- Past a character that is known to be next. -/
def skip (c : Cursor) (ch : Char) (rest : List Char) : Cursor :=
  ⟨rest, c.offset + ch.utf8Size⟩

/-- Past `n` ASCII characters. -/
def dropAscii (c : Cursor) (n : Nat) : Cursor :=
  ⟨c.rest.drop n, c.offset + n⟩

/-- The longest run of characters that satisfy `p`, and the cursor after it. -/
def span (p : Char → Bool) (c : Cursor) : List Char × Cursor :=
  go c.rest c.offset []
where
  go : List Char → Nat → List Char → List Char × Cursor
    | [], offset, acc => (acc.reverse, ⟨[], offset⟩)
    | ch :: rest, offset, acc =>
      if p ch then go rest (offset + ch.utf8Size) (ch :: acc)
      else (acc.reverse, ⟨ch :: rest, offset⟩)

end Cursor

def isLineBreak (c : Char) : Bool :=
  c = '\n' || c = '\r' || c.toNat = 0x2028 || c.toNat = 0x2029

/-- Blanks inside a line. -/
def isLineBlank (c : Char) : Bool :=
  let n := c.toNat
  n = 9 || n = 11 || n = 12 || n = 32 || n = 0x85 || n = 0xA0 || n = 0xFEFF || n = 0x1680 ||
    (0x2000 ≤ n && n ≤ 0x200B) || n = 0x202F || n = 0x205F || n = 0x3000

def isNameStart (c : Char) : Bool :=
  Text.startsIdentifier c || c = '$' || c = '_'

def isNamePart (c : Char) : Bool :=
  Text.continuesIdentifier c || c = '$' || Text.isJoiner c

/-- The end of a block comment: the text inside, whether it holds a line break, what follows. -/
def scanBlockComment : List Char → Nat → List Char → Bool → Option (List Char × Bool × Cursor)
  | [], _, _, _ => none
  | '*' :: '/' :: rest, offset, acc, lines => some (acc.reverse, lines, ⟨rest, offset + 2⟩)
  | c :: rest, offset, acc, lines =>
    scanBlockComment rest (offset + c.utf8Size) (c :: acc) (lines || isLineBreak c)

/-- Blanks, line breaks and comments in front of a token. -/
structure Trivia where
  cursor : Cursor
  lines : Bool
  comments : List Comment

/-- Skips blanks and comments; none if a block comment does not end. -/
def scanTrivia : Nat → Cursor → Bool → List Comment → Option Trivia
  | 0, _, _, _ => none
  | fuel + 1, c, lines, comments =>
    match c.rest with
    | '/' :: '/' :: rest =>
      let (text, after) := Cursor.span (fun ch => !isLineBreak ch) ⟨rest, c.offset + 2⟩
      let comment : Comment :=
        ⟨⟨c.offset, after.offset⟩, false, String.ofList text, lines, false, none⟩
      scanTrivia fuel after lines (comment :: comments)
    | '/' :: '*' :: rest =>
      match scanBlockComment rest (c.offset + 2) [] false with
      | none => none
      | some (text, inner, after) =>
        let comment : Comment :=
          ⟨⟨c.offset, after.offset⟩, true, String.ofList text, lines, false, none⟩
        scanTrivia fuel after (lines || inner) (comment :: comments)
    | ch :: rest =>
      if isLineBreak ch then
        let comments :=
          match comments with
          | last :: others => { last with lineAfter := true } :: others
          | [] => []
        scanTrivia fuel (c.skip ch rest) true comments
      else if isLineBlank ch then scanTrivia fuel (c.skip ch rest) lines comments
      else some ⟨c, lines, comments.reverse⟩
    | [] => some ⟨c, lines, comments.reverse⟩

/-- The value of hexadecimal digits, if there is at least one and all are digits. -/
def hexValue? (cs : List Char) : Option Nat :=
  if cs.isEmpty then none
  else cs.foldlM (fun n c => (Number.hexDigit? c).map (16 * n + ·)) 0

/-- After `\u`: the code point of four digits, or of digits in braces. -/
def scanUnicodeEscape (c : Cursor) : Option (Nat × Cursor) :=
  match c.rest with
  | '{' :: rest =>
    let (digits, after) := Cursor.span (· != '}') ⟨rest, c.offset + 1⟩
    match hexValue? digits, after.rest with
    | some n, '}' :: rest => if n < 0x110000 then some (n, ⟨rest, after.offset + 1⟩) else none
    | _, _ => none
  | a :: b :: d :: e :: rest => (hexValue? [a, b, d, e]).map fun n => (n, ⟨rest, c.offset + 4⟩)
  | _ => none

/-- After `\u` in a string: two escapes that form a surrogate pair are one character. -/
def scanStringUnicode (c : Cursor) : Option (Char × Cursor) :=
  match scanUnicodeEscape c with
  | none => none
  | some (n, after) =>
    if 0xD800 ≤ n && n < 0xDC00 then
      match after.rest with
      | '\\' :: 'u' :: rest =>
        match scanUnicodeEscape ⟨rest, after.offset + 2⟩ with
        | some (m, last) =>
          if 0xDC00 ≤ m && m < 0xE000 then
            some (Char.ofNat (0x10000 + (n - 0xD800) * 0x400 + (m - 0xDC00)), last)
          else some (Char.ofNat 0xFFFD, after)
        | none => none
      | _ => some (Char.ofNat 0xFFFD, after)
    else if 0xDC00 ≤ n && n < 0xE000 then some (Char.ofNat 0xFFFD, after)
    else some (Char.ofNat n, after)

def isOctal (c : Char) : Bool := '0' ≤ c && c ≤ '7'

/-- Up to three octal digits with a value below 256. -/
def scanOctal (c : Cursor) : Nat × Cursor :=
  let digit (ch : Char) : Nat := ch.toNat - 48
  match c.rest with
  | a :: b :: d :: rest =>
    if isOctal b then
      if isOctal d && a ≤ '3' then (64 * digit a + 8 * digit b + digit d, ⟨rest, c.offset + 3⟩)
      else (8 * digit a + digit b, ⟨d :: rest, c.offset + 2⟩)
    else (digit a, ⟨b :: d :: rest, c.offset + 1⟩)
  | [a, b] =>
    if isOctal b then (8 * digit a + digit b, ⟨[], c.offset + 2⟩)
    else (digit a, ⟨[b], c.offset + 1⟩)
  | [a] => (digit a, ⟨[], c.offset + 1⟩)
  | [] => (0, c)

/-- After a backslash: the characters that the escape stands for.  Octal escapes are refused in
templates. -/
def scanEscape (octal : Bool) (c : Cursor) : Option (List Char × Cursor) :=
  match c.rest with
  | [] => none
  | 'n' :: rest => some (['\n'], c.skip 'n' rest)
  | 't' :: rest => some (['\t'], c.skip 't' rest)
  | 'r' :: rest => some (['\r'], c.skip 'r' rest)
  | 'b' :: rest => some ([Char.ofNat 8], c.skip 'b' rest)
  | 'v' :: rest => some ([Char.ofNat 11], c.skip 'v' rest)
  | 'f' :: rest => some ([Char.ofNat 12], c.skip 'f' rest)
  | '\r' :: '\n' :: rest => some ([], ⟨rest, c.offset + 2⟩)
  | 'x' :: a :: b :: rest => (hexValue? [a, b]).map fun n => ([Char.ofNat n], ⟨rest, c.offset + 3⟩)
  | 'x' :: _ => none
  | 'u' :: rest =>
    (scanStringUnicode ⟨rest, c.offset + 1⟩).map fun (ch, after) => ([ch], after)
  | ch :: rest =>
    if isLineBreak ch then some ([], c.skip ch rest)
    else if isOctal ch then
      if octal then
        let (n, after) := scanOctal c
        some ([Char.ofNat n], after)
      else if ch = '0' && !(rest.head?.any Char.isDigit) then
        some ([Char.ofNat 0], c.skip ch rest)
      else none
    else if ch.isDigit && !octal then none
    else some ([ch], c.skip ch rest)

/-- A string literal after its opening quote. -/
def scanString (quote : Char) : Nat → Cursor → List Char → Option (String × Cursor)
  | 0, _, _ => none
  | fuel + 1, c, acc =>
    match c.rest with
    | [] => none
    | '\\' :: rest =>
      match scanEscape true ⟨rest, c.offset + 1⟩ with
      | none => none
      | some (cs, after) => scanString quote fuel after (cs.reverse ++ acc)
    | ch :: rest =>
      if ch = quote then some (String.ofList acc.reverse, c.skip ch rest)
      else if ch = '\n' || ch = '\r' then none
      else scanString quote fuel (c.skip ch rest) (ch :: acc)

/-- The characters between two cursors of one text. -/
def Cursor.until (c later : Cursor) : List Char :=
  go c.rest c.offset []
where
  go : List Char → Nat → List Char → List Char
    | [], _, acc => acc.reverse
    | ch :: rest, offset, acc =>
      if offset < later.offset then go rest (offset + ch.utf8Size) (ch :: acc) else acc.reverse

/-- Line breaks as templates see them: every return, alone or before a line feed, is a feed. -/
def unifyLines : List Char → List Char
  | [] => []
  | '\r' :: '\n' :: rest => '\n' :: unifyLines rest
  | '\r' :: rest => '\n' :: unifyLines rest
  | c :: rest => c :: unifyLines rest

/-- Fixed text of a template, from after the backquote or the brace in front of it. -/
def scanTemplate :
    Nat → Cursor → List Char → Option (List Char) →
      Option (List Char × Option (List Char) × Bool × Cursor)
  | 0, _, _, _ => none
  | fuel + 1, c, raw, cooked =>
    match c.rest with
    | [] => none
    | '$' :: '{' :: rest => some (raw, cooked, false, ⟨rest, c.offset + 2⟩)
    | '\\' :: rest =>
      match scanEscape false ⟨rest, c.offset + 1⟩ with
      | some (cs, after) =>
        scanTemplate fuel after ((Cursor.until c after).reverse ++ raw)
          (cooked.map (cs.reverse ++ ·))
      | none =>
        match rest with
        | [] => none
        | ch :: rest =>
          scanTemplate fuel ⟨rest, c.offset + 1 + ch.utf8Size⟩ (ch :: '\\' :: raw) none
    | ch :: rest =>
      if ch.toNat = 96 then some (raw, cooked, true, c.skip ch rest)
      else scanTemplate fuel (c.skip ch rest) (ch :: raw) (cooked.map (ch :: ·))

/-- A template token from after the backquote or the closing brace. -/
def lexTemplate (fuel : Nat) (c : Cursor) : Option (Token × Cursor) :=
  (scanTemplate fuel c [] (some [])).map fun (raw, cooked, last, after) =>
    (.template (String.ofList (unifyLines raw.reverse))
      (cooked.map fun cs => String.ofList (unifyLines cs.reverse)) last, after)

/-- The body of a regular expression up to the slash that ends it. -/
def scanRegexBody : List Char → Nat → Bool → List Char → Option (List Char × Cursor)
  | [], _, _, _ => none
  | c :: rest, offset, inClass, acc =>
    if isLineBreak c then none
    else if c = '\\' then
      match rest with
      | [] => none
      | d :: rest =>
        if isLineBreak d then none
        else scanRegexBody rest (offset + 1 + d.utf8Size) inClass (d :: c :: acc)
    else if c = '/' && !inClass then some (acc.reverse, ⟨rest, offset + 1⟩)
    else
      scanRegexBody rest (offset + c.utf8Size)
        (if c = '[' then true else if c = ']' then false else inClass) (c :: acc)

/-- A regular expression from after its first slash. -/
def lexRegex (c : Cursor) : Option (Token × Cursor) :=
  match scanRegexBody c.rest c.offset false [] with
  | none => none
  | some (body, after) =>
    let (flags, after) := Cursor.span isNamePart after
    if flags.all (fun f => "dgimsuvy".toList.contains f) &&
        flags.eraseDups.length = flags.length && !(flags.contains 'u' && flags.contains 'v') then
      some (.regex (String.ofList body) (String.ofList flags), after)
    else none

/-- The characters of an identifier, and whether some were written as escapes. -/
def scanName : Nat → Cursor → List Char → Bool → Option (List Char × Bool × Cursor)
  | 0, _, _, _ => none
  | fuel + 1, c, acc, escaped =>
    match c.rest with
    | '\\' :: 'u' :: rest =>
      match scanUnicodeEscape ⟨rest, c.offset + 2⟩ with
      | some (n, after) =>
        let ch := Char.ofNat n
        if (if acc.isEmpty then isNameStart ch else isNamePart ch) then
          scanName fuel after (ch :: acc) true
        else none
      | none => none
    | '\\' :: _ => none
    | ch :: rest =>
      if (if acc.isEmpty then isNameStart ch else isNamePart ch) then
        scanName fuel (c.skip ch rest) (ch :: acc) escaped
      else if acc.isEmpty then none else some (acc.reverse, escaped, c)
    | [] => if acc.isEmpty then none else some (acc.reverse, escaped, c)

/-- Digits of a radix with single separators between them: the digits and what follows. -/
def scanDigits (p : Char → Bool) (c : Cursor) : Option (List Char × Cursor) :=
  let (run, after) := Cursor.span (fun ch => p ch || ch = '_') c
  let rec separated : List Char → Bool
    | [] => true
    | '_' :: '_' :: _ => false
    | ['_'] => false
    | _ :: rest => separated rest
  if run.head? = some '_' || !separated run then none
  else some (run.filter (· != '_'), after)

/-- A number literal must not touch a name or a digit. -/
def endsNumber (c : Cursor) : Bool :=
  match c.rest with
  | [] => true
  | ch :: _ => !(isNameStart ch || ch.isDigit || ch = '\\')

/-- A literal after `0x`, `0o` or `0b`. -/
def lexRadix (radix : Nat) (p : Char → Bool) (start : Cursor) : Option (Token × Cursor) :=
  match scanDigits p (start.dropAscii 2) with
  | none => none
  | some (digits, after) =>
    if digits.isEmpty then none
    else
      let value := Number.ofRadix radix (digits.map fun d => (Number.hexDigit? d).getD 0)
      match after.rest with
      | 'n' :: rest =>
        let done : Cursor := ⟨rest, after.offset + 1⟩
        if endsNumber done then some (.bigint (String.ofList (start.until done)), done) else none
      | _ =>
        if endsNumber after then some (.number value (String.ofList (start.until after)), after)
        else none

/-- The exponent part of a decimal literal, if there is one. -/
def scanExponent (c : Cursor) : Option (List Char × Cursor) :=
  match c.rest with
  | e :: rest =>
    if e = 'e' || e = 'E' then
      let (sign, after) : List Char × Cursor :=
        match rest with
        | '+' :: r => (['+'], ⟨r, c.offset + 2⟩)
        | '-' :: r => (['-'], ⟨r, c.offset + 2⟩)
        | r => ([], ⟨r, c.offset + 1⟩)
      match scanDigits Char.isDigit after with
      | some (digits, after) => if digits.isEmpty then none else some ('e' :: sign ++ digits, after)
      | none => none
    else some ([], c)
  | [] => some ([], c)

/-- A decimal literal whose whole part has been read. -/
def lexDecimalTail (start after : Cursor) (whole : List Char) (big : Bool) :
    Option (Token × Cursor) := do
  match after.rest with
  | 'n' :: rest =>
    let done : Cursor := ⟨rest, after.offset + 1⟩
    if big && endsNumber done then return (.bigint (String.ofList (start.until done)), done)
    else none
  | _ =>
    let (fraction, after) ←
      match after.rest with
      | '.' :: rest =>
        match rest with
        | '_' :: _ => none
        | _ => (scanDigits Char.isDigit ⟨rest, after.offset + 1⟩).map fun (ds, a) => ('.' :: ds, a)
      | _ => some ([], after)
    let (power, after) ← scanExponent after
    if !endsNumber after then none
    else
      let value ← Number.decimal? (whole ++ fraction ++ power)
      return (.number value (String.ofList (start.until after)), after)

/-- A number literal; the cursor is at a digit, or at a point before a digit. -/
def lexNumber (c : Cursor) : Option (Token × Cursor) :=
  match c.rest with
  | '0' :: x :: _ =>
    if x = 'x' || x = 'X' then lexRadix 16 (fun d => (Number.hexDigit? d).isSome) c
    else if x = 'o' || x = 'O' then lexRadix 8 isOctal c
    else if x = 'b' || x = 'B' then lexRadix 2 (fun d => d = '0' || d = '1') c
    else if x.isDigit then
      let (digits, after) := Cursor.span Char.isDigit c
      if digits.all isOctal then
        if endsNumber after then
          let value := Number.ofRadix 8 (digits.map fun d => d.toNat - 48)
          some (.number value (String.ofList digits), after)
        else none
      else lexDecimalTail c after digits false
    else if x = '_' then none
    else lexDecimalTail c (c.dropAscii 1) ['0'] true
  | '.' :: _ => lexDecimalTail c c ['0'] false
  | _ =>
    match scanDigits Char.isDigit c with
    | none => none
    | some (digits, after) => lexDecimalTail c after digits true

/-- Operators and brackets, longer ones first. -/
def puncts : List String :=
  [">>>=", "...", "===", "!==", "**=", "<<=", ">>=", ">>>", "&&=", "||=", "??=",
   "=>", "==", "!=", "<=", ">=", "&&", "||", "??", "?.", "++", "--", "+=", "-=", "*=", "/=", "%=",
   "&=", "|=", "^=", "<<", ">>", "**",
   "\x7b", "\x7d", "(", ")", "[", "]", ";", ",", "<", ">", "+", "-", "*", "/", "%", "&", "|", "^",
   "!", "~", "?", ":", "=", ".", "@"]

/-- The characters of each operator, computed once. -/
def punctTable : List (List Char × String) := puncts.map fun p => (p.toList, p)

/-- The longest operator at the cursor; `?.` is none in front of a digit. -/
def lexPunct (c : Cursor) : Option (Token × Cursor) :=
  (punctTable.find? fun (cs, p) =>
    cs.isPrefixOf c.rest && !(p = "?." && (c.rest.drop 2).head?.any Char.isDigit)).map
    fun (cs, p) => (.punct p, c.dropAscii cs.length)

/-- The token at a cursor that is past blanks and comments. -/
def lexToken (fuel : Nat) (c : Cursor) : Option (Token × Cursor) :=
  match c.rest with
  | [] => some (.eof, c)
  | ch :: rest =>
    if ch.toNat = 34 || ch.toNat = 39 then
      (scanString ch fuel (c.skip ch rest) []).map fun (s, after) => (.string s, after)
    else if ch.toNat = 96 then lexTemplate fuel (c.skip ch rest)
    else if ch.isDigit || (ch = '.' && rest.head?.any Char.isDigit) then lexNumber c
    else if ch = '#' then
      (scanName fuel (c.skip ch rest) [] false).map fun (cs, _, after) =>
        (.privateName (String.ofList cs), after)
    else if isNameStart ch || ch = '\\' then
      (scanName fuel c [] false).map fun (cs, escaped, after) =>
        (.word (String.ofList cs) escaped, after)
    else lexPunct c

end ScopedViews.Script
