import ScopedViews.Text.Blank
/-!
# Scripts

The scripts in which programs are put together: what stands between quotes, what is filled in, and
in which order programs run.
-/

namespace ScopedViews.Style

/-- A part of a word. -/
inductive Part where
  | plain (text : String) (quoted : Bool)
  /-- A variable, with another word in its place under a condition. -/
  | variable (name condition instead : String) (quoted : Bool)
  /-- What a script prints. -/
  | printed (script : String) (quoted : Bool)
deriving Repr, Inhabited

abbrev PartedWord := List Part

/-- Where a stream leads: the descriptor, and the file or the descriptor that takes its place. -/
structure Redirect where
  stream : Nat
  mark : String
  target : PartedWord
deriving Repr, Inhabited

inductive Lexeme where
  | word (parts : PartedWord) (line : Nat)
  | redirect (stream : Nat) (mark : String)
  | mark (text : String)
deriving Repr, Inhabited

inductive Script where
  | nothing
  | simple (line : Nat) (words : List PartedWord) (redirects : List Redirect)
  | pipe (first second : Script)
  | both (first second : Script)
  | either (first second : Script)
  | next (first second : Script)
  | denied (script : Script)
  | group (script : Script) (apart : Bool) (redirects : List Redirect)
  | choice (test yes no : Script)
  | loop (test body : Script) (opposite : Bool)
  | each (name : String) (words : List PartedWord) (body : Script)
deriving Repr, Inhabited

namespace Script

/-! ## Words -/

def isNameStart (c : Char) : Bool := c.isAlpha || c = '_'

def isNamePart (c : Char) : Bool := c.isAlphanum || c = '_'

/-- What stands before the bracket that closes one that is open, and what follows it. -/
def closing (opened closed : Char) : Nat → List Char → Option (List Char × List Char)
  | _, [] => none
  | depth, c :: rest =>
    if c = closed then
      match depth with
      | 0 => some ([], rest)
      | depth + 1 => (closing opened closed depth rest).map fun (cs, more) => (c :: cs, more)
    else
      let depth := if c = opened then depth + 1 else depth
      (closing opened closed depth rest).map fun (cs, more) => (c :: cs, more)

/-- What a dollar sign stands for, and what follows it. -/
def dollar? (quoted : Bool) (cs : List Char) : Option (Part × List Char) :=
  match cs with
  | '(' :: rest => do
    let (inside, after) ← closing '(' ')' 0 rest
    some (.printed (String.ofList inside) quoted, after)
  | '\x7b' :: rest => do
    let (inside, after) ← closing '\x7b' '\x7d' 0 rest
    let (name, more) :=
      match inside with
      | c :: cs =>
        if isNameStart c then inside.span isNamePart
        else if c.isDigit then inside.span Char.isDigit
        else ([c], cs)
      | [] => ([], [])
    let (condition, instead) :=
      match more with
      | ':' :: c :: rest => ([':', c], rest)
      | c :: rest => ([c], rest)
      | [] => ([], [])
    some (.variable (String.ofList name) (String.ofList condition) (String.ofList instead) quoted,
      after)
  | c :: rest =>
    if isNameStart c then
      let (name, after) := cs.span isNamePart
      some (.variable (String.ofList name) "" "" quoted, after)
    else if c.isDigit || ['?', '$', '#', '@', '*', '!', '-'].contains c then
      some (.variable c.toString "" "" quoted, rest)
    else none
  | [] => none

/-- Adds a character to the last part. -/
def extend (quoted : Bool) (c : Char) (parts : List Part) : List Part :=
  match parts with
  | .plain t q :: more => if q = quoted then .plain (t.push c) q :: more
    else .plain c.toString quoted :: parts
  | parts => .plain c.toString quoted :: parts

def backtick : Char := Char.ofNat 96

/-- What stands between double quotes: its parts, the last first, and what follows. -/
def doubled : Nat → List Part → List Char → Option (List Part × List Char)
  | 0, _, _ => none
  | fuel + 1, parts, cs =>
    match cs with
    | [] => none
    | '\x5c' :: c :: rest =>
      if c.toNat = 34 || c = '\x5c' || c = '$' || c = backtick then
        doubled fuel (extend true c parts) rest
      else if c = '\n' then doubled fuel parts rest
      else doubled fuel (extend true c (extend true '\x5c' parts)) rest
    | '$' :: rest =>
      match dollar? true rest with
      | some (p, after) => doubled fuel (p :: parts) after
      | none => doubled fuel (extend true '$' parts) rest
    | c :: rest =>
      if c.toNat = 34 then some (parts, rest)
      else if c = backtick then
        let inside := rest.takeWhile (· != backtick)
        doubled fuel (.printed (String.ofList inside) true :: parts)
          (rest.drop (inside.length + 1))
      else doubled fuel (extend true c parts) rest

def isOperator (c : Char) : Bool := [';', '&', '|', '(', ')', '<', '>', '\n'].contains c

/-- One word from the front of a text: its parts, the last first, and what follows.  None if a quote
is never closed. -/
def word? : Nat → List Part → List Char → Option (List Part × List Char)
  | 0, _, _ => none
  | fuel + 1, parts, cs =>
    match cs with
    | [] => some (parts, [])
    | '\x5c' :: '\n' :: rest => word? fuel parts rest
    | '\x5c' :: c :: rest => word? fuel (extend true c parts) rest
    | '$' :: rest =>
      match dollar? false rest with
      | some (p, after) => word? fuel (p :: parts) after
      | none => word? fuel (extend false '$' parts) rest
    | c :: rest =>
      if c = ' ' || c = '\t' || isOperator c then some (parts, cs)
      else if c.toNat = 39 then
        let inside := rest.takeWhile (·.toNat != 39)
        if inside.length = rest.length then none
        else
          word? fuel (.plain (String.ofList inside) true :: parts)
            (rest.drop (inside.length + 1))
      else if c.toNat = 34 then do
        let (ps, after) ← doubled fuel (.plain "" true :: parts) rest
        word? fuel ps after
      else if c = backtick then
        let inside := rest.takeWhile (· != backtick)
        word? fuel (.printed (String.ofList inside) false :: parts)
          (rest.drop (inside.length + 1))
      else word? fuel (extend false c parts) rest

/-! ## Lexemes -/

/-- The lexemes of a script.  None if a quote is never closed. -/
def lexemes : Nat → Nat → List Char → Option (List Lexeme)
  | 0, _, _ => none
  | fuel + 1, line, cs =>
    let mark (text : String) (rest : List Char) : Option (List Lexeme) :=
      (lexemes fuel line rest).map (.mark text :: ·)
    let redirect (stream : Nat) (text : String) (rest : List Char) : Option (List Lexeme) :=
      (lexemes fuel line rest).map (.redirect stream text :: ·)
    match cs with
    | [] => some []
    | ' ' :: rest | '\t' :: rest => lexemes fuel line rest
    | '\n' :: rest => (lexemes fuel (line + 1) rest).map (.mark "\n" :: ·)
    | '#' :: rest => lexemes fuel line (rest.dropWhile (· != '\n'))
    | '&' :: '&' :: rest => mark "&&" rest
    | '|' :: '|' :: rest => mark "||" rest
    | '&' :: rest => mark "&" rest
    | '|' :: rest => mark "|" rest
    | ';' :: rest => mark ";" rest
    | '(' :: rest => mark "(" rest
    | ')' :: rest => mark ")" rest
    | '>' :: '&' :: rest => redirect 1 ">&" rest
    | '>' :: '>' :: rest => redirect 1 ">>" rest
    | '>' :: rest => redirect 1 ">" rest
    | '<' :: rest => redirect 0 "<" rest
    | '1' :: '>' :: '&' :: rest => redirect 1 ">&" rest
    | '2' :: '>' :: '&' :: rest => redirect 2 ">&" rest
    | '1' :: '>' :: '>' :: rest => redirect 1 ">>" rest
    | '2' :: '>' :: '>' :: rest => redirect 2 ">>" rest
    | '1' :: '>' :: rest => redirect 1 ">" rest
    | '2' :: '>' :: rest => redirect 2 ">" rest
    | '0' :: '<' :: rest => redirect 0 "<" rest
    | cs => do
      let (parts, rest) ← word? (cs.length + 1) [] cs
      let more ← lexemes fuel line rest
      some (.word parts.reverse line :: more)

/-! ## Commands -/

/-- A word that may be a keyword. -/
def keyword? : Lexeme → Option String
  | .word [.plain t false] _ => some t
  | .word _ _ => none
  | .redirect _ _ => none
  | .mark m => some m

def isKeyword (text : String) (l : Lexeme) : Bool :=
  match l with
  | .word [.plain t false] _ => t = text
  | _ => false

def isMark (text : String) : Lexeme → Bool
  | .mark m => m = text
  | _ => false

def isBreak (l : Lexeme) : Bool := isMark ";" l || isMark "\n" l || isMark "&" l

def closers : List String := ["then", "else", "elif", "fi", "do", "done", "\x7d", "esac"]

/-- A command and what follows it. -/
abbrev Taken := Script × List Lexeme

/-- What breaks a script off: a text that does not belong there, or none if the script ends. -/
abbrev Break := Option String

def unexpected {α : Type} (ls : List Lexeme) : Except Break α :=
  match ls with
  | [] => .error none
  | .word _ _ :: _ => .error (some "word")
  | .redirect _ m :: _ => .error (some m)
  | .mark "\n" :: _ => .error (some "newline")
  | .mark m :: _ => .error (some m)

/-- Takes a keyword off the front. -/
def expect (text : String) : List Lexeme → Except Break (List Lexeme)
  | l :: rest => if isKeyword text l || isMark text l then .ok rest else unexpected (l :: rest)
  | [] => .error none

/-- Redirections at the front. -/
def redirects : List Lexeme → List Redirect × List Lexeme
  | .redirect n m :: .word ps _ :: rest =>
    let (rs, more) := redirects rest
    (⟨n, m, ps⟩ :: rs, more)
  | ls => ([], ls)

/-- The words and redirections of a simple command. -/
def takeSimple (line : Nat) (words : List PartedWord) (rs : List Redirect) :
    List Lexeme → Taken
  | .word ps _ :: rest => takeSimple line (words ++ [ps]) rs rest
  | .redirect n m :: .word ps _ :: rest => takeSimple line words (rs ++ [⟨n, m, ps⟩]) rest
  | ls => (.simple line words rs, ls)

/-- The text of a word that is plain. -/
def nameOf : PartedWord → String
  | [.plain t _] => t
  | _ => ""

mutual

/-- Commands up to something that closes them. -/
def commands : Nat → List Lexeme → Except Break Taken
  | 0, ls => unexpected ls
  | fuel + 1, ls =>
    match ls.dropWhile (isMark "\n") with
    | [] => .ok (.nothing, [])
    | l :: rest =>
      if isMark ")" l || (keyword? l).any closers.contains then .ok (.nothing, l :: rest)
      else do
        let (first, after) ← conditions fuel (l :: rest)
        match after with
        | b :: more =>
          if isBreak b then
            let (others, after) ← commands fuel more
            match others with
            | .nothing => .ok (first, after)
            | others => .ok (.next first others, after)
          else .ok (first, after)
        | [] => .ok (first, [])

/-- Pipelines of which each runs if the one before ends well, or ends badly. -/
def conditions : Nat → List Lexeme → Except Break Taken
  | 0, ls => unexpected ls
  | fuel + 1, ls => do
    let (first, after) ← pipeline fuel ls
    joined fuel first after

def joined : Nat → Script → List Lexeme → Except Break Taken
  | 0, _, ls => unexpected ls
  | fuel + 1, first, ls =>
    match ls with
    | .mark "&&" :: rest => do
      let (second, after) ← pipeline fuel (rest.dropWhile (isMark "\n"))
      joined fuel (.both first second) after
    | .mark "||" :: rest => do
      let (second, after) ← pipeline fuel (rest.dropWhile (isMark "\n"))
      joined fuel (.either first second) after
    | ls => .ok (first, ls)

def pipeline : Nat → List Lexeme → Except Break Taken
  | 0, ls => unexpected ls
  | fuel + 1, ls =>
    match ls with
    | l :: rest =>
      if isKeyword "!" l then do
        let (s, after) ← pipeline fuel rest
        .ok (.denied s, after)
      else do
        let (first, after) ← command fuel (l :: rest)
        match after with
        | .mark "|" :: more => do
          let (second, after) ← pipeline fuel (more.dropWhile (isMark "\n"))
          .ok (.pipe first second, after)
        | after => .ok (first, after)
    | [] => .error none

/-- The rest of a choice after its test. -/
def branches : Nat → List Lexeme → Except Break Taken
  | 0, ls => unexpected ls
  | fuel + 1, ls => do
    let (test, ls) ← commands fuel ls
    let ls ← expect "then" ls
    let (yes, ls) ← commands fuel ls
    match ls with
    | l :: rest =>
      if isKeyword "elif" l then do
        let (no, after) ← branches fuel rest
        .ok (.choice test yes no, after)
      else if isKeyword "else" l then do
        let (no, ls) ← commands fuel rest
        .ok (.choice test yes no, ← expect "fi" ls)
      else .ok (.choice test yes .nothing, ← expect "fi" (l :: rest))
    | [] => .error none

def command : Nat → List Lexeme → Except Break Taken
  | 0, ls => unexpected ls
  | fuel + 1, ls =>
    let within (parsed : Except Break Taken) (closer : String) (apart : Bool) :
        Except Break Taken := do
      let (s, ls) ← parsed
      let ls ← expect closer ls
      let (rs, ls) := redirects ls
      .ok (.group s apart rs, ls)
    match ls with
    | .mark "(" :: rest => within (commands fuel rest) ")" true
    | .word [.plain "\x7b" false] _ :: rest => within (commands fuel rest) "\x7d" false
    | .word [.plain "if" false] _ :: rest => do
      let (s, ls) ← branches fuel rest
      let (rs, ls) := redirects ls
      .ok (.group s false rs, ls)
    | .word [.plain "while" false] _ :: rest => do
      let (test, ls) ← commands fuel rest
      let ls ← expect "do" ls
      within ((commands fuel ls).map fun (b, ls) => (.loop test b false, ls)) "done" false
    | .word [.plain "until" false] _ :: rest => do
      let (test, ls) ← commands fuel rest
      let ls ← expect "do" ls
      within ((commands fuel ls).map fun (b, ls) => (.loop test b true, ls)) "done" false
    | .word [.plain "for" false] _ :: .word [.plain name _] _ :: .word [.plain "in" false] _ ::
        rest => do
      let words := rest.takeWhile fun l =>
        match l with
        | .word _ _ => true
        | _ => false
      let ls ← expect "do" ((rest.drop words.length).dropWhile isBreak)
      let parts := words.filterMap fun l =>
        match l with
        | .word ps _ => some ps
        | _ => none
      within ((commands fuel ls).map fun (b, ls) => (.each name parts b, ls)) "done" false
    | .word ps line :: rest =>
      if (keyword? (.word ps line)).any closers.contains then unexpected (.mark (nameOf ps) :: rest)
      else .ok (takeSimple line [] [] (.word ps line :: rest))
    | .redirect n m :: rest =>
      match takeSimple 1 [] [] (.redirect n m :: rest) with
      | (.simple _ [] [], _) => unexpected rest
      | found => .ok found
    | ls => unexpected ls

end

/-- What is wrong with a script. -/
inductive Fault where
  | quote
  | ends
  | unexpected (text : String)
deriving Repr, DecidableEq

def Fault.message : Fault → String
  | .quote => "Syntax error: Unterminated quoted string"
  | .ends => "Syntax error: end of file unexpected"
  | .unexpected t =>
    let shown := if t = "word" || t = "newline" then t else "\"" ++ t ++ "\""
    "Syntax error: " ++ shown ++ " unexpected"

/-- A script from its text. -/
def read (text : String) : Except Fault Script :=
  let cs := text.toList
  match lexemes (cs.length + 1) 1 cs with
  | none => .error .quote
  | some ls =>
    match commands (4 * ls.length + 8) ls with
    | .ok (s, []) => .ok s
    | .ok (_, l :: _) =>
      match unexpected (α := Unit) [l] with
      | .error (some t) => .error (.unexpected ((keyword? l).filter (· != "\n") |>.getD t))
      | _ => .error .ends
    | .error (some t) => .error (.unexpected t)
    | .error none => .error .ends

end Script

end ScopedViews.Style
