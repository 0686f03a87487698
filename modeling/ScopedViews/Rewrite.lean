import ScopedViews.Text.Pattern
/-!
# Cleaning up a view

What is removed from a compiled view: continuation marks with the character after them, pragmas
for a formatter, and comments of the markup.  Conditional comments and comments of the template
language stay.
-/

namespace ScopedViews

namespace Rewrite

/-- A continuation mark takes away one `$` or line break character behind it. -/
def afterContinuation? : List Char → Option (List Char)
  | '/' :: '/' :: '@' :: c :: rest =>
    if c = '$' || c = '\n' || c = '\r' then some rest else none
  | _ => none

/-- What follows a text, with one line feed at its front removed. -/
def dropLineFeed : List Char → List Char
  | '\n' :: rest => rest
  | cs => cs

/-- The end of a comment of the template language. -/
def afterCommentEnd? (cs : List Char) : Option (List Char) := Text.after? "--\x7d\x7d".toList cs

/-- What follows the last comment end in `run` that has something in front of it, where `rest`
comes behind the run. -/
def afterLastEnd? (rest : List Char) : List Char → Option (List Char)
  | [] => none
  | _ :: run =>
    (afterLastEnd? rest run).or
      ((afterCommentEnd? run).map (· ++ rest))

/-- A formatter pragma is a comment that holds only `@formatter:` and a word.  The word is as long
as it can be. -/
def afterPragma? (cs : List Char) : Option (List Char) := do
  let cs ← Text.after? "\x7b\x7b--".toList cs
  let cs ← Text.afterWord? "@formatter:".toList (Text.skipBlanks cs)
  let (word, rest) := cs.span (!Text.isBlank ·)
  if word.isEmpty then none
  else (((afterCommentEnd? (Text.skipBlanks rest)).or (afterLastEnd? rest word)).map dropLineFeed)

/-- A comment of the markup ends at the first `-->` behind the character after `<!--`; one that
starts with `[` is conditional. -/
def afterComment? (cs : List Char) : Option (List Char) := do
  match ← Text.after? "<!--".toList cs with
  | [] => none
  | c :: cs =>
    if c = '[' then none
    else
      let (_, _, rest) ← Text.seek? (fun _ cs => Text.after? "-->".toList cs) [] cs
      return dropLineFeed rest

/-- The characters of a view without continuation marks, then without pragmas, then without
comments. -/
def clean (cs : List Char) : List Char :=
  Text.erase afterComment? (Text.erase afterPragma? (Text.erase afterContinuation? cs))

end Rewrite

/-- A view without what only its author reads. -/
def rewrite (body : String) : String := String.ofList (Rewrite.clean body.toList)

end ScopedViews
