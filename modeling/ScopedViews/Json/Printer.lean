import ScopedViews.Json.Basic
/-!
# Printing JSON

Main definition: `Json.pretty`, which gives every item of a container a line of its own and
indents by two blanks.
-/

namespace ScopedViews.Json

/-- A lower-case hexadecimal digit. -/
def hexDigit (n : Nat) : Char := Nat.digitChar (n % 16)

/-- One character of a quoted text. -/
def quotedChar (c : Char) : List Char :=
  if c.toNat = 34 then ['\\', c]
  else if c = '\\' then ['\\', '\\']
  else if c = '\n' then ['\\', 'n']
  else if c = '\r' then ['\\', 'r']
  else if c = '\t' then ['\\', 't']
  else if c.toNat = 8 then ['\\', 'b']
  else if c.toNat = 12 then ['\\', 'f']
  else if c.toNat < 0x20 then ['\\', 'u', '0', '0', hexDigit (c.toNat / 16), hexDigit c.toNat]
  else [c]

def quote (s : String) : String :=
  "\"" ++ String.ofList (s.toList.flatMap quotedChar) ++ "\""

/-- A line break and `depth` steps of indentation. -/
def newLine (depth : Nat) : String := String.ofList ('\n' :: List.replicate (2 * depth) ' ')

/-- Lines between two brackets; none if there is nothing to enclose. -/
def enclose (opening closing : String) (depth : Nat) (lines : List String) : String :=
  if lines.isEmpty then opening ++ closing
  else
    opening ++ newLine (depth + 1) ++ (("," ++ newLine (depth + 1)).intercalate lines) ++
      newLine depth ++ closing

mutual

/-- A value at some depth of indentation. -/
def prettyAt (depth : Nat) : Json → String
  | .null => "null"
  | .bool b => if b then "true" else "false"
  | .number text => text
  | .string s => quote s
  | .array items => enclose "[" "]" depth (prettyItems (depth + 1) items)
  | .object members => enclose "\x7b" "\x7d" depth (prettyMembers (depth + 1) members)

def prettyItems (depth : Nat) : List Json → List String
  | [] => []
  | item :: more => prettyAt depth item :: prettyItems depth more

def prettyMembers (depth : Nat) : List (String × Json) → List String
  | [] => []
  | (key, value) :: more => (quote key ++ ": " ++ prettyAt depth value) :: prettyMembers depth more

end

/-- A value on several lines. -/
def pretty (j : Json) : String := prettyAt 0 j

end ScopedViews.Json
