/-!
# Texts and bytes

A text is written as bytes in UTF-8.  Bytes need not be a text: where they stop being one, and how
they are shown nevertheless.
-/

namespace ScopedViews

/-- What a file is called, or what stands in it. -/
abbrev Bytes := List UInt8

namespace Text

/-- Characters as they are written. -/
def encode (cs : List Char) : Bytes := cs.flatMap String.utf8EncodeChar

/-- A text as it is written. -/
def utf8 (s : String) : Bytes := encode s.toList

/-- The bytes that may follow a first byte, as bounds of the second one and the number of further
ones.  A first byte of one byte alone has none. -/
def followers? (first : UInt8) : Option (Option (UInt8 × UInt8 × Nat)) :=
  if first < 0x80 then some none
  else if 0xC2 ≤ first && first ≤ 0xDF then some (some (0x80, 0xBF, 0))
  else if first = 0xE0 then some (some (0xA0, 0xBF, 1))
  else if first = 0xED then some (some (0x80, 0x9F, 1))
  else if 0xE1 ≤ first && first ≤ 0xEF then some (some (0x80, 0xBF, 1))
  else if first = 0xF0 then some (some (0x90, 0xBF, 2))
  else if 0xF1 ≤ first && first ≤ 0xF3 then some (some (0x80, 0xBF, 2))
  else if first = 0xF4 then some (some (0x80, 0x8F, 2))
  else none

/-- A character cut short by another byte, or by the end. -/
inductive Malformed where
  | broken (bytes : Nat)
  | cutShort
deriving DecidableEq, Repr

/-- Whether a byte can stand behind the second one of a character. -/
def isFurther (b : UInt8) : Bool := 0x80 ≤ b && b ≤ 0xBF

/-- Reads further bytes of a character, of which some were read already. -/
def further : Nat → (size : Nat) → Bytes → Except Malformed Nat
  | 0, size, _ => .ok size
  | _ + 1, _, [] => .error .cutShort
  | n + 1, size, b :: rest =>
    if isFurther b then further n (size + 1) rest else .error (.broken size)

/-- Whether a character begins at the head: its size, or how it is malformed. -/
def characterSize : Bytes → Except Malformed Nat
  | [] => .error .cutShort
  | first :: rest =>
    match followers? first with
    | none => .error (.broken 1)
    | some none => .ok 1
    | some (some (low, high, more)) =>
      match rest with
      | [] => .error .cutShort
      | second :: rest =>
        if low ≤ second && second ≤ high then further more 2 rest else .error (.broken 1)

/-- Where the first malformed character stands.  The fuel bounds the number of characters. -/
def firstMalformed? : Nat → Nat → Bytes → Option (Nat × Malformed)
  | 0, _, _ | _, _, [] => none
  | fuel + 1, offset, bytes =>
    match characterSize bytes with
    | .ok size => firstMalformed? fuel (offset + size) (bytes.drop size)
    | .error m => some (offset, m)

/-- What is said of bytes that are no text. -/
def malformedMessage (offset : Nat) : Malformed → String
  | .broken bytes =>
    "invalid utf-8 sequence of " ++ toString bytes ++ " bytes from index " ++ toString offset
  | .cutShort => "incomplete utf-8 byte sequence from index " ++ toString offset

/-- The text of bytes, or what is wrong with them. -/
def decode (bytes : ByteArray) : Except String String :=
  match String.fromUTF8? bytes with
  | some text => .ok text
  | none =>
    match firstMalformed? (bytes.size + 1) 0 bytes.toList with
    | some (offset, m) => .error (malformedMessage offset m)
    | none => .error ""

/-- The character that is written at the head, if there is one. -/
def character? (bytes : Bytes) : Option Char := (bytes.take 4).toByteArray.utf8DecodeChar? 0

/-- How many of all bytes were read in an attempt to read a character. -/
def readCount (all : Nat) : Except Malformed Nat → Nat
  | .ok size | .error (.broken size) => size
  | .error .cutShort => all

/-- How many bytes at the head are taken for one character, malformed or not. -/
def headSize (bytes : Bytes) : Nat := readCount bytes.length (characterSize bytes)

/-- What stands for a malformed character. -/
def replacement : Char := '\uFFFD'

/-- The characters of bytes of which the first ones are read already. -/
def charactersAfter : Nat → Bytes → List Char
  | _, [] => []
  | n + 1, _ :: rest => charactersAfter n rest
  | 0, b :: rest =>
    match character? (b :: rest) with
    | some c => c :: charactersAfter (c.utf8Size - 1) rest
    | none => replacement :: charactersAfter (headSize (b :: rest) - 1) rest

/-- The characters of bytes, with a replacement for each malformed one. -/
def lossy (bytes : Bytes) : List Char := charactersAfter 0 bytes

/-- The text of bytes, malformed or not. -/
def decodeLossy (bytes : Bytes) : String := String.ofList (lossy bytes)

end Text

/-- A text stands for its bytes where bytes are asked for. -/
instance : Coe String Bytes := ⟨Text.utf8⟩

end ScopedViews
