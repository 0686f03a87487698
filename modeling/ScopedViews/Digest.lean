/-!
# Digests

The 128-bit digest of the xxHash3 family without a seed.  Texts of up to 240 bytes are mixed in
one of six ways that depend on their length; longer texts run through eight accumulators, in
stripes of 64 bytes and blocks of sixteen stripes.
-/

namespace ScopedViews

/-- A digest of 128 bits in two words. -/
structure Digest where
  high : UInt64
  low : UInt64
deriving DecidableEq, Repr, Inhabited

namespace Digest

def toNat (d : Digest) : Nat := d.high.toNat * Nat.pow 2 64 + d.low.toNat

/-- `count` lower-case hexadecimal digits. -/
def hexDigits (n : Nat) : Nat → List Char
  | 0 => []
  | count + 1 => hexDigits (n / 16) count ++ [Nat.digitChar (n % 16)]

/-- The 32 lower-case hexadecimal digits of a digest. -/
def hex (d : Digest) : String := String.ofList (hexDigits d.toNat 32)

def prime32A : UInt64 := 0x9E3779B1
def prime32B : UInt64 := 0x85EBCA77
def prime32C : UInt64 := 0xC2B2AE3D
def prime64A : UInt64 := 0x9E3779B185EBCA87
def prime64B : UInt64 := 0xC2B2AE3D27D4EB4F
def prime64C : UInt64 := 0x165667B19E3779F9
def prime64D : UInt64 := 0x85EBCA77C2B2AE63
def prime64E : UInt64 := 0x27D4EB2F165667C5
def mixPrimeA : UInt64 := 0x165667919E3779F9
def mixPrimeB : UInt64 := 0x9FB21C651E98DF25

/-- The fixed bytes that the text is mixed with. -/
def secret : ByteArray := ⟨#[
  0xb8, 0xfe, 0x6c, 0x39, 0x23, 0xa4, 0x4b, 0xbe, 0x7c, 0x01, 0x81, 0x2c, 0xf7, 0x21, 0xad, 0x1c,
  0xde, 0xd4, 0x6d, 0xe9, 0x83, 0x90, 0x97, 0xdb, 0x72, 0x40, 0xa4, 0xa4, 0xb7, 0xb3, 0x67, 0x1f,
  0xcb, 0x79, 0xe6, 0x4e, 0xcc, 0xc0, 0xe5, 0x78, 0x82, 0x5a, 0xd0, 0x7d, 0xcc, 0xff, 0x72, 0x21,
  0xb8, 0x08, 0x46, 0x74, 0xf7, 0x43, 0x24, 0x8e, 0xe0, 0x35, 0x90, 0xe6, 0x81, 0x3a, 0x26, 0x4c,
  0x3c, 0x28, 0x52, 0xbb, 0x91, 0xc3, 0x00, 0xcb, 0x88, 0xd0, 0x65, 0x8b, 0x1b, 0x53, 0x2e, 0xa3,
  0x71, 0x64, 0x48, 0x97, 0xa2, 0x0d, 0xf9, 0x4e, 0x38, 0x19, 0xef, 0x46, 0xa9, 0xde, 0xac, 0xd8,
  0xa8, 0xfa, 0x76, 0x3f, 0xe3, 0x9c, 0x34, 0x3f, 0xf9, 0xdc, 0xbb, 0xc7, 0xc7, 0x0b, 0x4f, 0x1d,
  0x8a, 0x51, 0xe0, 0x4b, 0xcd, 0xb4, 0x59, 0x31, 0xc8, 0x9f, 0x7e, 0xc9, 0xd9, 0x78, 0x73, 0x64,
  0xea, 0xc5, 0xac, 0x83, 0x34, 0xd3, 0xeb, 0xc3, 0xc5, 0x81, 0xa0, 0xff, 0xfa, 0x13, 0x63, 0xeb,
  0x17, 0x0d, 0xdd, 0x51, 0xb7, 0xf0, 0xda, 0x49, 0xd3, 0x16, 0x55, 0x26, 0x29, 0xd4, 0x68, 0x9e,
  0x2b, 0x16, 0xbe, 0x58, 0x7d, 0x47, 0xa1, 0xfc, 0x8f, 0xf8, 0xb8, 0xd1, 0x7a, 0xd0, 0x31, 0xce,
  0x45, 0xcb, 0x3a, 0x8f, 0x95, 0x16, 0x04, 0x28, 0xaf, 0xd7, 0xfb, 0xca, 0xbb, 0x4b, 0x40, 0x7e]⟩

/-- The byte at a position, zero outside. -/
def byteAt (bytes : ByteArray) (i : Nat) : UInt64 :=
  if h : i < bytes.size then (bytes[i]).toUInt64 else 0

/-- Four bytes, the lowest first. -/
def word32 (bytes : ByteArray) (i : Nat) : UInt64 :=
  byteAt bytes i ||| (byteAt bytes (i + 1) <<< 8) ||| (byteAt bytes (i + 2) <<< 16) |||
    (byteAt bytes (i + 3) <<< 24)

/-- Eight bytes, the lowest first. -/
def word64 (bytes : ByteArray) (i : Nat) : UInt64 :=
  word32 bytes i ||| (word32 bytes (i + 4) <<< 32)

/-- The product of two words, in two words. -/
def product (a b : UInt64) : Digest :=
  let n := a.toNat * b.toNat
  ⟨UInt64.ofNat (n / Nat.pow 2 64), UInt64.ofNat n⟩

/-- The two halves of the product of two words, laid over each other. -/
def folded (a b : UInt64) : UInt64 :=
  let p := product a b
  p.low ^^^ p.high

def low32 (x : UInt64) : UInt64 := x &&& 0xFFFFFFFF

/-- The four low bytes in reverse order. -/
def swap32 (x : UInt64) : UInt64 :=
  let byte (shift : UInt64) : UInt64 := (x >>> shift) &&& 0xFF
  (byte 0 <<< 24) ||| (byte 8 <<< 16) ||| (byte 16 <<< 8) ||| byte 24

/-- The eight bytes in reverse order. -/
def swap64 (x : UInt64) : UInt64 := (swap32 (low32 x) <<< 32) ||| swap32 (x >>> 32)

def rotate32 (x n : UInt64) : UInt64 := low32 ((x <<< n) ||| (low32 x >>> (32 - n)))

def shiftMix (x n : UInt64) : UInt64 := x ^^^ (x >>> n)

/-- Spreads each bit over the word, in three shifts. -/
def spreadLong (x : UInt64) : UInt64 :=
  shiftMix (shiftMix (shiftMix x 33 * prime64B) 29 * prime64C) 32

/-- Spreads each bit over the word, in two shifts. -/
def spread (x : UInt64) : UInt64 := shiftMix (shiftMix x 37 * mixPrimeA) 32

def ofNothing : Digest where
  low := spreadLong (word64 secret 64 ^^^ word64 secret 72)
  high := spreadLong (word64 secret 80 ^^^ word64 secret 88)

def ofUpTo3 (bytes : ByteArray) : Digest :=
  let size := bytes.size
  let forward := (byteAt bytes 0 <<< 16) ||| (byteAt bytes (size / 2) <<< 24) |||
    byteAt bytes (size - 1) ||| (size.toUInt64 <<< 8)
  let backward := rotate32 (swap32 forward) 13
  { low := spreadLong (forward ^^^ (word32 secret 0 ^^^ word32 secret 4))
    high := spreadLong (backward ^^^ (word32 secret 8 ^^^ word32 secret 12)) }

def ofUpTo8 (bytes : ByteArray) : Digest :=
  let size := bytes.size
  let keyed := (word32 bytes 0 + (word32 bytes (size - 4) <<< 32)) ^^^
    (word64 secret 16 ^^^ word64 secret 24)
  let p := product keyed (prime64A + (size.toUInt64 <<< 2))
  let high := p.high + (p.low <<< 1)
  let low := p.low ^^^ (high >>> 3)
  { low := shiftMix (shiftMix low 35 * mixPrimeB) 28
    high := spread high }

def ofUpTo16 (bytes : ByteArray) : Digest :=
  let size := bytes.size
  let first := word64 bytes 0
  let last := word64 bytes (size - 8)
  let p := product (first ^^^ last ^^^ (word64 secret 32 ^^^ word64 secret 40)) prime64A
  let low := p.low + ((size - 1).toUInt64 <<< 54)
  let keyed := last ^^^ (word64 secret 48 ^^^ word64 secret 56)
  let high := p.high + (keyed + low32 keyed * (prime32B - 1))
  let q := product (low ^^^ swap64 high) prime64B
  { low := spread q.low
    high := spread (q.high + high * prime64B) }

/-- Sixteen bytes mixed with sixteen bytes of the secret. -/
def mix16 (bytes : ByteArray) (i key : Nat) : UInt64 :=
  folded (word64 bytes i ^^^ word64 secret key) (word64 bytes (i + 8) ^^^ word64 secret (key + 8))

/-- Takes in sixteen bytes at `i` and sixteen at `j`. -/
def mix32 (bytes : ByteArray) (acc : Digest) (i j key : Nat) : Digest where
  low := (acc.low + mix16 bytes i key) ^^^ (word64 bytes j + word64 bytes (j + 8))
  high := (acc.high + mix16 bytes j (key + 16)) ^^^ (word64 bytes i + word64 bytes (i + 8))

/-- What is left to do after mixing texts of middle length. -/
def finish (acc : Digest) (size : Nat) : Digest where
  low := spread (acc.low + acc.high)
  high := 0 - spread (acc.low * prime64A + acc.high * prime64D + size.toUInt64 * prime64B)

def ofUpTo128 (bytes : ByteArray) : Digest :=
  let size := bytes.size
  let rounds := [3, 2, 1, 0].filter fun i => i = 0 || 32 * i < size
  finish (rounds.foldl (fun acc i => mix32 bytes acc (16 * i) (size - 16 * (i + 1)) (32 * i))
    ⟨0, size.toUInt64 * prime64A⟩) size

def ofUpTo240 (bytes : ByteArray) : Digest :=
  let size := bytes.size
  let acc := (List.range 4).foldl
    (fun acc i => mix32 bytes acc (32 * i) (32 * i + 16) (32 * i)) ⟨0, size.toUInt64 * prime64A⟩
  let acc : Digest := ⟨spread acc.high, spread acc.low⟩
  let acc := (List.range (size / 32 - 4)).foldl
    (fun acc i => mix32 bytes acc (128 + 32 * i) (144 + 32 * i) (3 + 32 * i)) acc
  finish (mix32 bytes acc (size - 16) (size - 32) 103) size

/-- The eight accumulators at the start. -/
def accumulators : Vector UInt64 8 :=
  #v[prime32C, prime64A, prime64B, prime64C, prime64D, prime32B, prime64E, prime32A]

/-- Takes in the stripe at `i` with the secret at `key`.  The lane beside a word gets the word
itself, its own lane the product of the halves of the keyed word. -/
def stripe (bytes : ByteArray) (i key : Nat) (acc : Vector UInt64 8) : Vector UInt64 8 :=
  let add (lane beside : Nat) (x : UInt64) : UInt64 :=
    let keyed := word64 bytes (i + 8 * lane) ^^^ word64 secret (key + 8 * lane)
    x + low32 keyed * (keyed >>> 32) + word64 bytes (i + 8 * beside)
  #v[add 0 1 acc[0], add 1 0 acc[1], add 2 3 acc[2], add 3 2 acc[3],
    add 4 5 acc[4], add 5 4 acc[5], add 6 7 acc[6], add 7 6 acc[7]]

/-- Takes in `count` stripes from `i` on. -/
def stripes (bytes : ByteArray) (i count : Nat) (acc : Vector UInt64 8) : Vector UInt64 8 :=
  (List.range count).foldl (fun acc n => stripe bytes (i + 64 * n) (8 * n) acc) acc

/-- Stirs the accumulators at the end of a block. -/
def scramble (acc : Vector UInt64 8) : Vector UInt64 8 :=
  acc.mapIdx fun lane x => (shiftMix x 47 ^^^ word64 secret (128 + 8 * lane)) * prime32A

/-- One word made of the eight accumulators. -/
def merge (acc : Vector UInt64 8) (key : Nat) (start : UInt64) : UInt64 :=
  spread (start +
    folded (acc[0] ^^^ word64 secret key) (acc[1] ^^^ word64 secret (key + 8)) +
    folded (acc[2] ^^^ word64 secret (key + 16)) (acc[3] ^^^ word64 secret (key + 24)) +
    folded (acc[4] ^^^ word64 secret (key + 32)) (acc[5] ^^^ word64 secret (key + 40)) +
    folded (acc[6] ^^^ word64 secret (key + 48)) (acc[7] ^^^ word64 secret (key + 56)))

def ofLong (bytes : ByteArray) : Digest :=
  let size := bytes.size
  let blocks := (size - 1) / 1024
  let acc := (List.range blocks).foldl
    (fun acc n => scramble (stripes bytes (1024 * n) 16 acc)) accumulators
  let acc := stripes bytes (1024 * blocks) ((size - 1 - 1024 * blocks) / 64) acc
  let acc := stripe bytes (size - 64) 121 acc
  { low := merge acc 11 (size.toUInt64 * prime64A)
    high := merge acc 117 (~~~ (size.toUInt64 * prime64B)) }

/-- The digest of a sequence of bytes. -/
def ofBytes (bytes : ByteArray) : Digest :=
  let size := bytes.size
  if size = 0 then ofNothing
  else if size ≤ 3 then ofUpTo3 bytes
  else if size ≤ 8 then ofUpTo8 bytes
  else if size ≤ 16 then ofUpTo16 bytes
  else if size ≤ 128 then ofUpTo128 bytes
  else if size ≤ 240 then ofUpTo240 bytes
  else ofLong bytes

/-- The hexadecimal digest of the UTF-8 bytes of a text. -/
def ofText (s : String) : String := (ofBytes s.toUTF8).hex

end Digest

end ScopedViews
