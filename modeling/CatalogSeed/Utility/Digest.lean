import CatalogSeed.Utility.Lines

/-!
Digests of files.
-/

namespace CatalogSeed.Utility

namespace Digest

def rotateLeft (word : UInt32) (count : Nat) : UInt32 :=
  (word <<< UInt32.ofNat count) ||| (word >>> UInt32.ofNat (32 - count))

def rotateRight (word : UInt32) (count : Nat) : UInt32 := rotateLeft word (32 - count)

/-- The bytes of a number, the lowest first. -/
def bytesOf (count value : Nat) : List UInt8 :=
  (List.range count).map fun place => UInt8.ofNat (value / Nat.pow 256 place)

/-- The number that bytes make, the lowest first. -/
def numberOf (bytes : List UInt8) : Nat :=
  bytes.foldr (fun byte value => 256 * value + byte.toNat) 0

/-- Bytes filled up to whole blocks of 64, with their count in bits at the end. -/
def padded (lowestFirst : Bool) (bytes : List UInt8) : List UInt8 :=
  let count := bytesOf 8 (8 * bytes.length)
  let zeros := (119 - bytes.length % 64) % 64
  bytes ++ 0x80 :: List.replicate zeros 0 ++ if lowestFirst then count else count.reverse

/-- Parts a list into pieces of a size. -/
def blocks {α : Type} (size : Nat) (items : List α) : List (List α) :=
  (List.range ((items.length + size - 1) / size)).map fun place =>
    (items.drop (place * size)).take size

def wordsOf (lowestFirst : Bool) (bytes : List UInt8) : Array UInt32 :=
  ((blocks 4 bytes).map fun piece =>
    UInt32.ofNat (numberOf (if lowestFirst then piece else piece.reverse))).toArray

def hexText (bytes : List UInt8) : String :=
  let digit (n : Nat) : Char := Char.ofNat (if n < 10 then 48 + n else 87 + n)
  String.ofList (bytes.flatMap fun byte => [digit (byte.toNat / 16), digit (byte.toNat % 16)])

def wordBytes (lowestFirst : Bool) (words : List UInt32) : List UInt8 :=
  words.flatMap fun word =>
    let bytes := bytesOf 4 word.toNat
    if lowestFirst then bytes else bytes.reverse

/-- The largest number whose power is not above a value, searched for bit by bit. -/
def root (power value : Nat) : Nat → Nat → Nat
  | 0, found => found
  | bit + 1, found =>
      let next := found + Nat.pow 2 bit
      root power value bit (if Nat.pow next power ≤ value then next else found)

def primes (count : Nat) : List Nat :=
  let isPrime (n : Nat) : Bool := (List.range n).all fun d => d < 2 || n % d ≠ 0
  (((List.range 420).drop 2).filter isPrime).take count

/-- The first 32 bits behind the point of the roots of primes. -/
def fractions (power count : Nat) : List UInt32 :=
  (primes count).map fun prime =>
    UInt32.ofNat (root power (prime * Nat.pow 2 (32 * power)) 40 0)

def sha256Block (constants : Array UInt32) (state : List UInt32) (block : List UInt8) :
    List UInt32 :=
  let words := (List.range 48).foldl (fun (words : Array UInt32) step =>
    let wordAt (back : Nat) : UInt32 := words[step + 16 - back]?.getD 0
    let low := rotateRight (wordAt 15) 7 ^^^ rotateRight (wordAt 15) 18 ^^^ (wordAt 15 >>> 3)
    let high := rotateRight (wordAt 2) 17 ^^^ rotateRight (wordAt 2) 19 ^^^ (wordAt 2 >>> 10)
    words.push (wordAt 16 + low + wordAt 7 + high)) (wordsOf false block)
  let mixed := (List.range 64).foldl (fun state step => match state with
    | [a, b, c, d, e, f, g, h] =>
        let choice := (e &&& f) ^^^ (~~~e &&& g)
        let majority := (a &&& b) ^^^ (a &&& c) ^^^ (b &&& c)
        let first := h + (rotateRight e 6 ^^^ rotateRight e 11 ^^^ rotateRight e 25) + choice +
          constants[step]?.getD 0 + words[step]?.getD 0
        let second := (rotateRight a 2 ^^^ rotateRight a 13 ^^^ rotateRight a 22) + majority
        [first + second, a, b, c, d + first, e, f, g]
    | other => other) state
  state.zipWith (· + ·) mixed

def sha256 (bytes : List UInt8) : String :=
  let constants := (fractions 3 64).toArray
  let state := (blocks 64 (padded false bytes)).foldl (sha256Block constants) (fractions 2 8)
  hexText (wordBytes false state)

def sha1Block (state : List UInt32) (block : List UInt8) : List UInt32 :=
  let words := (List.range 64).foldl (fun (words : Array UInt32) step =>
    let wordAt (back : Nat) : UInt32 := words[step + 16 - back]?.getD 0
    words.push (rotateLeft (wordAt 3 ^^^ wordAt 8 ^^^ wordAt 14 ^^^ wordAt 16) 1))
    (wordsOf false block)
  let mixed := (List.range 80).foldl (fun state step => match state with
    | [a, b, c, d, e] =>
        let (mix, constant) : UInt32 × UInt32 :=
          if step < 20 then ((b &&& c) ||| (~~~b &&& d), 0x5a827999)
          else if step < 40 then (b ^^^ c ^^^ d, 0x6ed9eba1)
          else if step < 60 then ((b &&& c) ||| (b &&& d) ||| (c &&& d), 0x8f1bbcdc)
          else (b ^^^ c ^^^ d, 0xca62c1d6)
        [rotateLeft a 5 + mix + e + constant + words[step]?.getD 0, a, rotateLeft b 30, c, d]
    | other => other) state
  state.zipWith (· + ·) mixed

def sha1 (bytes : List UInt8) : String :=
  let start : List UInt32 := [0x67452301, 0xefcdab89, 0x98badcfe, 0x10325476, 0xc3d2e1f0]
  hexText (wordBytes false ((blocks 64 (padded false bytes)).foldl sha1Block start))

/-- How far each of four rounds rotates. -/
def md5Turns : List (List Nat) :=
  [[7, 12, 17, 22], [5, 9, 14, 20], [4, 11, 16, 23], [6, 10, 15, 21]]

/-- The first 32 bits behind the point of a sine. -/
def sineBits (step : Nat) : UInt32 :=
  ((step + 1).toFloat.sin.abs * 4294967296).toUInt64.toUInt32

def md5Block (state : List UInt32) (block : List UInt8) : List UInt32 :=
  let words := wordsOf true block
  let mixed := (List.range 64).foldl (fun state step => match state with
    | [a, b, c, d] =>
        let round := step / 16
        let (mix, place) : UInt32 × Nat := match round with
          | 0 => ((b &&& c) ||| (~~~b &&& d), step)
          | 1 => ((d &&& b) ||| (~~~d &&& c), 5 * step + 1)
          | 2 => (b ^^^ c ^^^ d, 3 * step + 5)
          | _ => (c ^^^ (b ||| ~~~d), 7 * step)
        let turn := ((md5Turns[round]?.getD [])[step % 4]?).getD 0
        let sum := a + mix + sineBits step + words[place % 16]?.getD 0
        [d, b + rotateLeft sum turn, b, c]
    | other => other) state
  state.zipWith (· + ·) mixed

def md5 (bytes : List UInt8) : String :=
  let start : List UInt32 := [0x67452301, 0xefcdab89, 0x98badcfe, 0x10325476]
  hexText (wordBytes true ((blocks 64 (padded true bytes)).foldl md5Block start))

/-- The remainder of bytes, and of their count, by the polynomial of Ethernet. -/
def crc (bytes : List UInt8) : Nat :=
  let size := bytesOf 8 bytes.length
  let count := (size.reverse.dropWhile (· = 0)).reverse
  let feed (crc : UInt32) (byte : UInt8) : UInt32 :=
    (List.range 8).foldl (fun crc _ =>
      if crc &&& 0x80000000 = 0 then crc <<< 1 else (crc <<< 1) ^^^ 0x04c11db7)
      (crc ^^^ (byte.toUInt32 <<< 24))
  (~~~((bytes ++ count).foldl feed 0)).toNat

end Digest

end CatalogSeed.Utility
