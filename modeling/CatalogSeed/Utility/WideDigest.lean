import CatalogSeed.Utility.Digest

/-!
Digests that work on words of 64 bits, and the older ones that were made shorter in the same way.
-/

namespace CatalogSeed.Utility.Digest

/-- The first 64 bits behind the point of the roots of primes. -/
def wideFractions (power skipped count : Nat) : List UInt64 :=
  ((primes (skipped + count)).drop skipped).map fun prime =>
    UInt64.ofNat (root power (prime * Nat.pow 2 (64 * power)) 72 0)

def turnRight (word : UInt64) (count : Nat) : UInt64 :=
  (word >>> UInt64.ofNat count) ||| (word <<< UInt64.ofNat (64 - count))

/-- Bytes filled up to whole blocks of 128, with their count in bits at the end. -/
def widePadded (bytes : List UInt8) : List UInt8 :=
  let zeros := (239 - bytes.length % 128) % 128
  bytes ++ 0x80 :: List.replicate zeros 0 ++ (bytesOf 16 (8 * bytes.length)).reverse

def wideWords (lowestFirst : Bool) (bytes : List UInt8) : Array UInt64 :=
  ((blocks 8 bytes).map fun piece =>
    UInt64.ofNat (numberOf (if lowestFirst then piece else piece.reverse))).toArray

def wideBytes (lowestFirst : Bool) (words : List UInt64) : List UInt8 :=
  words.flatMap fun word =>
    let bytes := bytesOf 8 word.toNat
    if lowestFirst then bytes else bytes.reverse

def sha512Block (constants : Array UInt64) (state : List UInt64) (block : List UInt8) :
    List UInt64 :=
  let words := (List.range 64).foldl (fun (words : Array UInt64) step =>
    let wordAt (back : Nat) : UInt64 := words[step + 16 - back]?.getD 0
    let low := turnRight (wordAt 15) 1 ^^^ turnRight (wordAt 15) 8 ^^^ (wordAt 15 >>> 7)
    let high := turnRight (wordAt 2) 19 ^^^ turnRight (wordAt 2) 61 ^^^ (wordAt 2 >>> 6)
    words.push (wordAt 16 + low + wordAt 7 + high)) (wideWords false block)
  let mixed := (List.range 80).foldl (fun state step => match state with
    | [a, b, c, d, e, f, g, h] =>
        let choice := (e &&& f) ^^^ (~~~e &&& g)
        let majority := (a &&& b) ^^^ (a &&& c) ^^^ (b &&& c)
        let first := h + (turnRight e 14 ^^^ turnRight e 18 ^^^ turnRight e 41) + choice +
          constants[step]?.getD 0 + words[step]?.getD 0
        let second := (turnRight a 28 ^^^ turnRight a 34 ^^^ turnRight a 39) + majority
        [first + second, a, b, c, d + first, e, f, g]
    | other => other) state
  state.zipWith (· + ·) mixed

def sha512From (start : List UInt64) (size : Nat) (bytes : List UInt8) : String :=
  let constants := (wideFractions 3 0 80).toArray
  let state := (blocks 128 (widePadded bytes)).foldl (sha512Block constants) start
  hexText ((wideBytes false state).take size)

def sha512 : List UInt8 → String := sha512From (wideFractions 2 0 8) 64

def sha384 : List UInt8 → String := sha512From (wideFractions 2 8 8) 48

def sha224 (bytes : List UInt8) : String :=
  let constants := (fractions 3 64).toArray
  let start := (wideFractions 2 8 8).map fun word => word.toUInt32
  let state := (blocks 64 (padded false bytes)).foldl (sha256Block constants) start
  hexText ((wordBytes false state).take 28)

/-- The orders in which the words of a block are mixed in, round by round. -/
def mixingOrders : List (List Nat) :=
  [[0, 1, 2, 3, 4, 5, 6, 7, 8, 9, 10, 11, 12, 13, 14, 15],
    [14, 10, 4, 8, 9, 15, 13, 6, 1, 12, 0, 2, 11, 7, 5, 3],
    [11, 8, 12, 0, 5, 2, 15, 13, 10, 14, 3, 6, 7, 1, 9, 4],
    [7, 9, 3, 1, 13, 12, 11, 14, 2, 6, 5, 10, 4, 0, 15, 8],
    [9, 0, 5, 7, 2, 4, 10, 15, 14, 1, 11, 12, 6, 8, 3, 13],
    [2, 12, 6, 10, 0, 11, 8, 3, 4, 13, 7, 5, 15, 14, 1, 9],
    [12, 5, 1, 15, 14, 13, 4, 10, 0, 7, 6, 3, 9, 2, 8, 11],
    [13, 11, 7, 14, 12, 1, 3, 9, 5, 0, 15, 4, 8, 6, 2, 10],
    [6, 15, 14, 9, 11, 3, 0, 8, 12, 2, 13, 7, 1, 4, 10, 5],
    [10, 2, 8, 4, 7, 6, 1, 5, 15, 11, 9, 14, 3, 12, 13, 0]]

/-- The places that are mixed with one another in a round: columns, then diagonals. -/
def mixingPlaces : List (Nat × Nat × Nat × Nat) :=
  [(0, 4, 8, 12), (1, 5, 9, 13), (2, 6, 10, 14), (3, 7, 11, 15), (0, 5, 10, 15), (1, 6, 11, 12),
    (2, 7, 8, 13), (3, 4, 9, 14)]

def blakeMix (words : Array UInt64) (order : List Nat) (state : Array UInt64)
    (entry : (Nat × Nat × Nat × Nat) × Nat) : Array UInt64 :=
  let ((i, j, k, l), index) := entry
  let word (offset : Nat) : UInt64 := words[order.getD (2 * index + offset) 0]?.getD 0
  let get (place : Nat) : UInt64 := state[place]?.getD 0
  let a := get i + get j + word 0
  let d := turnRight (get l ^^^ a) 32
  let c := get k + d
  let b := turnRight (get j ^^^ c) 24
  let a := a + b + word 1
  let d := turnRight (d ^^^ a) 16
  let c := c + d
  let b := turnRight (b ^^^ c) 63
  (((state.setIfInBounds i a).setIfInBounds j b).setIfInBounds k c).setIfInBounds l d

def blakeBlock (start : List UInt64) (state : List UInt64) (entry : List UInt8 × Nat × Bool) :
    List UInt64 :=
  let (block, count, last) := entry
  let words := wideWords true (block ++ List.replicate (128 - block.length) 0)
  let tail := start.mapIdx fun place word =>
    if place = 4 then word ^^^ UInt64.ofNat count
    else if place = 6 && last then ~~~word
    else word
  let mixed := (List.range 12).foldl (fun state round =>
    let order := mixingOrders.getD (round % 10) []
    mixingPlaces.zipIdx.foldl (blakeMix words order) state) (state ++ tail).toArray
  state.mapIdx fun place word =>
    word ^^^ mixed[place]?.getD 0 ^^^ mixed[place + 8]?.getD 0

def blake2 (bytes : List UInt8) : String :=
  let start := wideFractions 2 0 8
  let parts := if bytes = [] then [[]] else blocks 128 bytes
  let entries := parts.mapIdx fun index block =>
    (block, min bytes.length (128 * (index + 1)), decide (index + 1 = parts.length))
  let first := start.mapIdx fun place word => if place = 0 then word ^^^ 0x01010040 else word
  hexText (wideBytes true (entries.foldl (blakeBlock start) first))

/-- The sum of bytes with a rotation before each. -/
def rotatingSum (bytes : List UInt8) : Nat :=
  bytes.foldl (fun sum byte => (sum / 2 + sum % 2 * 32768 + byte.toNat) % 65536) 0

/-- The sum of bytes, folded into 16 bits. -/
def foldedSum (bytes : List UInt8) : Nat :=
  let sum := bytes.foldl (fun sum byte => sum + byte.toNat) 0
  let half := sum % 65536 + sum % 4294967296 / 65536
  half % 65536 + half / 65536

end CatalogSeed.Utility.Digest
