/-!
Finite binary64 numbers in exact arithmetic. Every one of them is a whole number of units of
2 ^ -1074, so a magnitude is a natural number, and rounding divides natural numbers.
-/

namespace CatalogSeed

structure Binary64 where
  negative : Bool
  units : Nat
  deriving DecidableEq, Inhabited

namespace Binary64

/-- The units in one. -/
def one : Nat := Nat.pow 2 1074

/-- The units in 2 ^ 1024, where the finite numbers end. -/
def limit : Nat := Nat.pow 2 2098

/-- The distance between neighbouring numbers where the given units lie. -/
def spacing (units : Nat) : Nat :=
  Nat.pow 2 (units.log2 + 1 - 53)

/-- The natural number nearest to a quotient, the even one of two. -/
def nearestQuotient (numerator denominator : Nat) : Nat :=
  let quotient := numerator / denominator
  let twice := 2 * (numerator % denominator)
  if denominator < twice then quotient + 1
  else if twice = denominator then quotient + quotient % 2
  else quotient

/-- The units of the binary64 number nearest to a quotient of units. -/
def nearest (numerator denominator : Nat) : Nat :=
  let step := spacing (numerator / denominator)
  nearestQuotient numerator (denominator * step) * step

def ofNat (n : Nat) : Nat :=
  nearest (n * one) 1

def times (left right : Nat) : Nat :=
  nearest (left * right) one

def dividedBy (left right : Nat) : Nat :=
  nearest (left * one) right

/-- Scales by a power of ten: one multiplication upwards, and downwards as many divisions as a
table that ends at 10 ^ 308 needs. `none` is an overflow. -/
def scaleByTen : Nat → Nat → Int → Option Nat
  | 0, units, _ => some units
  | fuel + 1, units, exponent =>
      if exponent.natAbs ≤ 308 then
        let power := ofNat (Nat.pow 10 exponent.natAbs)
        if 0 ≤ exponent then
          let scaled := times units power
          if scaled < limit then some scaled else none
        else some (dividedBy units power)
      else if units = 0 then some 0
      else if 0 ≤ exponent then none
      else scaleByTen fuel (dividedBy units (ofNat (Nat.pow 10 308))) (exponent + 308)

end Binary64

end CatalogSeed
