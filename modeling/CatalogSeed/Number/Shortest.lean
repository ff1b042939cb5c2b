import CatalogSeed.Number.Binary64

/-!
The decimal text of a binary64 number: the fewest digits that round back to it, of those the
nearest, and of two equally near the even one.
-/

namespace CatalogSeed.Binary64

/-- A positive decimal number `d.ddd · 10 ^ exponent`, without trailing zeros. -/
structure Decimal where
  digits : List Char
  exponent : Int
  deriving DecidableEq

/-- The exponent of the first decimal digit of a positive number of units. -/
def firstExponent (units : Nat) : Int :=
  if one ≤ units then (Nat.toDigits 10 (units / one)).length - 1
  else
    let enough (place : Nat) : Bool := one ≤ units * Nat.pow 10 place
    Int.negOfNat (((List.range 330).find? enough).getD 0)

/-- Whether `significand · 10 ^ power` rounds to the given units. The ends of the interval belong
to it when the number is even on its own scale. -/
def roundsTo (units significand : Nat) (power : Int) : Bool :=
  let step := spacing units
  let below := if units = Nat.pow 2 units.log2 ∧ 1 < step then step else 2 * step
  let lower := 4 * units - below
  let upper := 4 * units + 2 * step
  let candidate := significand * Nat.pow 10 power.toNat * (4 * one)
  let unit := Nat.pow 10 (-power).toNat
  if units / step % 2 = 0 then
    lower * unit ≤ candidate && candidate ≤ upper * unit
  else lower * unit < candidate && candidate < upper * unit

/-- The better one of the two neighbours on the grid of multiples of `10 ^ power`, if one of
them rounds to the given units. -/
def onGrid (units : Nat) (power : Int) : Option Nat :=
  let numerator := units * Nat.pow 10 (-power).toNat
  let denominator := Nat.pow 10 power.toNat * one
  let floor := numerator / denominator
  let nearer := nearestQuotient numerator denominator
  let farther := if nearer = floor then floor + 1 else floor
  [nearer, farther].find? fun candidate => roundsTo units candidate power

def Decimal.ofSignificand (significand : Nat) (power : Int) : Decimal :=
  let digits := Nat.toDigits 10 significand
  let kept := (digits.reverse.dropWhile (· = '0')).reverse
  ⟨kept, power + digits.length - 1⟩

/-- Seventeen digits always suffice. -/
def shortest (units : Nat) : Decimal :=
  let leading := firstExponent units
  let found := (List.range 17).findSome? fun (count : Nat) =>
    let power := leading - count
    (onGrid units power).map fun significand => Decimal.ofSignificand significand power
  found.getD ⟨['0'], 0⟩

/-- How a decimal is laid out: the exponents written without one, and the marks. -/
structure Layout where
  lowest : Int
  highest : Int
  mark : Char
  plus : List Char
  whole : List Char

/-- From `0.00001` up to `1000000000000000.0` the point stands in the digits; beyond that there is
an exponent with its sign. -/
def layout : Layout := ⟨-5, 15, 'e', ['+'], ['.', '0']⟩

def Layout.write (layout : Layout) (decimal : Decimal) : List Char :=
  let digits := decimal.digits
  let exponent := decimal.exponent
  if layout.lowest ≤ exponent ∧ exponent ≤ layout.highest then
    if exponent < 0 then
      '0' :: '.' :: (List.replicate (exponent.natAbs - 1) '0' ++ digits)
    else if digits.length ≤ exponent.natAbs + 1 then
      digits ++ List.replicate (exponent.natAbs + 1 - digits.length) '0' ++ layout.whole
    else
      digits.take (exponent.natAbs + 1) ++ '.' :: digits.drop (exponent.natAbs + 1)
  else
    let mantissa := match digits with
      | first :: second :: rest => first :: '.' :: second :: rest
      | few => few
    let sign := if exponent < 0 then ['-'] else layout.plus
    mantissa ++ layout.mark :: (sign ++ Nat.toDigits 10 exponent.natAbs)

def text (number : Binary64) : List Char :=
  let magnitude :=
    if number.units = 0 then '0' :: layout.whole
    else layout.write (shortest number.units)
  if number.negative then '-' :: magnitude else magnitude

end CatalogSeed.Binary64
