import CatalogSeed.Number.Binary64

/-!
Texts of binary64 numbers with a given number of places, rounded to nearest on their exact value.
-/

namespace CatalogSeed.Binary64

/-- Digits with a point before the last `places` of them. -/
def pointed (places value : Nat) : List Char :=
  let digits := Nat.toDigits 10 value
  let digits := List.replicate (places + 1 - digits.length) '0' ++ digits
  let whole := digits.take (digits.length - places)
  if places = 0 then whole else whole ++ '.' :: digits.drop whole.length

/-- The plain text with this many places behind the point. -/
def fixedText (places units : Nat) : List Char :=
  pointed places (nearestQuotient (units * Nat.pow 10 places) one)

/-- A positive number's digits, `places` of them behind the first, and its decimal exponent. -/
def roundedDigits (places units : Nat) : Nat × Int :=
  let exponent : Int :=
    if one ≤ units then (Nat.toDigits 10 (units / one)).length - 1
    else -(((List.range 330).find? fun place => one ≤ units * Nat.pow 10 place).getD 0 : Nat)
  let power := exponent - places
  let digits := nearestQuotient (units * Nat.pow 10 (-power).toNat) (Nat.pow 10 power.toNat * one)
  if digits < Nat.pow 10 (places + 1) then (digits, exponent)
  else (digits / 10, exponent + 1)

def exponentText (exponent : Int) : List Char :=
  let digits := Nat.toDigits 10 exponent.natAbs
  (if exponent < 0 then ['e', '-'] else ['e', '+']) ++
    List.replicate (2 - digits.length) '0' ++ digits

/-- The text with one digit before the point and an exponent. -/
def scientificText (places units : Nat) : List Char :=
  let (digits, exponent) := if units = 0 then (0, 0) else roundedDigits places units
  pointed places digits ++ exponentText exponent

/-- Takes zeros off the end of a fraction, and a point that nothing stands behind. -/
def dropZeros (text : List Char) : List Char :=
  if text.contains '.' then
    match text.reverse.dropWhile (· = '0') with
    | '.' :: rest => rest.reverse
    | rest => rest.reverse
  else text

/-- The shorter of both texts for this many digits; zeros at the end are kept if wished. -/
def generalText (digits : Nat) (zeros : Bool) (units : Nat) : List Char :=
  let digits := max 1 digits
  let (significand, exponent) := if units = 0 then (0, 0) else roundedDigits (digits - 1) units
  let trim (text : List Char) : List Char := if zeros then text else dropZeros text
  if exponent < -4 ∨ (digits : Int) ≤ exponent then
    trim (pointed (digits - 1) significand) ++ exponentText exponent
  else trim (fixedText (digits - 1 - exponent).toNat units)

end CatalogSeed.Binary64
