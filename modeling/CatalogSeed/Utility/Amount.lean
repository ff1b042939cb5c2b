import CatalogSeed.Utility.Basic

/-!
Amounts with units, as they are read and as they are shown.
-/

namespace CatalogSeed.Utility.Amount

/-- The letters for the powers of a thousand. -/
def letters : List Char := "KMGTPEZYRQ".toList

/-- What a unit stands for: a power of 1024, or of 1000 where a `B` stands behind the letter. -/
def factor? (unit : List Char) : Option Nat :=
  let power (letter : Char) (base : Nat) : Option Nat :=
    let letter := if letter = 'k' ∨ letter = 'm' then letter.toUpper else letter
    (letters.findIdx? (· = letter)).map fun index => Nat.pow base (index + 1)
  match unit with
  | [] => some 1
  | ['b'] => some 512
  | [letter] | [letter, 'i', 'B'] => power letter 1024
  | [letter, 'B'] => power letter 1000
  | _ => none

/-- A number with a unit. -/
def parse? (text : String) : Option Nat :=
  let (digits, unit) := text.toList.span Char.isDigit
  if digits = [] then none
  else (factor? unit).map fun factor =>
    digits.foldl (fun value c => 10 * value + (c.toNat - 48)) 0 * factor

/-- A quotient, rounded up or to the nearest number. -/
def quotient (up : Bool) (size unit : Nat) : Nat :=
  if up then (size + unit - 1) / unit else (2 * size + unit) / (2 * unit)

/-- A size in the unit that leaves the fewest digits, and the letter of the unit if it has one. -/
def shortened (base : Nat) (up : Bool) (size : Nat) : String × Option Char :=
  match (List.range 8).find? fun power => size < Nat.pow base (power + 1) with
  | none | some 0 => (decimal size, none)
  | some power =>
      let letter (power : Nat) : Option Char := letters[power - 1]?
      let tenths := quotient up (10 * size) (Nat.pow base power)
      if tenths < 100 then (decimal (tenths / 10) ++ "." ++ decimal (tenths % 10), letter power)
      else
        let whole := quotient up size (Nat.pow base power)
        if whole = base then ("1.0", letter (power + 1)) else (decimal whole, letter power)

/-- A size as listings show it. -/
def human (base : Nat) (size : Nat) : String :=
  let (text, letter) := shortened base true size
  let letter := if base = 1000 then letter.map fun c => if c = 'K' then 'k' else c else letter
  text ++ String.ofList letter.toList

end CatalogSeed.Utility.Amount
