import CatalogSeed.Number.Places

/-!
Numbers as programs read and print them: finite ones in units of 2 ^ -1074, the infinite ones, and
what is not a number. Reading knows decimal and hexadecimal texts and rounds to a number of bits.
-/

namespace CatalogSeed

inductive Extended where
  | finite (negative : Bool) (units : Nat)
  | infinite (negative : Bool)
  | notANumber (negative : Bool)

namespace Extended

/-- How many bits a significand has, and where the exponents end. -/
structure Size where
  bits : Nat
  exponents : Nat

def double : Size := ⟨53, 1024⟩

def wide : Size := ⟨64, 16384⟩

def negative : Extended → Bool
  | finite negative _ | infinite negative | notANumber negative => negative

/-- The value of digits of a base up to sixteen. -/
def digitsValue (base : Nat) (digits : List Char) : Nat :=
  let digit (c : Char) : Nat :=
    if c.isDigit then c.toNat - 48 else c.toLower.toNat - 87
  digits.foldl (fun value c => base * value + digit c) 0

def isHexDigit (c : Char) : Bool :=
  c.isDigit || ('a' ≤ c.toLower && c.toLower ≤ 'f')

/-- Digits with a point between them, which has to have one beside it. -/
def pointed? (isDigit : Char → Bool) (text : List Char) :
    Option (List Char × List Char × List Char) :=
  let (whole, rest) := text.span isDigit
  let (fraction, rest) := match rest with
    | '.' :: behind => behind.span isDigit
    | rest => ([], rest)
  if whole = [] ∧ fraction = [] then none else some (whole, fraction, rest)

/-- The exponent behind a letter, if digits follow. -/
def exponent (letter : Char) (text : List Char) : Int × List Char :=
  match text with
  | c :: behind =>
      if c.toLower ≠ letter then (0, text)
      else
        let (minus, behind) := match behind with
          | '-' :: behind => (true, behind)
          | '+' :: behind => (false, behind)
          | behind => (false, behind)
        match behind.span Char.isDigit with
        | ([], _) => (0, text)
        | (digits, rest) =>
            let size : Int := (min (digitsValue 10 digits) 20000 : Nat)
            (if minus then -size else size, rest)
  | [] => (0, [])

/-- The nearest number to a quotient, and whether it is out of range. -/
def nearest (size : Size) (negative : Bool) (numerator denominator : Nat) : Extended × Bool :=
  let tiny := numerator * Nat.pow 2 (size.exponents - 2) < denominator
  let numerator := numerator * Binary64.one
  let step := Nat.pow 2 ((numerator / denominator).log2 + 1 - size.bits)
  let units := Binary64.nearestQuotient numerator (denominator * step) * step
  let exact := units * denominator = numerator
  if Nat.pow 2 (1074 + size.exponents) ≤ units then (infinite negative, true)
  else (finite negative units, tiny && !exact)

/-- Reads a number without its sign, as far as it goes. -/
def readMagnitude? (size : Size) (negative : Bool) (text : List Char) :
    Option (Extended × Bool × List Char) :=
  let lower := text.map Char.toLower
  let decimal : Option (Extended × Bool × List Char) := do
    let (whole, fraction, rest) ← pointed? Char.isDigit text
    let (exponent, rest) := exponent 'e' rest
    let power := exponent - fraction.length
    let (number, outside) := nearest size negative
      (digitsValue 10 (whole ++ fraction) * Nat.pow 10 power.toNat) (Nat.pow 10 (-power).toNat)
    return (number, outside, rest)
  if lower.take 2 = ['0', 'x'] then
    match pointed? isHexDigit (text.drop 2) with
    | none => decimal
    | some (whole, fraction, rest) =>
        let (exponent, rest) := exponent 'p' rest
        let power := exponent - 4 * fraction.length
        let (number, outside) := nearest size negative
          (digitsValue 16 (whole ++ fraction) * Nat.pow 2 power.toNat) (Nat.pow 2 (-power).toNat)
        some (number, outside, rest)
  else if lower.take 8 = "infinity".toList then some (infinite negative, false, text.drop 8)
  else if lower.take 3 = "inf".toList then some (infinite negative, false, text.drop 3)
  else if lower.take 3 = "nan".toList then
    let rest := text.drop 3
    match rest with
    | '(' :: inside =>
        match inside.span fun c => c.isAlphanum || c = '_' with
        | (_, ')' :: behind) => some (notANumber negative, false, behind)
        | _ => some (notANumber negative, false, rest)
    | _ => some (notANumber negative, false, rest)
  else decimal

/-- Reads a number with its sign: the number, whether it is out of range, and what follows. -/
def read? (size : Size) (text : List Char) : Option (Extended × Bool × List Char) :=
  match text with
  | '-' :: body => readMagnitude? size true body
  | '+' :: body => readMagnitude? size false body
  | body => readMagnitude? size false body

/-- The hexadecimal text behind `0x`: the first digit holds one bit of a double and four of a wider
number. -/
def hexText (size : Size) (places : Option Nat) (point : Bool) (units : Nat) : List Char :=
  let first := size.bits - 4 * ((size.bits - 1) / 4)
  let fractionDigits := (size.bits - first) / 4
  let exponent : Nat := max units.log2 (size.bits - first)
  let bits := units * Nat.pow 2 (size.bits - 1) / Nat.pow 2 (max units.log2 52)
  let shown := (places.map (min fractionDigits)).getD fractionDigits
  let rounded := Binary64.nearestQuotient bits (Nat.pow 16 (fractionDigits - shown))
  let digits := Nat.toDigits 16 rounded
  let digits := List.replicate (shown + 1 - digits.length) '0' ++ digits
  let (whole, fraction) := digits.splitAt (digits.length - shown)
  let fraction := match places with
    | some places => fraction ++ List.replicate (places - shown) '0'
    | none => (fraction.reverse.dropWhile (· = '0')).reverse
  let power : Int := if units = 0 then 0 else exponent - 1074 - (first - 1)
  let sign := if power < 0 then '-' else '+'
  whole ++ (if fraction = [] && !point then [] else ['.']) ++ fraction ++
    'p' :: sign :: Nat.toDigits 10 power.natAbs

end Extended

namespace Binary64

/-- Reads a decimal number with a sign, a fraction and an exponent, as far as it goes. -/
def ofDecimal? (text : List Char) : Option (Binary64 × List Char) := do
  let (negative, body) := match text with
    | '-' :: body => (true, body)
    | '+' :: body => (false, body)
    | body => (false, body)
  let (whole, fraction, rest) ← Extended.pointed? Char.isDigit body
  let (exponent, rest) := Extended.exponent 'e' rest
  let power := exponent - fraction.length
  let significand := Extended.digitsValue 10 (whole ++ fraction)
  let units := nearest (significand * Nat.pow 10 power.toNat * one) (Nat.pow 10 (-power).toNat)
  return (⟨negative, units⟩, rest)

end Binary64

end CatalogSeed
