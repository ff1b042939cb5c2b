import CatalogSeed.Number.Extended

/-!
Values of programs over records: numbers, texts, and texts that count as numbers too because they
were read and look like one.
-/

namespace CatalogSeed.Binary64

/-- A number without rounding; what is too large is infinite. -/
def toFloat (number : Binary64) : Float :=
  let least := Nat.pow 2 52
  let size :=
    if limit ≤ number.units then 2047 * least
    else if number.units < least then number.units
    else
      let shift := number.units.log2 - 52
      shift * least + number.units / Nat.pow 2 shift
  Float.ofBits (UInt64.ofNat ((if number.negative then Nat.pow 2 63 else 0) + size))

/-- A finite number. -/
def ofFloat? (value : Float) : Option Binary64 :=
  if !value.isFinite then none
  else
    let least := Nat.pow 2 52
    let bits := value.toBits.toNat
    let exponent := bits / least % 2048
    let fraction := bits % least
    some ⟨Nat.pow 2 63 ≤ bits,
      if exponent = 0 then fraction else (least + fraction) * Nat.pow 2 (exponent - 1)⟩

/-- The whole part of a number. -/
def truncate (number : Binary64) : Int :=
  let whole : Int := (number.units / one : Nat)
  if number.negative then -whole else whole

end CatalogSeed.Binary64

namespace CatalogSeed.Utility.Awk

inductive Value
  | number (number : Float)
  | text (text : String)
  | both (text : String) (number : Float)
  | unset

def isBlank (c : Char) : Bool :=
  c = ' ' || 9 ≤ c.toNat && c.toNat ≤ 13

def isHexDigit (c : Char) : Bool :=
  c.isDigit || 'a' ≤ c.toLower && c.toLower ≤ 'f'

def hexValue (c : Char) : Nat :=
  if c.isDigit then c.toNat - 48 else c.toLower.toNat - 87

/-- The number at the front of a text, and what stands behind it. -/
def numberAtFront? (text : List Char) : Option (Float × List Char) :=
  let (negative, body) := match text with
    | '-' :: body => (true, body)
    | '+' :: body => (false, body)
    | body => (false, body)
  let front := (body.take 3).map Char.toLower
  let zero : Float := 0
  let signed (value : Float) : Float := if negative then -value else value
  let (digits, behind) := (body.drop 2).span isHexDigit
  if front.take 2 = ['0', 'x'] ∧ digits ≠ [] then
    let value := digits.foldl (fun value c => 16 * value + hexValue c) 0
    some (signed value.toFloat, behind)
  else match Binary64.ofDecimal? text with
  | some (number, rest) => some (number.toFloat, rest)
  | none =>
      if front = "inf".toList then
        let rest := if (body.take 8).map Char.toLower = "infinity".toList then body.drop 8
          else body.drop 3
        some (signed (1 / zero), rest)
      else if front = "nan".toList then some (signed (0 / zero), body.drop 3)
      else none

def numberOf (text : String) : Float :=
  match numberAtFront? (text.toList.dropWhile isBlank) with
  | some (number, _) => number
  | none => 0

/-- A text that was read. -/
def Value.ofInput (text : String) : Value :=
  match numberAtFront? (text.toList.dropWhile isBlank) with
  | some (n, rest) => if rest.all isBlank then .both text n else .text text
  | none => .text text

def Value.toNumber : Value → Float
  | .number n | .both _ n => n
  | .text t => numberOf t
  | .unset => 0

/-- The number of a value that does not compare as a text. -/
def Value.plainNumber? : Value → Option Float
  | .number n | .both _ n => some n
  | .unset => some 0
  | .text _ => none

def Value.isTrue : Value → Bool
  | .number n | .both _ n => n != 0
  | .text t => t ≠ ""
  | .unset => false

def Value.ofBool (b : Bool) : Value := .number (if b then 1 else 0)

def Value.ofNat (n : Nat) : Value := .number n.toFloat

/-- The text of a number that has no decimal digits. -/
def specialText (value : Float) : String :=
  if value.isNaN then (if value.toBits.toNat < Nat.pow 2 63 then "nan" else "-nan")
  else if value < 0 then "-inf" else "inf"

/-- The integer that a number is, unless it is too large for one. -/
def integer? (value : Float) : Option Int :=
  (Binary64.ofFloat? value).bind fun number =>
    if number.units % Binary64.one = 0 ∧ number.units < Nat.pow 2 64 * Binary64.one then
      some number.truncate
    else none

/-- The integer that a number is cut off to, as far as 64 bits reach. -/
def cutOff (value : Float) : Int :=
  let most : Int := (Nat.pow 2 63 : Nat)
  match Binary64.ofFloat? value with
  | some number => max (-most) (min (most - 1) number.truncate)
  | none => if value < 0 ∨ value.isNaN then -most else most - 1

/-- The remainder of a division cut off to an integer; it has the sign of the dividend. -/
def remainder (left right : Float) : Float :=
  match Binary64.ofFloat? left, Binary64.ofFloat? right with
  | some left, some right =>
      if right.units = 0 then 0 / (0 : Float)
      else ({ left with units := left.units % right.units } : Binary64).toFloat
  | some _, none => if right.isNaN then right else left
  | none, _ => 0 / (0 : Float)

def toPower (base exponent : Float) : Float := Float.pow base exponent

def arithmetic (operator : Char) (left right : Float) : Float :=
  match operator with
  | '+' => left + right
  | '-' => left - right
  | '*' => left * right
  | '/' => left / right
  | '%' => remainder left right
  | _ => toPower left right

end CatalogSeed.Utility.Awk
