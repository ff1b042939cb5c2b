import CatalogSeed.Script.Reader

/-!
Numbers in scripts: 64 bits with a sign, written as in C or to a base that stands in front.
-/

namespace CatalogSeed.Script

/-- The number of 64 bits with sign that is equal to this one but for multiples of 2^64. -/
def wrap (n : Int) : Int :=
  n.bmod 0x10000000000000000

def largestNumber : Int := 0x7fffffffffffffff

def smallestNumber : Int := -0x8000000000000000

def isSpace (c : Char) : Bool :=
  c = ' ' || 9 ≤ c.toNat && c.toNat ≤ 13

def digitValue (c : Char) : Nat :=
  if c.isDigit then c.toNat - '0'.toNat
  else if c.isAlpha then c.toLower.toNat - 'a'.toNat + 10
  else 99

/-- Reads digits of a base; without any, nothing is read. -/
def digits (base : Nat) (text : List Char) : Option (Nat × List Char) :=
  let (digits, rest) := text.span fun c => digitValue c < base
  if digits = [] then none
  else some (digits.foldl (fun value c => value * base + digitValue c) 0, rest)

/-- Reads a number with the mark of its base: octal behind a zero, hexadecimal behind `0x`. -/
def natural (text : List Char) : Option (Nat × List Char) :=
  match text with
  | '0' :: x :: rest =>
      let hexadecimal := if x = 'x' ∨ x = 'X' then digits 16 rest else none
      hexadecimal.or (digits 8 ('0' :: x :: rest))
  | '0' :: rest => some (0, rest)
  | text => digits 10 text

/-- Reads a number behind blanks and a sign, with a base or as C writes it. -/
def integer (anyBase : Bool) (text : List Char) : Option (Int × List Char) :=
  let (negative, body) := match text.dropWhile isSpace with
    | '-' :: body => (true, body)
    | '+' :: body => (false, body)
    | body => (false, body)
  (if anyBase then natural body else digits 10 body).map fun (value, rest) =>
    (if negative then -(value : Int) else value, rest)

/-- The number that a whole text gives, within 64 bits; blanks may stand around it. -/
def number? (anyBase : Bool) (text : String) : Option Int :=
  match integer anyBase text.toList with
  | some (value, rest) =>
      if rest.all isSpace && smallestNumber ≤ value && value ≤ largestNumber then some value
      else none
  | none => if anyBase && text.all isSpace then some 0 else none

/-- The value of a digit where there can be more than 36: small letters come before capitals. -/
def wideDigit (base : Nat) (c : Char) : Nat :=
  if base ≤ 36 then digitValue c
  else if c.isDigit then c.toNat - 48
  else if c.isLower then c.toNat - 87
  else if c.isUpper then c.toNat - 29
  else if c = '@' then 62
  else if c = '_' then 63
  else 99

/-- The value of a number that may have its base in front of a sign, or what is wrong with it. -/
def basedNumber (text : List Char) : Except String Int :=
  let value (base : Nat) (digits : List Char) : Except String Int :=
    if digits.any fun c => base ≤ wideDigit base c then .error "value too great for base"
    else .ok (wrap (digits.foldl (fun value c => value * base + wideDigit base c) 0 : Nat))
  match text.span (· ≠ '#') with
  | (base, '#' :: digits) =>
      let base := base.foldl (fun value c => 10 * value + (c.toNat - 48)) 0
      if base < 2 ∨ 64 < base then .error "invalid arithmetic base"
      else if digits = [] then .error "invalid integer constant"
      else value base digits
  | _ =>
      match text with
      | '0' :: x :: digits =>
          if x = 'x' ∨ x = 'X' then value 16 digits else value 8 (x :: digits)
      | _ => value 10 text

end CatalogSeed.Script
