import CatalogSeed.Document.Fault
import CatalogSeed.Text.Utf8

/-!
The smallest parts of a document: blanks, words, strings and numbers.
-/

namespace CatalogSeed.Document

def isBlank (b : UInt8) : Bool :=
  b = 0x20 || b = 0x0A || b = 0x09 || b = 0x0D

def skipBlanks (bytes : List UInt8) : List UInt8 :=
  bytes.dropWhile isBlank

/-- Reads the rest of a word whose first letter told which it is. -/
def word : List UInt8 → List UInt8 → Except Failure (List UInt8)
  | [], rest => .ok rest
  | _ :: _, [] => .error (.here .endInValue [])
  | letter :: letters, b :: rest =>
      if b = letter then word letters rest else .error (.here .wordWanted rest)

def wordNull : List UInt8 := [0x75, 0x6C, 0x6C]
def wordTrue : List UInt8 := [0x72, 0x75, 0x65]
def wordFalse : List UInt8 := [0x61, 0x6C, 0x73, 0x65]

def hexDigit? (b : UInt8) : Option Nat :=
  if 0x30 ≤ b ∧ b ≤ 0x39 then some (b.toNat - 0x30)
  else if 0x41 ≤ b ∧ b ≤ 0x46 then some (b.toNat - 0x37)
  else if 0x61 ≤ b ∧ b ≤ 0x66 then some (b.toNat - 0x57)
  else none

def hexValue? (digits : List UInt8) : Option Nat :=
  digits.foldlM (fun value digit => (hexDigit? digit).map (16 * value + ·)) 0

/-- What a backslash and one letter stand for. -/
def shortEscape? (b : UInt8) : Option UInt8 :=
  if b = 0x22 ∨ b = 0x5C ∨ b = 0x2F then some b
  else if b = 0x62 then some 0x08
  else if b = 0x66 then some 0x0C
  else if b = 0x6E then some 0x0A
  else if b = 0x72 then some 0x0D
  else if b = 0x74 then some 0x09
  else none

/-- Where the reading of a string stands: between characters, behind a backslash, within four
hexadecimal digits, or behind a high surrogate that wants a low one. -/
inductive StringState
  | between
  | escape
  | hex (high : Option Nat) (digits : List UInt8)
  | high (value : Nat)
  | highEscape (value : Nat)

def scalarBytes (code : Nat) : List UInt8 :=
  String.utf8EncodeChar (Char.ofNat code)

/-- Reads the content of a string, up to and with its closing quote, as bytes. `before` holds
what was read of it so far, the latest byte first. -/
def stringBytes : StringState → List UInt8 → Reader (List UInt8)
  | _, _, [] => .error (.here .endInString [])
  | .between, before, b :: rest =>
      if b = 0x22 then .ok (before.reverse, rest)
      else if b = 0x5C then stringBytes .escape before rest
      else if b < 0x20 then .error (.here .controlInString rest)
      else stringBytes .between (b :: before) rest
  | .escape, before, b :: rest =>
      if b = 0x75 then stringBytes (.hex none []) before rest
      else match shortEscape? b with
        | some c => stringBytes .between (c :: before) rest
        | none => .error (.here .badEscape rest)
  | .hex high digits, before, b :: rest =>
      if digits.length < 3 then stringBytes (.hex high (digits ++ [b])) before rest
      else match hexValue? (digits ++ [b]), high with
        | none, _ => .error (.here .badEscape rest)
        | some value, none =>
            if 0xDC00 ≤ value ∧ value < 0xE000 then .error (.here .loneSurrogate rest)
            else if 0xD800 ≤ value ∧ value < 0xDC00 then stringBytes (.high value) before rest
            else stringBytes .between ((scalarBytes value).reverse ++ before) rest
        | some value, some first =>
            if 0xDC00 ≤ value ∧ value < 0xE000 then
              let code := 0x10000 + 0x400 * (first - 0xD800) + (value - 0xDC00)
              stringBytes .between ((scalarBytes code).reverse ++ before) rest
            else .error (.here .loneSurrogate rest)
  | .high value, before, b :: rest =>
      if b = 0x5C then stringBytes (.highEscape value) before rest
      else .error (.here .unpairedSurrogate rest)
  | .highEscape value, before, b :: rest =>
      if b = 0x75 then stringBytes (.hex (some value) []) before rest
      else .error (.here .unpairedSurrogate rest)

/-- Reads a string whose opening quote has been read. Ill-formed content is reported only when
all of the string is there, at its first ill-formed byte. -/
def string : Reader String := fun bytes => do
  let (content, rest) ← stringBytes .between [] bytes
  match Utf8.decode content with
  | some text => .ok (text, rest)
  | none => .error ⟨.illFormedText, rest.length + Utf8.illFormed content⟩

def isDigit (b : UInt8) : Bool :=
  0x30 ≤ b && b ≤ 0x39

def digitValue (b : UInt8) : Nat :=
  b.toNat - 0x30

/-- A number as it is written. -/
structure Numeral where
  negative : Bool
  whole : List Nat
  fraction : List Nat
  exponent : Option (Bool × List Nat)
  deriving DecidableEq

def digits (bytes : List UInt8) : List Nat × List UInt8 :=
  ((bytes.takeWhile isDigit).map digitValue, bytes.dropWhile isDigit)

def wholeDigits (atEnd : Cause) : Reader (List Nat)
  | [] => .error (.here atEnd [])
  | b :: rest =>
      if b = 0x30 then
        match rest with
        | [] => .ok ([0], [])
        | c :: later =>
            if isDigit c then .error (.next .badNumber (c :: later)) else .ok ([0], c :: later)
      else if isDigit b then .ok (digits (b :: rest))
      else .error (.here .badNumber rest)

def fractionDigits (atEnd : Cause) : Reader (List Nat)
  | 0x2E :: rest =>
      match digits rest with
      | ([], []) => .error (.here atEnd [])
      | ([], b :: later) => .error (.next .badNumber (b :: later))
      | found => .ok found
  | bytes => .ok ([], bytes)

/-- The sign of an exponent, `true` for a negative one. -/
def exponentSign : List UInt8 → Bool × List UInt8
  | 0x2B :: rest => (false, rest)
  | 0x2D :: rest => (true, rest)
  | bytes => (false, bytes)

def exponentDigits (atEnd : Cause) : Reader (Option (Bool × List Nat))
  | [] => .ok (none, [])
  | b :: rest =>
      if b = 0x65 ∨ b = 0x45 then
        let (negative, rest) := exponentSign rest
        match digits rest, rest with
        | ([], _), [] => .error (.here atEnd [])
        | ([], _), _ :: later => .error (.here .badNumber later)
        | (found, later), _ => .ok (some (negative, found), later)
      else .ok (none, b :: rest)

/-- Reads a number whose sign has been read; `atEnd` says what it is when the document ends
within it. -/
def numeral (atEnd : Cause) (negative : Bool) : Reader Numeral := fun bytes => do
  let (whole, bytes) ← wholeDigits atEnd bytes
  let (fraction, bytes) ← fractionDigits atEnd bytes
  let (exponent, bytes) ← exponentDigits atEnd bytes
  .ok (⟨negative, whole, fraction, exponent⟩, bytes)

/-- Takes up digits while the significand stays below 2 ^ 64, and counts those left over. -/
def absorb (significand : Nat) : List Nat → Nat × Nat
  | [] => (significand, 0)
  | digit :: rest =>
      if 10 * significand + digit < 0x10000000000000000 then absorb (10 * significand + digit) rest
      else (significand, rest.length + 1)

/-- The value of exponent digits; past 2 ^ 31 it is the number of digits not yet looked at. -/
def exponentValue (value : Nat) : List Nat → Except Nat Nat
  | [] => .ok value
  | digit :: rest =>
      if 10 * value + digit < 0x80000000 then exponentValue (10 * value + digit) rest
      else .error rest.length

/-- An integer that fits keeps its value; zero with a sign does not count as one. -/
def Numeral.integer? (significand : Nat) (negative : Bool) : Option Whole :=
  if negative then
    if fits : 0 < significand ∧ significand ≤ 0x8000000000000000 then
      some ⟨-(significand : Int), by omega, by omega⟩
    else none
  else if fits : significand < 0x10000000000000000 then some ⟨significand, by omega, by omega⟩
  else none

/-- The number written, or how many of its digits were left when it turned out too large. At most
nineteen digits of the significand count, and the scaling by powers of ten rounds at each step. -/
def Numeral.value (numeral : Numeral) : Except Nat Number :=
  let (significand, beyond) := absorb 0 numeral.whole
  let whole := match numeral.fraction, numeral.exponent, beyond with
    | [], none, 0 => integer? significand numeral.negative
    | _, _, _ => none
  match whole with
  | some n => .ok (.whole n)
  | none =>
      let (significand, unused) := absorb significand numeral.fraction
      let point : Int := (beyond : Int) - ((numeral.fraction.length - unused : Nat) : Int)
      let (negativeExponent, digits) := numeral.exponent.getD (false, [])
      let real (units : Nat) : Number := .real ⟨numeral.negative, units⟩
      match exponentValue 0 digits with
      | .ok exponent =>
          let power := if negativeExponent then point - exponent else point + exponent
          match Binary64.scaleByTen 4 (Binary64.ofNat significand) power with
          | some units => .ok (real units)
          | none => .error 0
      | .error unread =>
          if significand ≠ 0 ∧ !negativeExponent then .error unread else .ok (real 0)

/-- Reads a number, as `numeral` does, and its value. -/
def number (negative : Bool) : Reader Number := fun bytes => do
  let (written, rest) ← numeral .endInValue negative bytes
  match written.value with
  | .ok value => .ok (value, rest)
  | .error unread => .error ⟨.numberTooLarge, rest.length + unread⟩

end CatalogSeed.Document
