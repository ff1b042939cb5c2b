import CatalogSeed.Document.Token

/-!
Passing over a value that nobody asked for. Its syntax is checked and nothing else: numbers may
have any size, escapes any surrogates, strings any bytes, and there is no limit to nesting.
-/

namespace CatalogSeed.Document

/-- Where the passing over a string stands: between characters, behind a backslash, or within
four hexadecimal digits. -/
inductive SkipState
  | between
  | escape
  | hex (digits : List UInt8)

/-- Passes over the content of a string, up to and with its closing quote. -/
def skipString : SkipState → List UInt8 → Except Failure (List UInt8)
  | _, [] => .error (.here .endInString [])
  | .between, b :: rest =>
      if b = 0x22 then .ok rest
      else if b = 0x5C then skipString .escape rest
      else if b < 0x20 then .error (.here .controlInString (b :: rest))
      else skipString .between rest
  | .escape, b :: rest =>
      if b = 0x75 then skipString (.hex []) rest
      else if (shortEscape? b).isSome then skipString .between rest
      else .error (.here .badEscape rest)
  | .hex digits, b :: rest =>
      if digits.length < 3 then skipString (.hex (digits ++ [b])) rest
      else if (hexValue? (digits ++ [b])).isSome then skipString .between rest
      else .error (.here .badEscape rest)

inductive Bracket
  | array
  | object
  deriving DecidableEq

namespace Bracket

def closing : Bracket → UInt8
  | array => 0x5D
  | object => 0x7D

def atEnd : Bracket → Cause
  | array => .endInArray
  | object => .endInObject

def goesOn : Bracket → Cause
  | array => .arrayGoesOn
  | object => .objectGoesOn

end Bracket

/-- Passes over a key and its colon, where one must come. -/
def skipKey (bytes : List UInt8) : Except Failure (List UInt8) := do
  match skipBlanks bytes with
  | [] => .error (.next .endInObject [])
  | b :: rest =>
      if b ≠ 0x22 then .error (.next .keyNotString (b :: rest))
      else
        let rest ← skipString .between rest
        match skipBlanks rest with
        | [] => .error (.next .endInObject [])
        | b :: rest => if b = 0x3A then .ok rest else .error (.next .colonWanted (b :: rest))

/-- What is passed over next: a value, or whatever follows one. -/
inductive SkipStep
  | value
  | follow

/-- Passes over values and brackets until none of the open brackets is left. Each round reads at
least one byte, so the number of bytes is fuel enough. -/
def skipOpen : Nat → SkipStep → List Bracket → List UInt8 → Except Failure (List UInt8)
  | 0, _, _, bytes => .ok bytes
  | _ + 1, .follow, [], bytes => .ok bytes
  | fuel + 1, .follow, bracket :: outer, bytes =>
      match skipBlanks bytes with
      | [] => .error (.next bracket.atEnd [])
      | b :: rest =>
          if b = 0x2C then
            match bracket with
            | .array => skipOpen fuel .value (bracket :: outer) rest
            | .object => skipKey rest >>= skipOpen fuel .value (bracket :: outer)
          else if b = bracket.closing then skipOpen fuel .follow outer rest
          else .error (.next bracket.goesOn (b :: rest))
  | fuel + 1, .value, opened, bytes =>
      match skipBlanks bytes with
      | [] => .error (.next .endInValue [])
      | b :: rest =>
          if b = 0x5B then
            match skipBlanks rest with
            | [] => .error (.next .endInArray [])
            | c :: later =>
                if c = 0x5D then skipOpen fuel .follow opened later
                else skipOpen fuel .value (.array :: opened) (c :: later)
          else if b = 0x7B then
            match skipBlanks rest with
            | [] => .error (.next .endInObject [])
            | c :: later =>
                if c = 0x7D then skipOpen fuel .follow opened later
                else skipKey (c :: later) >>= skipOpen fuel .value (.object :: opened)
          else if b = 0x6E then word wordNull rest >>= skipOpen fuel .follow opened
          else if b = 0x74 then word wordTrue rest >>= skipOpen fuel .follow opened
          else if b = 0x66 then word wordFalse rest >>= skipOpen fuel .follow opened
          else if b = 0x22 then skipString .between rest >>= skipOpen fuel .follow opened
          else if b = 0x2D then do
            let (_, rest) ← numeral .badNumber true rest
            skipOpen fuel .follow opened rest
          else if isDigit b then do
            let (_, rest) ← numeral .badNumber false (b :: rest)
            skipOpen fuel .follow opened rest
          else .error (.next .valueWanted (b :: rest))

def skipValue (bytes : List UInt8) : Except Failure (List UInt8) :=
  skipOpen (bytes.length + 1) .value [] bytes

end CatalogSeed.Document
