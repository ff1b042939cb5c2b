import CatalogSeed.Json.Printer
import CatalogSeed.Text.Quoted

/-!
What can be wrong with a document, and where. A reader that fails tells how many bytes were left;
line and column are worked out from that once, at the end.
-/

namespace CatalogSeed

/-- What stood where something else was wanted. -/
inductive Found
  | null
  | flag (value : Bool)
  | number (value : Number)
  | text (value : String)
  | sequence
  | map

def Found.describe : Found → String
  | .null => "null"
  | .flag value => "boolean `" ++ (if value then "true" else "false") ++ "`"
  | .number (.whole n) => "integer `" ++ String.ofList (Number.whole n).text ++ "`"
  | .number (.real x) => "floating point `" ++ String.ofList x.text ++ "`"
  | .text value => "string " ++ Text.quoted value
  | .sequence => "sequence"
  | .map => "map"

inductive Cause
  | endInValue
  | endInString
  | endInArray
  | endInObject
  | colonWanted
  | arrayGoesOn
  | objectGoesOn
  | wordWanted
  | valueWanted
  | badEscape
  | badNumber
  | numberTooLarge
  | illFormedText
  | controlInString
  | keyNotString
  | loneSurrogate
  | unpairedSurrogate
  | trailingComma
  | trailingBytes
  | nestedTooDeep
  | wrongType (found : Found) (wanted : String)
  | integerTooLarge (value : Whole)
  | tooFewElements (count : Nat) (label : String) (wanted : Nat)
  | missingMember (key : String)
  | repeatedMember (key : String)
  | unknownName (name : String) (known : List String)

/-- The names to choose from, as a message lists them. -/
def Cause.alternatives (known : List String) : String :=
  " or ".intercalate (known.map fun name => "`" ++ name ++ "`")

def Cause.message : Cause → String
  | .endInValue => "EOF while parsing a value"
  | .endInString => "EOF while parsing a string"
  | .endInArray => "EOF while parsing a list"
  | .endInObject => "EOF while parsing an object"
  | .colonWanted => "expected `:`"
  | .arrayGoesOn => "expected `,` or `]`"
  | .objectGoesOn => "expected `,` or `\x7d`"
  | .wordWanted => "expected ident"
  | .valueWanted => "expected value"
  | .badEscape => "invalid escape"
  | .badNumber => "invalid number"
  | .numberTooLarge => "number out of range"
  | .illFormedText => "invalid unicode code point"
  | .controlInString => "control character (\\u0000-\\u001F) found while parsing a string"
  | .keyNotString => "key must be a string"
  | .loneSurrogate => "lone leading surrogate in hex escape"
  | .unpairedSurrogate => "unexpected end of hex escape"
  | .trailingComma => "trailing comma"
  | .trailingBytes => "trailing characters"
  | .nestedTooDeep => "recursion limit exceeded"
  | .wrongType found wanted => "invalid type: " ++ found.describe ++ ", expected " ++ wanted
  | .integerTooLarge value =>
      "invalid value: " ++ (Found.number (.whole value)).describe ++ ", expected i64"
  | .tooFewElements count label wanted =>
      "invalid length " ++ String.ofList (Nat.toDigits 10 count) ++ ", expected struct " ++
        label ++ " with " ++ String.ofList (Nat.toDigits 10 wanted) ++
        (if wanted = 1 then " element" else " elements")
  | .missingMember key => "missing field `" ++ key ++ "`"
  | .repeatedMember key => "duplicate field `" ++ key ++ "`"
  | .unknownName name known =>
      "unknown variant `" ++ name ++ "`, expected " ++ alternatives known

/-- A cause, and how many bytes lay behind the place it is reported at. -/
structure Failure where
  cause : Cause
  remaining : Nat

/-- A reader gives what it read and the bytes behind it. -/
abbrev Reader (α : Type) := List UInt8 → Except Failure (α × List UInt8)

namespace Failure

/-- A failure behind what was already read. -/
def here (cause : Cause) (rest : List UInt8) : Failure :=
  ⟨cause, rest.length⟩

/-- A failure at the next byte, if there is one. -/
def next (cause : Cause) (rest : List UInt8) : Failure :=
  ⟨cause, rest.length - 1⟩

end Failure

/-- A failure with its place in the document: lines count from one, and a column is the number of
bytes of its line up to the place. -/
structure DocumentError where
  cause : Cause
  line : Nat
  column : Nat

namespace DocumentError

def locate (document : List UInt8) (failure : Failure) : DocumentError :=
  let before := document.take (document.length - failure.remaining)
  ⟨failure.cause, before.count 0x0A + 1, (before.reverse.takeWhile (· ≠ 0x0A)).length⟩

def message (error : DocumentError) : String :=
  error.cause.message ++ " at line " ++ String.ofList (Nat.toDigits 10 error.line) ++
    " column " ++ String.ofList (Nat.toDigits 10 error.column)

end DocumentError

end CatalogSeed
