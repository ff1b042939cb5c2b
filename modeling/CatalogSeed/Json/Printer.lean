import CatalogSeed.Json.Basic
import CatalogSeed.Number.Shortest

/-!
JSON trees as text: on one line, or with every item on a line of its own.
-/

namespace CatalogSeed

def Number.text : Number → List Char
  | .whole n =>
      let digits := Nat.toDigits 10 n.val.natAbs
      if n.val < 0 then '-' :: digits else digits
  | .real x => x.text

namespace Json

def hexDigits (n : Nat) : List Char :=
  [Nat.digitChar (n / 16), Nat.digitChar (n % 16)]

/-- Quotes, backslashes and controls are written as escapes, all else as itself. -/
def escape (c : Char) : List Char :=
  if c = '"' then ['\\', '"']
  else if c = '\\' then ['\\', '\\']
  else if c = '\x08' then ['\\', 'b']
  else if c = '\x0c' then ['\\', 'f']
  else if c = '\n' then ['\\', 'n']
  else if c = '\r' then ['\\', 'r']
  else if c = '\t' then ['\\', 't']
  else if c.toNat < 32 then '\\' :: 'u' :: '0' :: '0' :: hexDigits c.toNat
  else [c]

def quote (text : String) : List Char :=
  '"' :: (text.toList.flatMap escape ++ ['"'])

mutual

def compact : Json → List Char
  | .null => ['n', 'u', 'l', 'l']
  | .bool true => ['t', 'r', 'u', 'e']
  | .bool false => ['f', 'a', 'l', 's', 'e']
  | .number value => value.text
  | .string value => quote value
  | .array items => '[' :: (compactItems items ++ [']'])
  | .object members => '{' :: (compactMembers members ++ ['}'])

def compactItems : List Json → List Char
  | [] => []
  | [item] => compact item
  | item :: rest => compact item ++ ',' :: compactItems rest

def compactMembers : List (String × Json) → List Char
  | [] => []
  | [(key, value)] => quote key ++ ':' :: compact value
  | (key, value) :: rest => quote key ++ ':' :: (compact value ++ ',' :: compactMembers rest)

end

def newLine (depth : Nat) : List Char :=
  '\n' :: List.replicate (2 * depth) ' '

mutual

/-- Two spaces for each level; what is empty stays on its line. -/
def pretty (depth : Nat) : Json → List Char
  | .null => ['n', 'u', 'l', 'l']
  | .bool true => ['t', 'r', 'u', 'e']
  | .bool false => ['f', 'a', 'l', 's', 'e']
  | .number value => value.text
  | .string value => quote value
  | .array [] => ['[', ']']
  | .array (item :: rest) =>
      '[' :: (newLine (depth + 1) ++ pretty (depth + 1) item ++
        prettyItems (depth + 1) rest ++ newLine depth ++ [']'])
  | .object [] => ['{', '}']
  | .object ((key, value) :: rest) =>
      '{' :: (newLine (depth + 1) ++ quote key ++ ':' :: ' ' :: pretty (depth + 1) value ++
        prettyMembers (depth + 1) rest ++ newLine depth ++ ['}'])

/-- The items after the first. -/
def prettyItems (depth : Nat) : List Json → List Char
  | [] => []
  | item :: rest => ',' :: (newLine depth ++ pretty depth item ++ prettyItems depth rest)

/-- The members after the first. -/
def prettyMembers (depth : Nat) : List (String × Json) → List Char
  | [] => []
  | (key, value) :: rest =>
      ',' :: (newLine depth ++ quote key ++ ':' :: ' ' :: pretty depth value ++
        prettyMembers depth rest)

end

end Json

end CatalogSeed
