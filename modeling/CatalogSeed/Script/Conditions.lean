import CatalogSeed.Script.Scan

/-!
Reading conditions between double brackets.
-/

namespace CatalogSeed.Script.Parser

/-- What a condition can ask of one word. -/
def unaryTests : List String :=
  ["-a", "-b", "-c", "-d", "-e", "-f", "-g", "-h", "-k", "-p", "-r", "-s", "-t", "-u", "-w", "-x",
    "-G", "-L", "-N", "-O", "-S", "-o", "-v", "-R", "-z", "-n"]

/-- How a condition can compare two words, besides the signs that redirections have too. -/
def binaryTests : List String :=
  ["=", "==", "!=", "=~", "-eq", "-ne", "-lt", "-le", "-gt", "-ge", "-nt", "-ot", "-ef"]

/-- The line of a token that was just read. -/
def lineOf (token : Token) (reader : Reader) : Nat :=
  match token with
  | .newLine => reader.line - 1
  | _ => reader.line

/-- Complains about an operand that is none. -/
def misplaced {α : Type} (token : Token) (kind operator : String) : Parser α := fun reader =>
  let near := if kind = "binary" then operator else token.text
  .error ⟨lineOf token reader,
    ["unexpected argument \x60" ++ token.text ++ "' to conditional " ++ kind ++ " operator",
      "syntax error near \x60" ++ near ++ "'"], true⟩

/-- Complains about a token where an operator has to be. -/
def lacking {α : Type} (token : Token) : Parser α := fun reader =>
  .error ⟨lineOf token reader,
    ["conditional binary operator expected", "syntax error near \x60" ++ token.text ++ "'"], true⟩

mutual

/-- Reads a condition between double brackets. -/
def either (inner : Inner) : Nat → Parser Test
  | 0 => fail "too deep"
  | fuel + 1 => do
      let first ← both inner fuel
      match ← next inner .nothing with
      | .operator "||" => return .either first (← either inner fuel)
      | token =>
          putAhead token
          return first

def both (inner : Inner) : Nat → Parser Test
  | 0 => fail "too deep"
  | fuel + 1 => do
      let first ← test inner fuel
      match ← next inner .nothing with
      | .operator "&&" => return .both first (← both inner fuel)
      | .newLine => return first
      | token =>
          putAhead token
          return first

/-- Reads a condition without operators between conditions. -/
def test (inner : Inner) : Nat → Parser Test
  | 0 => fail "too deep"
  | fuel + 1 => do
      let operand (kind : String) (operator : String) : Parser Word := do
        match ← next inner .nothing with
        | .word word =>
            if word.plain? = some "]]" then misplaced (.word word) kind operator else return word
        | token => misplaced token kind operator
      match ← next inner { Wanted.nothing with newLines := true } with
      | .operator "(" =>
          let inside ← either inner fuel
          expectOperator inner ")"
          return inside
      | .word word =>
          let text := word.plain?.getD ""
          if text = "]]" then unexpected (.word word) none
          else if text = "!" then return .negated (← test inner fuel)
          else if unaryTests.contains text then return .unary text (← operand "unary" text)
          else
            match ← next inner .nothing with
            | .word operator =>
                let sign := operator.plain?.getD ""
                if sign = "]]" then
                  putAhead (.word operator)
                  return .word word
                else if sign = "=~" then
                  let _ ← takeWhile isBlank ((← remaining) + 1) []
                  return .binary sign word (← expression inner)
                else if binaryTests.contains sign then
                  return .binary sign word (← operand "binary" sign)
                else lacking (.word operator)
            | .redirect none sign =>
                if sign = "<" ∨ sign = ">" then
                  return .binary sign word (← operand "binary" sign)
                else lacking (.redirect none sign)
            | .operator sign =>
                putAhead (.operator sign)
                if ["&&", "||", ")"].contains sign then return .word word
                else lacking (.operator sign)
            | token => lacking token
      | token => unexpected token none

end

end CatalogSeed.Script.Parser
