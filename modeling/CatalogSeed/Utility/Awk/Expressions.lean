import CatalogSeed.Utility.Awk.Reader
import CatalogSeed.Utility.Awk.Tree

/-!
Reading expressions. Operators have levels; those of later levels bind more tightly.
-/

namespace CatalogSeed.Utility.Awk

open Awk.Parser

/-- The binary operators of a level; they bind more tightly on later levels. -/
def operatorsOf : Nat → List String
  | 1 => ["||"]
  | 2 => ["&&"]
  | 4 => ["~", "!~"]
  | 5 => ["<", "<=", "==", "!=", ">", ">="]
  | 7 => ["+", "-"]
  | 8 => ["*", "/", "%"]
  | _ => []

def combine (operator : String) (left right : Expression) : Expression :=
  match operator with
  | "||" => .either left right
  | "&&" => .both left right
  | "~" => .fits false left right
  | "!~" => .fits true left right
  | "+" | "-" | "*" | "/" | "%" => .arithmetic (operator.toList.headD '+') left right
  | _ => .compare operator left right

/-- Whether a token can begin a value that is joined to the one before. -/
def beginsOperand : Token → Bool
  | .number _ | .text _ | .regex _ | .name _ | .function _ | .builtin _ => true
  | .sign t => ["$", "!", "(", "++", "--"].contains t
  | _ => false

/-- The operators that give a value to what stands before them. -/
def assignment? : Token → Option (Option Char)
  | .sign "=" => some none
  | .sign t =>
      if ["+=", "-=", "*=", "/=", "%=", "^="].contains t then some t.toList.head? else none
  | _ => none

mutual

/-- Reads an expression. -/
def expression : Nat → Place → Parser Expression
  | 0, _ => fail
  | fuel + 1, place => do
      let test ← level fuel place 1
      if ← takes "?" then
        skipLines
        let whenTrue ← expression fuel place
        skipLines
        expect ":"
        skipLines
        return .choose test whenTrue (← expression fuel place)
      else return test

/-- Reads operators of a level and of those behind it. -/
def level : Nat → Place → Nat → Parser Expression
  | 0, _, _ => fail
  | fuel + 1, place, 9 => do
      if ← takes "!" then return .not (← level fuel place 9)
      else if ← takes "-" then return .sign true (← level fuel place 9)
      else if ← takes "+" then return .sign false (← level fuel place 9)
      else
        let base ← counted fuel place
        if ← takes "^" then return .arithmetic '^' base (← level fuel place 9)
        else return base
  | fuel + 1, place, n => do further fuel place n (← level fuel place (n + 1))

/-- Reads the operators of a level behind a value. -/
def further : Nat → Place → Nat → Expression → Parser Expression
  | 0, _, _, _ => fail
  | fuel + 1, place, n, left => do
      let some token ← peek? | return left
      match n, token with
      | 3, .word "in" =>
          if place.asks then
            skip
            let keys := match left with
              | .grouped items => items
              | key => [key]
            further fuel place n (.isIn keys (← takeName))
          else return left
      | 5, .sign "|" =>
          let reads := ((← get).rest[1]?.map fun (next, _) => next.isWord "getline").getD false
          if !reads then return left
          skip
          skip
          further fuel place n (.readAnswer (← target? fuel place) left)
      | 6, token =>
          if beginsOperand token then
            further fuel place n (.join left (← level fuel place 7))
          else return left
      | n, .sign operator =>
          if (operatorsOf n).contains operator ∧ (place.compares ∨ operator ≠ ">") then
            skip
            if n ≤ 2 then skipLines
            further fuel place n (combine operator left (← level fuel place (n + 1)))
          else return left
      | _, _ => return left

/-- Reads a value with what counts it up or down, or gives it a new value. -/
def counted : Nat → Place → Parser Expression
  | 0, _ => fail
  | fuel + 1, place => do
      if ← takes "++" then counting fuel place true
      else if ← takes "--" then counting fuel place false
      else
        let value ← primary fuel place
        if !value.isTarget then return value
        else if ← takes "++" then return .count value true false
        else if ← takes "--" then return .count value false false
        else match (← peek?).bind assignment? with
          | some operator =>
              skip
              skipLines
              return .assign value operator (← expression fuel place)
          | none => return value

/-- Reads what is counted before its value is taken. -/
def counting : Nat → Place → Bool → Parser Expression
  | 0, _, _ => fail
  | fuel + 1, place, up => do
      let target ← primary fuel place
      if target.isTarget then return .count target up true else fail

/-- Reads a target if one comes next. -/
def target? : Nat → Place → Parser (Option Expression)
  | 0, _ => fail
  | fuel + 1, place => do
      match ← peek? with
      | some (.name _) | some (.sign "$") => return some (← primary fuel place)
      | _ => return none

/-- Reads expressions with commas between them up to a closing sign. -/
def expressions : Nat → String → Parser (List Expression)
  | 0, _ => fail
  | fuel + 1, closing => do
      skipLines
      if ← takes closing then return []
      let first ← expression fuel inside
      skipLines
      if ← takes "," then return first :: (← expressions fuel closing)
      else
        expect closing
        return [first]

/-- Reads a value without operators, fields apart. -/
def primary : Nat → Place → Parser Expression
  | 0, _ => fail
  | fuel + 1, place => do
      match ← peek? with
      | some (.number value) =>
          skip
          return .number value
      | some (.text text) =>
          skip
          return .text text
      | some (.regex text) =>
          skip
          return .regex text
      | some (.name name) =>
          skip
          if ← takes "[" then return .element name (← expressions fuel "]")
          else return .name name
      | some (.function name) =>
          skip
          expect "("
          modify fun reader => { reader with called := name :: reader.called }
          return .call name (← expressions fuel ")")
      | some (.builtin name) =>
          skip
          let arguments ← if ← takes "(" then expressions fuel ")" else pure []
          match builtins.lookup name with
          | some (least, most) =>
              if least ≤ arguments.length ∧ arguments.length ≤ most then
                return .builtin name arguments
              else complain ("wrong number of arguments in call to " ++ name)
          | none => fail
      | some (.word "getline") =>
          skip
          let target ← target? fuel place
          if ← takes "<" then return .readLine target (some (← primary fuel place))
          else return .readLine target none
      | some (.sign "$") =>
          skip
          if ← takes "++" then return .field (← counting fuel place true)
          else if ← takes "--" then return .field (← counting fuel place false)
          else if ← takes "-" then return .field (.sign true (← primary fuel place))
          else return .field (← primary fuel place)
      | some (.sign "(") =>
          skip
          match ← expressions fuel ")" with
          | [] => fail
          | [value] => return value
          | items => return .grouped items
      | _ => fail

end

end CatalogSeed.Utility.Awk
