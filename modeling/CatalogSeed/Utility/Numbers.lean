import CatalogSeed.Script.Printing
import CatalogSeed.Utility.Lines
import CatalogSeed.Utility.Regex

/-!
Utilities that count, or work out expressions of numbers and texts.
-/

namespace CatalogSeed.Utility

/-- A decimal number: digits without their point, and how many stand behind it. -/
structure Decimal where
  digits : Int
  places : Nat

namespace Decimal

def parse? (text : String) : Option Decimal :=
  let (negative, body) := match text.toList with
    | '-' :: body => (true, body)
    | '+' :: body => (false, body)
    | body => (false, body)
  let (whole, rest) := body.span Char.isDigit
  let (decimals, rest) := match rest with
    | '.' :: behind => behind.span Char.isDigit
    | rest => ([], rest)
  let value : Nat := (whole ++ decimals).foldl (fun value c => 10 * value + (c.toNat - 48)) 0
  let signed (value : Nat) : Int := if negative then -(value : Int) else value
  if whole = [] ∧ decimals = [] then none
  else match rest with
    | [] => some ⟨signed value, decimals.length⟩
    | 'e' :: power =>
        if power ≠ [] ∧ power.all Char.isDigit then
          let power := power.foldl (fun value c => 10 * value + (c.toNat - 48)) 0
          some ⟨signed (value * Nat.pow 10 (power - decimals.length)), decimals.length - power⟩
        else none
    | _ => none

/-- The digits of a number that has so many places. -/
def scaled (number : Decimal) (places : Nat) : Int :=
  number.digits * (Nat.pow 10 (places - number.places) : Nat)

/-- A number with so many places, filled up with zeros behind its sign. -/
def render (digits : Int) (places width : Nat) : String :=
  let body := Nat.toDigits 10 digits.natAbs
  let body := List.replicate (places + 1 - body.length) '0' ++ body
  let whole := body.take (body.length - places)
  let text := whole ++ if places = 0 then [] else '.' :: body.drop (body.length - places)
  let sign := if digits < 0 then ['-'] else []
  String.ofList (sign ++ List.replicate (width - sign.length - text.length) '0' ++ text)

end Decimal

/-- How many numbers a sequence may have. -/
def longestSequence : Nat := 1000000

def seq (job : Job) : Result :=
  let isNumber (word : String) : Bool := match word.toList with
    | '-' :: c :: _ => c.isDigit || c = '.'
    | _ => false
  let (options, numbers) := job.arguments.span fun word => !isNumber word
  let job := { job with arguments := if options.all (·.startsWith "-") then
    options ++ "--" :: numbers else job.arguments }
  let long := [("separator", "s", true), ("equal-width", "w", false), ("format", "f", true)]
  match job.call "w" "sf" long true 1 with
  | .error result => result
  | .ok call =>
      let operands := call.operands.filter (· ≠ "--")
      let extra := operands.drop 3
      if let text :: _ := extra then job.usage 1 ("extra operand " ++ quoted text)
      else match operands.find? fun text => (Decimal.parse? text).isNone with
      | some text => job.usage 1 ("invalid floating point argument: " ++ quoted text)
      | none =>
          let counted (first step last : Decimal) (stepText : String) : Result :=
            let places := max first.places step.places
            let whole := max places last.places
            let (start, stride, stop) := (first.scaled whole, step.scaled whole, last.scaled whole)
            if stride = 0 then job.usage 1 ("invalid Zero increment value: " ++ quoted stepText)
            else
              let distance := if 0 < stride then stop - start else start - stop
              let count := if distance < 0 then 0 else distance.toNat / stride.natAbs + 1
              let values := (List.range (min count longestSequence)).map fun index =>
                (start + stride * (index : Nat)).tdiv (Nat.pow 10 (whole - places) : Nat)
              let width := if call.has ["w"] then
                  (values.map fun value => (Decimal.render value places 0).length).foldl max 0
                else 0
              let mark := (call.value? ["s"]).getD "\n"
              let texts := values.map fun value =>
                let text := Decimal.render value places width
                match call.value? ["f"] with
                | some format => (Script.fillIn .program format [text]).text
                | none => text
              if texts.isEmpty then job.output ""
              else job.output (mark.intercalate texts ++ "\n")
          let one : Decimal := ⟨1, 0⟩
          match operands, operands.filterMap Decimal.parse? with
          | [], _ => job.missingOperand
          | _, [last] => counted one one last ""
          | _, [first, last] => counted first one last ""
          | texts, [first, step, last] => counted first step last (texts.getD 1 "")
          | texts, _ => job.usage 1 ("extra operand " ++ quoted (texts.getD 3 ""))

namespace Expression

/-- What is left of an expression, and the word before it. -/
structure Reader where
  rest : List String
  before : String

/-- Where an expression fails: its shape, or its values. -/
abbrev Parser := StateT Reader (Except String)

def fail {α : Type} (message : String) : Parser α := fun _ => .error message

def peek? : Parser (Option String) := return (← get).rest.head?

def take (word : String) : Parser Unit := modify fun reader => ⟨reader.rest.drop 1, word⟩

def next : Parser String := do
  let reader ← get
  match reader.rest with
  | word :: rest =>
      set (⟨rest, word⟩ : Reader)
      return word
  | [] => fail ("syntax error: missing argument after " ++ quoted reader.before)

def number? (text : String) : Option Int :=
  match text.toList with
  | '-' :: digits =>
      if digits ≠ [] ∧ digits.all Char.isDigit then
        ((String.ofList digits).toNat?).map fun value => -(value : Int)
      else none
  | digits =>
      if digits ≠ [] ∧ digits.all Char.isDigit then text.toNat?.map fun value => (value : Int)
      else none

def render (value : Int) : String :=
  if value < 0 then "-" ++ decimal value.natAbs else decimal value.natAbs

/-- Empty texts and zeros count as false. -/
def isFalse (text : String) : Bool :=
  text = "" || number? text = some 0

def ofBool (b : Bool) : String := if b then "1" else "0"

/-- What a pattern matches at the front of a text: its first group, or how much. -/
def matched (text pattern : String) : Parser String := do
  match Regex.parse ⟨false, false⟩ pattern.toList with
  | .error message => fail message
  | .ok regex =>
      let grouped := (pattern.splitOn "\\(").length ≠ 1
      match regex.matchAt? ⟨text.toList.toArray, false, false⟩ 0 with
      | none => return if grouped then "" else "0"
      | some place =>
          if grouped then
            match place.groups.lookup 1 with
            | some (first, stop) => return String.ofList ((text.toList.take stop).drop first)
            | none => return ""
          else return decimal place.position

/-- Operators, the ones that bind most loosely first. -/
def levels : List (List String) :=
  [["|"], ["&"], ["<", "<=", "=", "==", "!=", ">=", ">"], ["+", "-"], ["*", "/", "%"], [":"]]

def compareTexts (operator : String) (order : Ordering) : Bool :=
  match operator with
  | "<" => order = .lt
  | "<=" => order ≠ .gt
  | "!=" => order ≠ .eq
  | ">=" => order ≠ .lt
  | ">" => order = .gt
  | _ => order = .eq

def apply (operator a b : String) : Parser String := do
  match operator with
  | "|" => return if !isFalse a then a else if !isFalse b then b else "0"
  | "&" => return if isFalse a || isFalse b then "0" else a
  | ":" => matched a b
  | _ =>
      if ["+", "-", "*", "/", "%"].contains operator then
        match number? a, number? b with
        | some a, some b =>
            if b = 0 ∧ (operator = "/" ∨ operator = "%") then fail "division by zero"
            return render (match operator with
              | "+" => a + b
              | "-" => a - b
              | "*" => a * b
              | "/" => a.tdiv b
              | _ => a.tmod b)
        | _, _ => fail "non-integer argument"
      else
        let order := match number? a, number? b with
          | some a, some b => compare a b
          | _, _ => compare a b
        return ofBool (compareTexts operator order)

mutual

def level : Nat → List (List String) → Parser String
  | 0, _ => fail "syntax error"
  | fuel + 1, [] => primary fuel
  | fuel + 1, operators :: tighter => do
      let first ← level fuel tighter
      further fuel operators tighter first

def further : Nat → List String → List (List String) → String → Parser String
  | 0, _, _, _ => fail "syntax error"
  | fuel + 1, operators, tighter, first => do
      match ← peek? with
      | some word =>
          if operators.contains word then
            take word
            let second ← level fuel tighter
            further fuel operators tighter (← apply word first second)
          else return first
      | none => return first

def primary : Nat → Parser String
  | 0 => fail "syntax error"
  | fuel + 1 => do
      let word ← next
      match word with
      | "(" =>
          let value ← level fuel levels
          match ← peek? with
          | some ")" =>
              take ")"
              return value
          | some other => fail ("syntax error: expecting ')' instead of " ++ quoted other)
          | none => fail ("syntax error: expecting ')' after " ++ quoted (← get).before)
      | ")" => fail "syntax error: unexpected ')'"
      | "+" => next
      | "length" => return decimal (← primary fuel).length
      | "match" =>
          let text ← primary fuel
          matched text (← primary fuel)
      | "index" =>
          let text ← primary fuel
          let chars := (← primary fuel).toList
          let place := text.toList.findIdx chars.contains
          return decimal (if place < text.length then place + 1 else 0)
      | "substr" =>
          let text ← primary fuel
          let first ← primary fuel
          let size ← primary fuel
          match number? first, number? size with
          | some first, some size =>
              if first ≤ 0 ∨ size ≤ 0 then return ""
              else return String.ofList ((text.toList.drop (first.toNat - 1)).take size.toNat)
          | _, _ => return ""
      | _ => return word

end

end Expression

open Expression in
def expr (job : Job) : Result :=
  let words := match job.arguments with
    | "--" :: words => words
    | words => words
  if words = [] then job.usage 2 "missing operand"
  else match (level (16 * words.length + 16) levels).run ⟨words, ""⟩ with
    | .error message => job.fail 2 message
    | .ok (value, reader) =>
        match reader.rest with
        | word :: _ => job.fail 2 ("syntax error: unexpected argument " ++ quoted word)
        | [] => job.done (value ++ "\n") (if isFalse value then 1 else 0)

end CatalogSeed.Utility
