import CatalogSeed.Script.Items
import CatalogSeed.Script.Number

/-!
Arithmetic on numbers of 64 bits, with the operators of C. An operand that does not count is read
over but not worked out, so that nothing is assigned and nothing divided.
-/

namespace CatalogSeed.Script

namespace Arithmetic

inductive Symbol
  | number (value : Int)
  | name (text : String)
  | operator (text : String)
  | wrong (message : String)
  | unknown
  | ended
  deriving DecidableEq

/-- Operators, longer ones before those that they begin with. -/
def operators : List String :=
  ["<<=", ">>=", "<<", ">>", "<=", ">=", "==", "!=", "&&", "||", "+=", "-=", "*=", "/=", "%=",
    "&=", "|=", "^=", "+", "-", "*", "/", "%", "&", "|", "^", "<", ">", "=", "!", "~", "(", ")",
    "?", ":"]

/-- Further operators of the extended dialect. -/
def extendedOperators : List String := ["++", "--", "**", ",", "[", "]"]

/-- Symbols, each with the text from it on. -/
def symbols (extended : Bool) : Nat → List Char → List (Symbol × List Char)
  | 0, _ => []
  | _ + 1, [] => []
  | fuel + 1, c :: rest =>
      let text := c :: rest
      if isSpace c then symbols extended fuel rest
      else if c.isDigit && extended then
        let (digits, later) := text.span fun d => isNameChar d || d = '#' || d = '@'
        let symbol := match basedNumber digits with
          | .ok value => .number value
          | .error message => .wrong message
        let text := match symbol with
          | .wrong _ => digits
          | _ => text
        (symbol, text) :: symbols extended fuel later
      else if c.isDigit then
        match natural text with
        | some (value, later) =>
            (.number (min (value : Int) largestNumber), text) :: symbols extended fuel later
        | none => [(.unknown, text)]
      else if isNameStart c then
        let (name, later) := text.span isNameChar
        (.name (String.ofList name), text) :: symbols extended fuel later
      else
        let known := if extended then extendedOperators ++ operators else operators
        let fitting := known.filter fun operator => operator.toList.isPrefixOf text
        match fitting.find? fun operator => fitting.all (·.length ≤ operator.length) with
        | some operator =>
            (.operator operator, text) :: symbols extended fuel (text.drop operator.length)
        | none => [(.unknown, text)]

/-- How loosely a binary operator binds. -/
def looseness? : Symbol → Option Nat
  | .operator text =>
      if ["*", "/", "%"].contains text then some 0
      else if ["+", "-"].contains text then some 1
      else if ["<<", ">>"].contains text then some 2
      else if ["<", "<=", ">", ">="].contains text then some 3
      else if ["==", "!="].contains text then some 4
      else if text = "&" then some 5
      else if text = "^" then some 6
      else if text = "|" then some 7
      else none
  | _ => none

def ofBool (b : Bool) : Int := if b then 1 else 0

/-- The bits of a number, as one without sign. -/
def bits (n : Int) : Nat :=
  (n.emod 0x10000000000000000).toNat

def shiftLeft (a b : Int) : Int :=
  wrap ((bits a) <<< (bits b % 64) : Nat)

def shiftRight (a b : Int) : Int :=
  a >>> (bits b % 64)

/-- The outcome of a binary operator; none for a division by zero. -/
def apply (operator : String) (a b : Int) : Option Int :=
  match operator with
  | "*" => some (wrap (a * b))
  | "/" => if b = 0 then none else some (wrap (a.tdiv b))
  | "%" => if b = 0 then none else some (a.tmod b)
  | "+" => some (wrap (a + b))
  | "-" => some (wrap (a - b))
  | "<<" => some (shiftLeft a b)
  | ">>" => some (shiftRight a b)
  | "<" => some (ofBool (a < b))
  | "<=" => some (ofBool (a ≤ b))
  | ">" => some (ofBool (b < a))
  | ">=" => some (ofBool (b ≤ a))
  | "==" => some (ofBool (a = b))
  | "!=" => some (ofBool (a ≠ b))
  | "&" => some (wrap (bits a &&& bits b : Nat))
  | "^" => some (wrap (bits a ^^^ bits b : Nat))
  | _ => some (wrap (bits a ||| bits b : Nat))

/-- A power of 64 bits. -/
def power (base : Int) : Nat → Int
  | 0 => 1
  | exponent + 1 => wrap (base * power base exponent)

/-- What is left of an expression, and the text from its last symbol on. -/
structure Reading where
  symbols : List (Symbol × List Char)
  last : List Char

abbrev Evaluation := StateT Reading Run

/-- How expressions name themselves in complaints. -/
structure Subject where
  text : String
  extended : Bool

def Subject.complaint (subject : Subject) (message : String) (near : List Char) : String :=
  if subject.extended then
    String.ofList (subject.text.toList.dropWhile isSpace) ++ ": " ++ message ++
      " (error token is \"" ++ String.ofList near ++ "\")"
  else "arithmetic expression: " ++ message ++ ": \"" ++ subject.text ++ "\""

def complainNear {α : Type} (subject : Subject) (near : List Char) (plain extended : String) :
    Evaluation α :=
  StateT.lift (Run.refuse
    (subject.complaint (if subject.extended then extended else plain) near))

/-- Complains about the symbol that comes next, or the last one. -/
def complain {α : Type} (subject : Subject) (plain extended : String) : Evaluation α := do
  let reading ← get
  complainNear subject ((reading.symbols.head?.map Prod.snd).getD reading.last) plain extended

def needPrimary {α : Type} (subject : Subject) : Evaluation α :=
  complain subject "expecting primary" "syntax error: operand expected"

def peek : Evaluation Symbol :=
  return ((← get).symbols.head?.map Prod.fst).getD .ended

def take : Evaluation Symbol := modifyGet fun reading =>
  match reading.symbols with
  | (symbol, text) :: rest => (symbol, ⟨rest, text⟩)
  | [] => (.ended, reading)

/-- What can be assigned to: a variable, or one of its values. -/
structure Target where
  name : String
  index : Option Int

def store (target : Target) (value : Int) : Evaluation Unit := StateT.lift do
  match target.index with
  | none => Run.assign target.name (signedDecimal value)
  | some index =>
      match (← Run.items target.name).keyOf index with
      | some key => Run.assignItem target.name key (signedDecimal value)
      | none => Run.refuse (target.name ++ ": bad array subscript")

def textAt (target : Target) : Run (Option String) := do
  match target.index with
  | none => Run.lookup? target.name
  | some index =>
      let items ← Run.items target.name
      return (items.keyOf index).bind fun key => items.entries.lookup key

def binary (subject : Subject) (idle : Bool) (operator : String) (a b : Int)
    (near : List Char) : Evaluation Int := do
  if idle then return b
  match apply operator a b with
  | some value => return value
  | none => complainNear subject near "division by zero" "division by 0"

/-- The operator in an assignment that works on the old value. -/
def assigning? : Symbol → Option String
  | .operator "=" => some ""
  | .operator text =>
      if ["+=", "-=", "*=", "/=", "%=", "&=", "|=", "^=", "<<=", ">>="].contains text then
        some (String.ofList text.toList.dropLast)
      else none
  | _ => none

mutual

/-- The value of a text that is an expression of its own. -/
def valueAt (subject : Subject) : Nat → Target → Evaluation Int
  | 0, _ => complain subject "expecting primary" "expression recursion level exceeded"
  | fuel + 1, target => do
      let text := (← StateT.lift (textAt target)).getD ""
      match number? true text with
      | some value => return value
      | none =>
          if !subject.extended then StateT.lift (Run.fail ("Illegal number: " ++ text))
          else
            let before ← get
            set (⟨symbols true (text.length + 1) text.toList, []⟩ : Reading)
            let inside : Subject := ⟨text, true⟩
            let value ← sequence inside fuel false
            if (← peek) ≠ .ended then complain inside "" "syntax error in expression"
            set before
            return value

/-- Expressions with commas between them; the last one counts. -/
def sequence (subject : Subject) : Nat → Bool → Evaluation Int
  | 0, _ => needPrimary subject
  | fuel + 1, idle => do
      let value ← assignment subject fuel idle
      if (← peek) = .operator "," then
        let _ ← take
        sequence subject fuel idle
      else return value

/-- Reads what can be assigned to. -/
def target? (subject : Subject) : Nat → Bool → Evaluation (Option Target)
  | 0, _ => needPrimary subject
  | fuel + 1, idle => do
      match ← peek with
      | .name name =>
          let _ ← take
          if (← peek) = .operator "[" then
            let _ ← take
            let index ← sequence subject fuel idle
            if (← peek) ≠ .operator "]" then complain subject "" "syntax error"
            let _ ← take
            return some ⟨name, some index⟩
          else return some ⟨name, none⟩
      | _ => return none

def assignment (subject : Subject) : Nat → Bool → Evaluation Int
  | 0, _ => needPrimary subject
  | fuel + 1, idle => do
      let before ← get
      match ← target? subject fuel true with
      | none => conditional subject fuel idle
      | some target =>
          match assigning? (← peek) with
          | none =>
              set before
              conditional subject fuel idle
          | some operator =>
              let target ← if target.index.isSome then
                  set before
                  pure ((← target? subject fuel idle).getD target)
                else pure target
              let _ ← take
              let near := ((← get).symbols.head?.map Prod.snd).getD []
              let result ← assignment subject fuel idle
              if idle then return result
              let value ←
                if operator = "" then pure result
                else binary subject false operator (← valueAt subject fuel target) result near
              store target value
              return value

def conditional (subject : Subject) : Nat → Bool → Evaluation Int
  | 0, _ => needPrimary subject
  | fuel + 1, idle => do
      let test ← either subject fuel idle
      if (← peek) = .operator "?" then
        let _ ← take
        let yes ← assignment subject fuel (idle || test = 0)
        if (← peek) = .operator ":" then
          let _ ← take
          let no ← conditional subject fuel (idle || test ≠ 0)
          return if test ≠ 0 then yes else no
        else complain subject "expecting ':'" "\x60:' expected for conditional expression"
      else return test

def either (subject : Subject) : Nat → Bool → Evaluation Int
  | 0, _ => needPrimary subject
  | fuel + 1, idle => do
      let first ← both subject fuel idle
      if (← peek) = .operator "||" then
        let _ ← take
        let second ← either subject fuel (idle || first ≠ 0)
        return ofBool (first ≠ 0 || second ≠ 0)
      else return first

def both (subject : Subject) : Nat → Bool → Evaluation Int
  | 0, _ => needPrimary subject
  | fuel + 1, idle => do
      let first ← primary subject fuel idle
      let first ← operation subject fuel idle first 8
      if (← peek) = .operator "&&" then
        let _ ← take
        let second ← both subject fuel (idle || first = 0)
        return ofBool (first ≠ 0 && second ≠ 0)
      else return first

/-- Applies the operators that bind tighter than a bound. -/
def operation (subject : Subject) : Nat → Bool → Int → Nat → Evaluation Int
  | 0, _, _, _ => needPrimary subject
  | fuel + 1, idle, first, bound => do
      match ← peek with
      | .operator operator =>
          match looseness? (.operator operator) with
          | none => return first
          | some looseness =>
              if bound ≤ looseness then return first
              let _ ← take
              let near := ((← get).symbols.head?.map Prod.snd).getD []
              let second ← primary subject fuel idle
              let second ← operation subject fuel idle second looseness
              let value ← binary subject idle operator first second near
              operation subject fuel idle value bound
      | _ => return first

/-- An operand, with the powers that it is raised to. -/
def primary (subject : Subject) : Nat → Bool → Evaluation Int
  | 0, _ => needPrimary subject
  | fuel + 1, idle => do
      let base ← operand subject fuel idle
      if (← peek) = .operator "**" then
        let _ ← take
        let exponent ← primary subject fuel idle
        if exponent < 0 then complain subject "" "exponent less than 0"
        return power base exponent.toNat
      else return base

def operand (subject : Subject) : Nat → Bool → Evaluation Int
  | 0, _ => needPrimary subject
  | fuel + 1, idle => do
      /- Changes a variable by one, and gives its value before or after that. -/
      let change (sign : Int) (before : Bool) (target : Target) : Evaluation Int := do
        if idle then return 0
        let value ← valueAt subject fuel target
        store target (wrap (value + sign))
        return if before then value else wrap (value + sign)
      let step (sign : Int) : Evaluation Int := do
        let _ ← take
        match ← target? subject fuel idle with
        | some target => change sign false target
        | none => operand subject fuel idle
      match ← peek with
      | .number value =>
          let _ ← take
          return value
      | .name _ =>
          match ← target? subject fuel idle with
          | none => needPrimary subject
          | some target =>
              match ← peek with
              | .operator "++" =>
                  let _ ← take
                  change 1 true target
              | .operator "--" =>
                  let _ ← take
                  change (-1) true target
              | _ => if idle then return 0 else valueAt subject fuel target
      | .operator "(" =>
          let _ ← take
          let value ← sequence subject fuel idle
          if (← peek) = .operator ")" then
            let _ ← take
            return value
          else complain subject "expecting ')'" "missing \x60)'"
      | .operator "+" =>
          let _ ← take
          operand subject fuel idle
      | .operator "-" =>
          let _ ← take
          return wrap (-(← operand subject fuel idle))
      | .operator "!" =>
          let _ ← take
          return ofBool ((← operand subject fuel idle) = 0)
      | .operator "~" =>
          let _ ← take
          return -(← operand subject fuel idle) - 1
      | .operator "++" => step 1
      | .operator "--" => step (-1)
      | .wrong message => complain subject "" message
      | _ => needPrimary subject

end

end Arithmetic

/-- Works out an arithmetic expression. -/
def calculate (text : String) : Run Int := do
  let extended ← Run.isExtended
  let symbols := Arithmetic.symbols extended (text.length + 1) text.toList
  if extended ∧ symbols.isEmpty then return 0
  let subject : Arithmetic.Subject := ⟨text, extended⟩
  let evaluation : Arithmetic.Evaluation Int := do
    let value ← Arithmetic.sequence subject (16 * text.length + 10000) false
    if (← Arithmetic.peek) = .ended then return value
    else Arithmetic.complain subject "expecting EOF" "syntax error in expression"
  return (← evaluation.run ⟨symbols, []⟩).1

end CatalogSeed.Script
