import CatalogSeed.Utility.Basic
import CatalogSeed.Utility.Regex

/-!
Scripts for the stream editor, and reading their text character by character. Complaints tell how
many were read.
-/

namespace CatalogSeed.Utility.EditScript

inductive Address
  | line (number : Nat)
  | last
  /-- The line that an expression fits; none stands for the expression that was used last. -/
  | fits (regex : Option Regex) (ignoreCase : Bool)
  | every (first step : Nat)

inductive RangeEnd
  | address (address : Address)
  | further (count : Nat)
  | multiple (step : Nat)

/-- A piece of what stands in for a match; a letter changes the case of what follows. -/
inductive Substitute
  | text (chars : List Char)
  | group (number : Nat)
  | case (letter : Char)

structure Replacing where
  regex : Option Regex
  ignoreCase : Bool
  lines : Bool
  pieces : List Substitute
  all : Bool
  first : Nat
  print : Bool
  file : Option String

inductive Verb
  | openBlock
  | closeBlock
  | label (name : String)
  | jump (condition : Char) (label : String)
  | text (kind : Char) (text : String)
  | replace (replacing : Replacing)
  | exchange (pairs : List (Char × Char))
  | file (kind : Char) (name : String)
  | quit (printing : Bool) (status : Nat)
  | simple (letter : Char)

structure Command where
  first : Option Address
  last : Option RangeEnd
  negated : Bool
  verb : Verb

/-- What is left of a script, and how much was read. -/
structure Reader where
  rest : List Char
  count : Nat
  extended : Bool

/-- A complaint, and how much was read before it. -/
structure Fault where
  count : Nat
  message : String

abbrev Parser := StateT Reader (Except Fault)

def fail {α : Type} (message : String) : Parser α := fun reader => .error ⟨reader.count, message⟩

def next? : Parser (Option Char) := modifyGet fun reader =>
  match reader.rest with
  | [] => (none, reader)
  | c :: rest => (some c, { reader with rest, count := reader.count + 1 })

def peek? : Parser (Option Char) :=
  return (← get).rest.head?

def skipWhile (kind : Char → Bool) : Parser (List Char) := modifyGet fun reader =>
  let (taken, rest) := reader.rest.span kind
  (taken, { reader with rest, count := reader.count + taken.length })

def isBlank (c : Char) : Bool := c = ' ' || c = '\t'

def isSpace (c : Char) : Bool := c = ' ' || 9 ≤ c.toNat && c.toNat ≤ 13

def number : Parser Nat := do
  let digits ← skipWhile Char.isDigit
  return digits.foldl (fun value c => 10 * value + (c.toNat - 48)) 0

/-- How many characters a set takes up to its closing bracket on this line; `named` tells that one
is within a named class. -/
def setLength : Bool → List Char → Nat
  | _, [] => 0
  | _, '\n' :: _ => 0
  | true, ':' :: ']' :: rest => setLength false rest + 2
  | true, _ :: rest => setLength true rest + 1
  | false, '[' :: ':' :: rest => setLength true rest + 2
  | false, ']' :: _ => 1
  | false, _ :: rest => setLength false rest + 1

/-- Reads up to a mark on the same line; none if it is missing. A backslash before the mark takes
its meaning, and is kept before all else; within a set of an expression it has none. -/
def delimited (mark : Char) (regex : Bool) : Nat → List Char → Parser (Option (List Char))
  | 0, _ => return none
  | fuel + 1, before => do
      if (← peek?) = some '\n' then return none
      match ← next? with
      | none => return none
      | some c =>
          if c = mark then return some before.reverse
          else if c = '\\' then
            match ← next? with
            | none => return none
            | some d =>
                if d = mark then delimited mark regex fuel (d :: before)
                else delimited mark regex fuel (d :: '\\' :: before)
          else if c = '[' ∧ regex then
            let reader ← get
            let front := match reader.rest with
              | '^' :: ']' :: _ => 2
              | '^' :: _ | ']' :: _ => 1
              | _ => 0
            let size := front + setLength false (reader.rest.drop front)
            set { reader with rest := reader.rest.drop size, count := reader.count + size }
            delimited mark regex fuel ((reader.rest.take size).reverse ++ c :: before)
          else delimited mark regex fuel (c :: before)

end CatalogSeed.Utility.EditScript
