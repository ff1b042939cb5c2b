import CatalogSeed.Script.Printing
import CatalogSeed.Utility.Items
import CatalogSeed.Utility.Search

/-!
Parting a file where its lines have a number, or fit an expression.
-/

namespace CatalogSeed.Utility

namespace Sections

/-- Where a section ends: in front of a line with a number, or at a line that fits, moved by an
offset; what comes before may be left out. -/
inductive Border
  | line (number : Nat)
  | fit (regex : Regex) (offset : Int) (leftOut : Bool)

/-- A border that is looked for several times, or again and again. -/
structure Wish where
  word : String
  border : Border
  times : Option Nat

/-- What is left of the lines, the number of the first of them, the line that was looked at last,
and the sections, the last one first. -/
structure State where
  lines : List (List Char)
  first : Nat
  current : Nat
  sections : List (List Char)
  fault : Option String

/-- Why there is no next section: the lines are at an end as they may be, or something is wrong. -/
inductive Stop
  | ended
  | failed

abbrev Work := ExceptT Stop (StateM State)

/-- Moves lines into a new section. -/
def cut (count : Nat) (keep : Bool) : Work Unit :=
  modify fun state =>
    let text := (state.lines.take count).flatten
    { state with
      lines := state.lines.drop count
      first := state.first + count
      sections := if keep then text :: state.sections else state.sections }

def fail (message : String) : Work Unit := do
  modify fun state => { state with fault := some message }
  throw .failed

/-- Finds one border and makes the section in front of it. -/
def step (without : Bool) (wish : Wish) (repetition : Nat) : Work Unit := do
  let again := if repetition = 0 then "" else " on repetition " ++ decimal repetition
  let dropLine : Work Unit := do
    if without then cut 1 false
  match wish.border with
  | .line number =>
      let target := number * (repetition + 1)
      let state ← get
      let wanted := target - state.first
      cut wanted true
      if state.lines.length < wanted then
        fail (quoted wish.word ++ ": line number out of range" ++ again)
      modify fun state => { state with current := target - 1 }
      dropLine
      if (← get).lines = [] ∧ !without then
        fail (quoted wish.word ++ ": line number out of range" ++ again)
  | .fit regex offset leftOut =>
      let state ← get
      let hidden := state.current + 1 < state.first
      let skipped := state.current + 1 - state.first
      let search : Search.Wish := ⟨[regex], false, false, false⟩
      let found := if hidden then none
        else (state.lines.drop skipped).findIdx? fun line =>
          Search.fits search (line.filter (· ≠ '\n'))
      match found with
      | none =>
          cut state.lines.length (!leftOut)
          if wish.times.isNone then throw .ended
          else fail (quoted wish.word ++ ": match not found" ++ again)
      | some index =>
          let place := state.first + skipped + index
          let border := (place : Int) + offset
          let count := border - (state.first : Int)
          if count < 0 then
            modify fun state => { state with sections := [] :: state.sections }
            fail (quoted wish.word ++ ": line number out of range")
          cut count.toNat (!leftOut)
          if state.lines.length < count then
            fail (quoted wish.word ++ ": line number out of range")
          modify fun state =>
            { state with current := if 0 < offset then border.toNat else place }
          dropLine

/-- Looks for a border as often as is wanted. -/
def steps (without : Bool) (wish : Wish) : Nat → Nat → Work Unit
  | 0, _ => return
  | fuel + 1, repetition => do
      if wish.times.all (repetition ≤ ·) then
        step without wish repetition
        steps without wish fuel (repetition + 1)

/-- All sections of a text, with what went wrong. -/
def sections (without : Bool) (wishes : List Wish) (lines : List (List Char)) :
    List (List Char) × Option String :=
  let fuel := lines.length + 2
  let work : Work Unit := do
    for wish in wishes do
      steps without wish (match wish.times with
        | some times => times + 1
        | none => fuel) 0
    cut (← get).lines.length true
  let (_, state) := work.run ⟨lines, 1, 0, [], none⟩
  (state.sections.reverse, state.fault)

/-- Reads a border. -/
def border (word : String) : Except String Border := do
  match word.toList with
  | delimiter :: rest =>
      if delimiter = '/' ∨ delimiter = '%' then
        let (behind, inside) := rest.reverse.span (· ≠ delimiter)
        match inside with
        | [] =>
            .error (word ++ ": closing delimiter '" ++ delimiter.toString ++ "' missing")
        | _ :: inside =>
            let offset := String.ofList behind.reverse
            let sign : Int := if offset.startsWith "-" then -1 else 1
            let digits := offset.toList.dropWhile fun c => c = '+' || c = '-'
            if !digits.all Char.isDigit then
              .error (quoted word ++ ": integer expected after delimiter")
            else
              let value := (String.ofList digits).toNat?.getD 0
              match Regex.parse ⟨false, true⟩ inside.reverse with
              | .ok regex => return .fit regex (sign * value) (delimiter = '%')
              | .error message =>
                  let message := if message.startsWith "Unmatched [" then
                    "Invalid regular expression" else message
                  .error (quoted word ++ ": invalid regular expression: " ++ message)
      else match (if word.all Char.isDigit then word.toNat? else none) with
        | some 0 => .error (word ++ ": line number must be greater than zero")
        | some number => return .line number
        | none => .error (quoted word ++ ": invalid pattern")
  | [] => .error (quoted word ++ ": invalid pattern")

/-- Words with those behind them that tell how often they are meant. -/
def withRepeats : List String → List (String × Option String)
  | word :: next :: rest =>
      if next.startsWith "\x7b" then (word, some next) :: withRepeats rest
      else (word, none) :: withRepeats (next :: rest)
  | [word] => [(word, none)]
  | [] => []

/-- How often a border is looked for again. -/
def repeats (word : String) : Except String (Option Nat) :=
  let count := String.ofList (word.toList.drop 1).dropLast
  if !word.endsWith "\x7d" then .error (word ++ ": '\x7d' is required in repeat count")
  else if count = "*" then .ok none
  else if count ≠ "" ∧ count.all Char.isDigit then .ok count.toNat?
  else
    .error (quoted (String.ofList word.toList.dropLast) ++
      "\x7d': integer required between '\x7b' and '\x7d'")

/-- Reads borders in turn; `last` is the number of the last one that has a number. -/
def wishes (last : Nat) : List (String × Option String) →
    Except String (List Wish × List String)
  | [] => .ok ([], [])
  | (word, again) :: rest => do
      let found ← border word
      let (last, warnings) ← match found with
        | .line number =>
            if number < last then
              .error ("line number " ++ quoted word ++ " is smaller than preceding line number, " ++
                decimal last)
            else
              let same := "warning: line number " ++ quoted word ++
                " is the same as preceding line number"
              pure (number, if number = last then [same] else [])
        | .fit _ _ _ => pure (last, [])
      let times ← match again with
        | some again => repeats again
        | none => pure (some 0)
      let (more, later) ← wishes last rest
      return (⟨word, found, times⟩ :: more, warnings ++ later)

/-- The name of a section, with its number in digits or as a format tells. -/
def nameOf (front : String) (digits : Nat) (format : Option String) (index : Nat) : String :=
  match format with
  | none =>
      let text := decimal index
      front ++ String.ofList (List.replicate (digits - text.length) '0') ++ text
  | some format =>
      front ++ (Script.fillIn .plain format [decimal index]).text

end Sections

open Sections in
def csplit (job : Job) : Result :=
  let long := [("prefix", "f", true), ("suffix-format", "b", true), ("digits", "n", true),
    ("keep-files", "k", false), ("quiet", "s", false), ("silent", "s", false),
    ("elide-empty-files", "z", false), ("suppress-matched", "without", false)]
  let quiet := job.arguments.map fun word => if word = "-q" then "-s" else word
  match { job with arguments := quiet }.call "kszq" "fbn" long false 1 with
  | .error result => result
  | .ok call =>
      let digits := (call.value? ["n"]).getD "2"
      let specifications := fun (text : String) =>
        ((text.replace "%%" "").toList.filter (· = '%')).length
      match call.operands, call.value? ["b"] with
      | [], _ => job.usage 1 "missing operand"
      | [name], _ => job.usage 1 ("missing operand after " ++ quoted name)
      | name :: words, format =>
          let count := (format.map specifications).getD 1
          if !digits.all Char.isDigit ∨ digits = "" then
            job.fail 1 ("invalid number: " ++ quoted digits)
          else if count = 0 then job.fail 1 "missing % conversion specification in suffix"
          else if 1 < count then job.fail 1 "too many % conversion specifications in suffix"
          else match wishes 0 (withRepeats words), job.readFile name with
          | .error message, _ => job.fail 1 message
          | .ok _, .error error =>
              job.fail 1 ("cannot open " ++ named name ++ " for reading: " ++ reason error)
          | .ok (wishes, warnings), .ok text =>
              let (found, fault) := sections (call.has ["without"]) wishes (linesOf text)
              let found := if call.has ["z"] then found.filter (· ≠ []) else found
              job.perform (name = "-") do
                for warning in warnings do
                  job.warn warning
                if let some message := fault then job.complain message
                unless call.has ["s", "q"] do
                  Task.print (joinLines (found.map fun text => decimal text.length))
                if fault.isNone || call.has ["k"] then
                  for (text, index) in found.zipIdx do
                    let path := nameOf ((call.value? ["f"]).getD "xx")
                      (digits.toNat?.getD 2) format index
                    match (← Task.tree).write (Octets.toText path) (text.map Octets.ofChar) with
                    | (.ok (), tree) => Task.setTree tree
                    | (.error error, _) => job.complain (path ++ ": " ++ reason error)

end CatalogSeed.Utility
