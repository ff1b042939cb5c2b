import CatalogSeed.Utility.Lines

/-!
Joining the lines of two sorted files that have a field in common.
-/

namespace CatalogSeed.Utility

namespace Joining

/-- A line parted into its fields, with its number. -/
structure Row where
  text : List Char
  fields : Array (List Char)
  number : Nat

/-- What parts fields: blanks, nothing, or a character. -/
inductive Separator
  | blanks
  | none
  | one (c : Char)

/-- The fields that are shown: the one in common, or one of a file. -/
inductive Part
  | common
  | field (second : Bool) (index : Nat)
  deriving DecidableEq

structure Plan where
  separator : Separator
  ignoreCase : Bool
  /-- The places of the fields in common. -/
  first : Nat
  second : Nat
  showsPairs : Bool
  showsFirst : Bool
  showsSecond : Bool
  filler : List Char
  parts : Option (List Part)
  /-- How many fields are shown of each file where that is settled by the first lines. -/
  counts : Option (Nat × Nat)
  checks : Option Bool
  finish : Char
  names : String × String

/-- One of the files: the lines at hand, the ones behind them, and whether it was complained
about. -/
structure Side where
  current : List Row
  rest : List Row
  wrong : Bool

structure State where
  first : Side
  second : Side
  unpaired : Bool
  stopped : Bool
  pieces : List Piece

abbrev Work := StateM State

def fieldsOf (separator : Separator) (text : List Char) : List (List Char) :=
  match separator with
  | .blanks => (text.splitOnP fun c => c = ' ' || c = '\t' || c = '\n').filter (· ≠ [])
  | .none => [text]
  | .one c => text.splitOn c

def keyOf (plan : Plan) (place : Nat) (row : Row) : List Char :=
  let key := row.fields.getD place []
  if plan.ignoreCase then key.map Char.toUpper else key

def compareKeys (left right : List Char) : Ordering :=
  if left = right then .eq
  else if left.lex right fun a b => a.toNat < b.toNat then .lt
  else .gt

def Plan.place (plan : Plan) (second : Bool) : Nat :=
  if second then plan.second else plan.first

def side (second : Bool) : Work Side := do
  let state ← get
  return if second then state.second else state.first

def setSide (second : Bool) (side : Side) : Work Unit :=
  modify fun state => if second then { state with second := side } else { state with first := side }

/-- Complains about a line that should stand before the one in front of it. -/
def check (job : Job) (plan : Plan) (second : Bool) (before row : Row) : Work Unit := do
  let state ← get
  let own ← side second
  let place := plan.place second
  let looks := plan.checks = some true || plan.checks.isNone && state.unpaired
  if looks && !own.wrong &&
      compareKeys (keyOf plan place before) (keyOf plan place row) = .gt then
    let name := if second then plan.names.2 else plan.names.1
    setSide second { own with wrong := true }
    modify fun state => { state with
      stopped := state.stopped || plan.checks = some true
      pieces := job.complaint (name ++ ":" ++ decimal row.number ++ ": is not sorted: " ++
        String.ofList row.text) :: state.pieces }

/-- Takes the next line of a file to those at hand, or in their place. -/
def advance (job : Job) (plan : Plan) (second replaces : Bool) : Work Bool := do
  let own ← side second
  match own.rest with
  | [] =>
      if replaces then setSide second { own with current := [] }
      return false
  | row :: rest =>
      if let some before := own.current.getLast? then check job plan second before row
      let own ← side second
      setSide second { own with
        current := if replaces then [row] else own.current ++ [row], rest }
      return true

/-- A line made of one line of each file, of which one may be missing. -/
def joined (plan : Plan) (left right : Option Row) : List Char :=
  let field (row : Option Row) (place : Nat) : List Char :=
    let text := (row.map fun row => row.fields.getD place []).getD []
    if text = [] then plan.filler else text
  let common := match left with
    | some row => field (some row) plan.first
    | none => field right plan.second
  let others (row : Option Row) (place : Nat) (count : Option Nat) : List (List Char) :=
    let size := count.getD ((row.map fun row => row.fields.size).getD 0)
    ((List.range size).filter (· ≠ place)).map (field row)
  let fields := match plan.parts with
    | some parts => parts.map fun
        | .common => common
        | .field false place => field left place
        | .field true place => field right place
    | none => common :: others left plan.first (plan.counts.map Prod.fst) ++
        others right plan.second (plan.counts.map Prod.snd)
  let mark := match plan.separator with
    | .one c => [c]
    | .none => ['\n']
    | .blanks => [' ']
  mark.intercalate fields ++ [plan.finish]

def put (plan : Plan) (left right : Option Row) : Work Unit :=
  modify fun state =>
    { state with pieces := ⟨false, String.ofList (joined plan left right)⟩ :: state.pieces }

/-- Takes lines to those at hand as long as they have the same key. -/
def gatherSame (job : Job) (plan : Plan) (second : Bool) (key : List Char) : Nat → Work Unit
  | 0 => return
  | fuel + 1 => do
      let own ← side second
      match own.rest with
      | [] => return
      | row :: _ =>
          let _ ← advance job plan second false
          if keyOf plan (plan.place second) row = key then gatherSame job plan second key fuel

/-- Joins line by line, as long as both files have some. -/
def merge (job : Job) (plan : Plan) : Nat → Work Unit
  | 0 => return
  | fuel + 1 => do
      let state ← get
      match state.first.current, state.second.current with
      | left :: _, right :: _ =>
          if state.stopped then return
          let key := keyOf plan plan.first left
          match compareKeys key (keyOf plan plan.second right) with
          | .lt =>
              if plan.showsFirst then put plan (some left) none
              let _ ← advance job plan false true
              modify fun state => { state with unpaired := true }
          | .gt =>
              if plan.showsSecond then put plan none (some right)
              let _ ← advance job plan true true
              modify fun state => { state with unpaired := true }
          | .eq =>
              gatherSame job plan false key (state.first.rest.length + 1)
              gatherSame job plan true key (state.second.rest.length + 1)
              let after ← get
              if after.stopped then return
              let same (second : Bool) (rows : List Row) : List Row × List Row :=
                rows.partition fun row => keyOf plan (plan.place second) row = key
              let (lefts, left) := same false after.first.current
              let (rights, right) := same true after.second.current
              if plan.showsPairs then
                for left in lefts do
                  for right in rights do
                    put plan (some left) (some right)
              modify fun state => { state with
                first := { state.first with current := left }
                second := { state.second with current := right } }
          merge job plan fuel
      | _, _ => return

/-- Goes through the lines of a file that is left alone. -/
def finish (job : Job) (plan : Plan) (second : Bool) : Nat → Work Unit
  | 0 => return
  | fuel + 1 => do
      let own ← side second
      let shows := if second then plan.showsSecond else plan.showsFirst
      match own.current with
      | [] => return
      | row :: _ =>
          if (← get).stopped then return
          if shows then
            if second then put plan none (some row) else put plan (some row) none
          let _ ← advance job plan second true
          unless (← side second).wrong && !shows do finish job plan second fuel

/-- All of the work on two files. -/
def work (job : Job) (plan : Plan) (header : Bool) (fuel : Nat) : Work Unit := do
  let _ ← advance job plan false true
  let _ ← advance job plan true true
  if header then
    let state ← get
    let (left, right) := (state.first.current.head?, state.second.current.head?)
    if left.isSome || right.isSome then put plan left right
    for second in [false, true] do
      let own ← side second
      setSide second { own with current := own.rest.take 1, rest := own.rest.drop 1 }
  merge job plan fuel
  let state ← get
  if state.first.current ≠ [] then
    if state.second.current ≠ [] then modify fun state => { state with unpaired := true }
    finish job plan false fuel
  if (← get).second.current ≠ [] then finish job plan true fuel

/-- The number of a field, as an option tells. -/
def fieldNumber (job : Job) (text : String) : Except Result Nat :=
  match (if text ≠ "" ∧ text.all Char.isDigit then text.toNat? else none) with
  | some (n + 1) => .ok n
  | _ => .error (job.fail 1 ("invalid field number: " ++ quoted text))

/-- The fields that a list of them tells. -/
def partsOf (job : Job) (text : String) : Except Result (List Part) :=
  ((text.toList.splitOnP fun c => c = ',' || c = ' ' || c = '\t').filter (· ≠ [])).mapM fun word =>
    let wrong (what : String) : Except Result Part :=
      .error (job.fail 1 ("invalid " ++ what ++ ": " ++ quoted (String.ofList word)))
    match word with
    | ['0'] => .ok .common
    | '0' :: _ => wrong "field specifier"
    | file :: '.' :: place =>
        if file = '1' ∨ file = '2' then
          (fieldNumber job (String.ofList place)).map (.field (file = '2'))
        else wrong "file number in field spec"
    | c :: _ => if c = '1' ∨ c = '2' then wrong "field specifier"
        else wrong "file number in field spec"
    | [] => wrong "field specifier"

/-- The numbers of the files that an option gives. -/
def filesOf (job : Job) (texts : List String) : Except Result (List Bool) :=
  texts.mapM fun text =>
    if text = "1" then .ok false
    else if text = "2" then .ok true
    else .error (job.fail 1 ("invalid field number: " ++ quoted text))

/-- The place of the field in common, which may be told more than once but not in two ways. -/
def placeOf (job : Job) (texts : List String) : Except Result Nat := do
  let places ← texts.mapM (fieldNumber job)
  match places.find? fun place => some place ≠ places.head? with
  | some other =>
      .error (job.fail 1 ("incompatible join fields " ++ decimal (places.headD 0) ++ ", " ++
        decimal other))
  | none => return places.headD 0

def separatorOf (job : Job) (call : Call) : Except Result Separator :=
  match (call.value? ["t"]).map String.toList with
  | none => .ok .blanks
  | some [] => .ok .none
  | some [c] => .ok (.one c)
  | some ['\\', '0'] => .ok (.one '\x00')
  | some text =>
      .error (job.fail 1 ("multi-character tab " ++ quoted (String.ofList text)))

end Joining

open Joining in
def join (job : Job) : Result :=
  let long := [("ignore-case", "i", false), ("check-order", "check", false),
    ("nocheck-order", "nocheck", false), ("header", "header", false),
    ("zero-terminated", "z", false)]
  match job.call "iz" "avejo12t" long false 1 with
  | .error result => result
  | .ok call =>
      let planned : Except Result (Plan × String × String) := do
        let shown ← filesOf job (call.values ["a", "v"])
        let first ← placeOf job (call.values ["1", "j"])
        let second ← placeOf job (call.values ["2", "j"])
        let separator ← separatorOf job call
        let formats := call.values ["o"]
        let parts ← (formats.filter (· ≠ "auto")).mapM (partsOf job)
        let checks := ((call.options.filter fun (name, _) =>
          ["check", "nocheck"].contains name).getLast?).map fun (name, _) => name = "check"
        match call.operands with
        | [] => .error (job.usage 1 "missing operand")
        | [name] => .error (job.usage 1 ("missing operand after " ++ quoted name))
        | [left, right] =>
            if left = "-" ∧ right = "-" then
              .error (job.fail 1 "both files cannot be standard input")
            else
              let plan : Plan := {
                separator, first, second
                ignoreCase := call.has ["i"]
                showsPairs := !call.has ["v"]
                showsFirst := shown.contains false
                showsSecond := shown.contains true
                filler := ((call.value? ["e"]).getD "").toList
                parts := if parts = [] then none else some parts.flatten
                counts := if formats.contains "auto" then some (0, 0) else none
                checks
                finish := if call.has ["z"] then '\x00' else '\n'
                names := (left, right) }
              return (plan, left, right)
        | _ :: _ :: other :: _ => .error (job.usage 1 ("extra operand " ++ quoted other))
      match planned with
      | .error result => result
      | .ok (plan, left, right) =>
          let rows (name : String) : Except Result (List Row) :=
            match job.readFile name with
            | .error error => .error (job.fail 1 (shown name ++ ": " ++ reason error))
            | .ok text =>
                let lines := text.splitOn plan.finish
                let lines := if lines.getLast? = some [] then lines.dropLast else lines
                .ok (lines.zipIdx 1 |>.map fun (line, number) =>
                  ⟨line, (fieldsOf plan.separator line).toArray, number⟩)
          match rows left, rows right with
          | .error result, _ | _, .error result => result
          | .ok first, .ok second =>
              let size (rows : List Row) : Nat :=
                (rows.head?.map fun row => row.fields.size).getD 0
              let plan := { plan with
                counts := plan.counts.map fun _ => (size first, size second) }
              let fuel := 2 * (first.length + second.length) + 4
              let start : State := ⟨⟨[], first, false⟩, ⟨[], second, false⟩, false, false, []⟩
              let (_, after) := (work job plan (call.has ["header"]) fuel).run start
              let wrong := after.first.wrong || after.second.wrong
              let last := if wrong && plan.checks.isNone then
                  [job.complaint "input is not in sorted order"]
                else []
              job.written (after.pieces.reverse ++ last) (if wrong then 1 else 0)
                (left = "-" || right = "-")

end CatalogSeed.Utility
