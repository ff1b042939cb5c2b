import CatalogSeed.Utility.EditScript
import CatalogSeed.Utility.Lines

/-!
Running scripts of the stream editor over the lines of files. The line that is worked on can grow
and shrink; a second text is kept beside it.
-/

namespace CatalogSeed.Utility.Edit

open EditScript (Address RangeEnd Replacing Verb)

structure State where
  space : List Char
  ended : Bool
  kept : List Char
  number : Nat
  /-- The lines to come, each with whether it has an end. -/
  rest : List (List Char × Bool)
  /-- For commands whose range is open: the line at which it closes; none if that is not known. -/
  opened : List (Nat × Option Nat)
  replaced : Bool
  queue : List (Bool × String)
  regex : Option Regex
  written : List String
  unfinished : Bool
  files : List (String × String)
  status : Nat
  fault : Option String

inductive Next
  | goOn
  | jump (index : Nat)
  | endCycle
  | restart
  | quit (printing : Bool)

structure Script where
  commands : Array EditScript.Command
  quiet : Bool
  /-- What ends a line. -/
  mark : Char
  read : String → List Char
  name : String

/-- Writes text; a line end that is still missing comes first. -/
def put (script : Script) (text : String) (state : State) : State :=
  if text = "" then state
  else
    let front := if state.unfinished then script.mark.toString else ""
    { state with written := (front ++ text) :: state.written, unfinished := false }

/-- Writes a line, with an end if the line that was read has one. -/
def putLine (script : Script) (line : List Char) (state : State) : State :=
  let front := if state.unfinished then script.mark.toString else ""
  let behind := if state.ended then script.mark.toString else ""
  { state with
    written := (front ++ String.ofList line ++ behind) :: state.written
    unfinished := !state.ended }

/-- Writes to a file, behind what was written there before. -/
def putFile (script : Script) (name text : String) (state : State) : State :=
  match name with
  | "/dev/stdout" => put script text state
  | _ =>
      let before := (state.files.lookup name).getD ""
      { state with files := (name, before ++ text) :: state.files.filter (·.1 ≠ name) }

/-- Writes what was put off to the end of the cycle. -/
def flush (script : Script) (state : State) : State :=
  let state := state.queue.foldl (fun state (isFile, text) =>
    put script (if isFile then String.ofList (script.read text) else text) state) state
  { state with queue := [] }

/-- Whether there is a line to read; the next one becomes the line that is worked on. -/
def readLine? (state : State) : Option (List Char × State) :=
  match state.rest with
  | [] => none
  | (line, ended) :: rest =>
      some (line, { state with rest, number := state.number + 1, ended })

def subjectOf (line : List Char) (ignoreCase lines : Bool) : Regex.Subject :=
  ⟨line.toArray, ignoreCase, lines⟩

/-- Where the last expression is asked for, there has to be one. -/
def noRegex (state : State) : State :=
  { state with fault := some "-e expression #1, char 0: no previous regular expression" }

/-- Whether an address is for the line that is worked on. -/
def matches? (address : Address) (state : State) : Bool × State :=
  match address with
  | .line number => (state.number = number, state)
  | .last => (state.rest.isEmpty, state)
  | .every first step =>
      (if step = 0 then state.number = first
        else first ≤ state.number && (state.number - first) % step = 0, state)
  | .fits regex ignoreCase =>
      match regex.or state.regex with
      | none => (false, noRegex state)
      | some regex =>
          ((regex.find? (subjectOf state.space ignoreCase false) 0).isSome,
            { state with regex := some regex })

/-- Whether a command is for the line that is worked on. -/
def chosen (index : Nat) (command : EditScript.Command) (state : State) : Bool × State :=
  match command.first, command.last with
  | none, _ => (true, state)
  | some first, none => matches? first state
  | some first, some last =>
      let others := state.opened.filter (·.1 ≠ index)
      let begin : Bool × State := { state with opened := others } |> fun state =>
        let (hit, state) := matches? first state
        if !hit then (false, state)
        else
          let openTo (stop : Option Nat) : Bool × State :=
            (true, { state with opened := (index, stop) :: state.opened })
          match last with
          | .address (.line number) =>
              if number ≤ state.number then (true, state) else openTo (some number)
          | .address _ => openTo none
          | .further 0 => (true, state)
          | .further count => openTo (some (state.number + count))
          | .multiple step =>
              if step = 0 ∨ state.number % step = 0 then (true, state)
              else openTo (some ((state.number / step + 1) * step))
      match state.opened.lookup index with
      | some (some stop) =>
          if state.number < stop then (true, state)
          else if state.number = stop then (true, { state with opened := others })
          else
            match last with
            | .address (.line _) => begin
            | _ => (true, { state with opened := others })
      | some none =>
          match last with
          | .address address =>
              let (hit, state) := matches? address state
              (true, if hit then { state with opened := others } else state)
          | _ => (true, state)
      | none =>
          match first, last with
          | .line 0, .address address =>
              if state.number = 1 then
                let (hit, state) := matches? address state
                (true, if hit then state else { state with opened := (index, none) :: others })
              else (false, state)
          | _, _ => begin

/-- Builds what stands in for a match. The cases are those for all that follows and for the next
character. -/
def substitute (line : List Char) (place : Nat × Regex.Place) :
    Option Char → Option Char → List EditScript.Substitute → List Char
  | _, _, [] => []
  | all, one, piece :: rest =>
      let changed (chars : List Char) : List Char × Option Char :=
        let change (letter : Option Char) (c : Char) : Char := match letter with
          | some 'U' | some 'u' => c.toUpper
          | some 'L' | some 'l' => c.toLower
          | _ => c
        match chars.map (change all), chars with
        | _ :: more, c :: _ => (change (one.or all) c :: more, none)
        | _, _ => ([], one)
      match piece with
      | .case letter =>
          if letter = 'u' ∨ letter = 'l' then substitute line place all (some letter) rest
          else substitute line place (if letter = 'E' then none else some letter) none rest
      | .text chars =>
          let (chars, one) := changed chars
          chars ++ substitute line place all one rest
      | .group number =>
          let (first, stop) := if number = 0 then (place.1, place.2.position)
            else (place.2.groups.lookup number).getD (0, 0)
          let (chars, one) := changed ((line.take stop).drop first)
          chars ++ substitute line place all one rest

/-- Replaces matches from a position on. An empty match right behind another one does not
count. -/
def replaceFrom (replacing : Replacing) (regex : Regex) (line : List Char) :
    Nat → Nat → Nat → Option Nat → List Char × Bool
  | 0, start, _, _ => (line.drop start, false)
  | fuel + 1, start, count, before =>
      let subject := subjectOf line replacing.ignoreCase replacing.lines
      match if line.length < start then none else regex.find? subject start with
      | none => (line.drop start, false)
      | some (first, place) =>
          let stop := place.position
          let front := (line.take first).drop start
          let past := (line.drop stop).take 1
          if first = stop ∧ before = some first then
            let (rest, replaced) := replaceFrom replacing regex line fuel (stop + 1) count before
            (front ++ past ++ rest, replaced)
          else
            let wanted := replacing.first ≤ count + 1
            let text := if wanted then substitute line (first, place) none none replacing.pieces
              else (line.take stop).drop first
            if wanted && !replacing.all then (front ++ text ++ line.drop stop, true)
            else if first = stop then
              let (rest, replaced) :=
                replaceFrom replacing regex line fuel (stop + 1) (count + 1) (some stop)
              (front ++ text ++ past ++ rest, wanted || replaced)
            else
              let (rest, replaced) :=
                replaceFrom replacing regex line fuel stop (count + 1) (some stop)
              (front ++ text ++ rest, wanted || replaced)

/-- The place of a label; the end of the script for an empty one. -/
def labelPlace (script : Script) (name : String) : Nat :=
  if name = "" then script.commands.size
  else script.commands.toList.findIdx fun command => match command.verb with
    | .label other => name = other
    | _ => false

/-- The place behind a block. -/
def blockEnd (script : Script) (index : Nat) : Nat :=
  let rec close : Nat → Nat → List EditScript.Command → Nat
    | place, _, [] => place
    | place, depth, command :: rest => match command.verb with
        | .openBlock => close (place + 1) (depth + 1) rest
        | .closeBlock => if depth ≤ 1 then place + 1 else close (place + 1) (depth - 1) rest
        | _ => close (place + 1) depth rest
  close index 0 (script.commands.toList.drop index)

/-- A line as it is shown without ambiguity. -/
def listed (line : List Char) : String :=
  let letter (c : Char) : List Char :=
    if c = '\\' then ['\\', '\\']
    else if ShellQuoted.isPrintable c then [c] else ShellQuoted.escaped c
  String.ofList (line.flatMap letter) ++ "$\n"

/-- Goes to the next line within a cycle. -/
def advance (script : Script) (join : Bool) (state : State) : Next × State :=
  match readLine? (if state.rest.isEmpty then state else flush script state) with
  | none => (.quit true, state)
  | some (line, next) =>
      (.goOn, { next with space := if join then state.space ++ '\n' :: line else line })

def simple (script : Script) (letter : Char) (state : State) : Next × State :=
  let (front, behind) := state.space.span (· ≠ '\n')
  match letter with
  | '=' => (.goOn, put script (decimal state.number ++ "\n") state)
  | 'd' => (.endCycle, { state with space := [] })
  | 'D' =>
      if behind = [] then (.endCycle, { state with space := [] })
      else (.restart, { state with space := behind.drop 1 })
  | 'g' => (.goOn, { state with space := state.kept })
  | 'G' => (.goOn, { state with space := state.space ++ '\n' :: state.kept })
  | 'h' => (.goOn, { state with kept := state.space })
  | 'H' => (.goOn, { state with kept := state.kept ++ '\n' :: state.space })
  | 'x' => (.goOn, { state with space := state.kept, kept := state.space })
  | 'l' => (.goOn, put script (listed state.space) state)
  | 'n' =>
      if state.rest.isEmpty then (.quit true, state)
      else advance script false (if script.quiet then state else putLine script state.space state)
  | 'N' => advance script true state
  | 'p' => (.goOn, putLine script state.space state)
  | 'P' => (.goOn, put script (String.ofList front ++ "\n") state)
  | 'z' => (.goOn, { state with space := [] })
  | 'F' => (.goOn, put script (script.name ++ "\n") state)
  | _ => (.goOn, state)

/-- Does one command on the line that is worked on. -/
def execute (script : Script) (index : Nat) (command : EditScript.Command) (state : State) :
    Next × State :=
  match command.verb with
  | .openBlock | .closeBlock | .label _ => (.goOn, state)
  | .jump condition label =>
      let jumps := condition = 'b' || (condition = 't') == state.replaced
      let state := if condition = 'b' then state else { state with replaced := false }
      if jumps then (.jump (labelPlace script label), state) else (.goOn, state)
  | .text 'a' text => (.goOn, { state with queue := state.queue ++ [(false, text)] })
  | .text 'i' text => (.goOn, put script text state)
  | .text _ text =>
      let inside := !command.negated && (state.opened.lookup index).isSome
      (.endCycle, { (if inside then state else put script text state) with space := [] })
  | .replace replacing =>
      match replacing.regex.or state.regex with
      | none => (.quit false, noRegex state)
      | some regex =>
          let (line, replaced) := replaceFrom replacing regex state.space
            (state.space.length + 2) 0 0 none
          let state := { state with regex := some regex }
          if !replaced then (.goOn, state)
          else
            let state := { state with space := line, replaced := true }
            let state := if replacing.print then putLine script line state else state
            match replacing.file with
            | some name => (.goOn, putFile script name (String.ofList line ++ "\n") state)
            | none => (.goOn, state)
  | .exchange pairs =>
      (.goOn, { state with space := state.space.map fun c => (pairs.lookup c).getD c })
  | .file 'r' name => (.goOn, { state with queue := state.queue ++ [(true, name)] })
  | .file 'w' name => (.goOn, putFile script name (String.ofList state.space ++ "\n") state)
  | .file _ name =>
      (.goOn, putFile script name (String.ofList (state.space.takeWhile (· ≠ '\n')) ++ "\n") state)
  | .quit printing status => (.quit printing, { state with status })
  | .simple letter => simple script letter state

/-- Runs the script on the line that is worked on, and goes on with the lines behind it. -/
def run (script : Script) : Nat → Nat → State → State
  | 0, _, state => state
  | fuel + 1, index, state =>
      let finish (state : State) : State :=
        let state := flush script state
        match readLine? state with
        | none => state
        | some (line, state) => run script fuel 0 { state with space := line, replaced := false }
      let print (state : State) : State :=
        if script.quiet then state else putLine script state.space state
      match script.commands[index]? with
      | none => finish (print state)
      | some command =>
          let (hit, state) := chosen index command state
          if state.fault.isSome then state
          else if hit = command.negated then
            let next := match command.verb with
              | .openBlock => blockEnd script index
              | _ => index + 1
            run script fuel next state
          else match execute script index command state with
            | (.goOn, state) => run script fuel (index + 1) state
            | (.jump place, state) => run script fuel place state
            | (.endCycle, state) => finish state
            | (.restart, state) => run script fuel 0 (flush script state)
            | (.quit printing, state) =>
                flush script (if printing then print state else state)

/-- How many commands a run may do. -/
def mostSteps : Nat := 10000000

/-- Runs a script over lines from their beginning; the written texts come the last one first. -/
def runLines (script : Script) (lines : List (List Char × Bool)) (state : State) : State :=
  let state := { state with rest := lines, number := 0, opened := [] }
  match readLine? state with
  | none => state
  | some (line, state) => run script mostSteps 0 { state with space := line, replaced := false }

def start : State where
  space := []
  ended := true
  kept := []
  number := 0
  rest := []
  opened := []
  replaced := false
  queue := []
  regex := none
  written := []
  unfinished := false
  files := []
  status := 0
  fault := none

end CatalogSeed.Utility.Edit
