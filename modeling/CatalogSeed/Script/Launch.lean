import CatalogSeed.Script.Program
import CatalogSeed.Script.Starting
import CatalogSeed.Utility.Awk.Call
import CatalogSeed.Utility.Finding
import CatalogSeed.Utility.Launching

/-!
Running programs: shells, utilities, and utilities that run other programs.
-/

namespace CatalogSeed.Script.Engine

open Utility (Job Limit Plan Result)

/-- Takes bytes off the standard input. -/
def takeInput (count : Nat) : Run Unit := do
  if let some number := (← get).channels.lookup 0 then
    Run.changeWorld fun world => world.advance number count

/-- Lets the time pass that a utility takes. One that does not end of itself is ended by the
deadline, if there is one. -/
def takeTime (duration : Option Nat) : Run Unit := do
  let before := (← get).world
  let span : Int := match duration, before.deadline with
    | some span, _ => span
    | none, some deadline => if before.expired then 0 else deadline.moment - before.tree.now
    | none, none => 0
  if span ≠ 0 then
    Run.changeWorld fun world => (world.pass span).release false
    let after := (← get).world
    if after.expired && !before.expired then
      if let some deadline := after.deadline then Run.stop (.killed deadline.signal)

/-- Writes what a utility has to say, and takes over its files and its status. -/
def takeResult (job : Job) (result : Result) : Run Unit := do
  Run.changeWorld fun world => { world with
    tree := { result.tree.rejoin world.tree with output := [], errors := [], now := world.tree.now } }
  takeInput result.taken
  Run.status result.status
  for piece in result.pieces do
    unless ← Run.write (if piece.toErrors then 2 else 1) piece.text do
      Run.writeError (job.name ++ ": write error: " ++ (← Run.writeFault 1) ++ "\n")
      Run.status (if job.utility = "ls" then 2 else 1)
  for (descriptor, text) in [(1, result.tree.output), (2, result.tree.errors)] do
    let _ ← Run.write descriptor (Octets.ofBytes text)
  takeTime result.duration

/-- Finds the program that a name leads to. With `anyKind`, a directory of the name counts as
something that may not be run. -/
def findProgram (anyKind : Bool) (name : String) (words : List String) :
    Run (Except FileError Program) := do
  let tree := (← get).world.tree
  let path ← if name.contains '/' then pure (some name) else Builtin.findPath? name
  match path with
  | none =>
      let forbidden ← Builtin.findForbidden? name anyKind
      return .error (if forbidden.isSome then .notPermitted else .notFound)
  | some path =>
      Builtin.noteProgram name
      match tree.program path words with
      | .error .badFormat => return .ok (.shell .plain path (path :: words))
      | found => return found.map (Program.lookedFor name path)

/-- Does something with the environment, and with no input, as a plan wants them. -/
def asPlanned {α : Type} (plan : Plan) (action : Run α) : Run α := do
  let known := plan.environment (← environment)
  let restore (before after : Shell) : Shell :=
    { after with
      vars := before.vars, channels := before.channels, sorting := before.sorting }
  Run.restoring restore do
    let path := if (known.lookup "PATH").isSome then []
      else [("PATH", Variable.ofText "/bin:/usr/bin" false)]
    modify fun shell => { shell with
      vars := path ++ known.map fun (name, value) => (name, .ofText value true)
      sorting := false }
    if plan.readsInput then
      let (number, world) := (← get).world.openStream .nothing
      modify fun shell => { shell with world }
      point 0 number
    action

/-- Does something in another directory. -/
def inDirectory {α : Type} (directory : Option (List String)) (action : Run α) : Run α := do
  let enter (place : List String) (shell : Shell) : Shell :=
    let tree := { shell.world.tree with workingDirectory := place }
    { shell with world := { shell.world with tree } }
  let restore (before after : Shell) : Shell :=
    enter before.world.tree.workingDirectory after
  Run.restoring restore do
    if let some place := directory then modify (enter place)
    action

/-- Runs a program, and gives the signal that ended it. Nothing goes on when the deadline ends
it. -/
def unlessKilled (action : Run Unit) : Run (Option Nat) := do
  try
    action
    return none
  catch
    | .killed signal =>
        if (← get).world.expired then Run.stop (.killed signal)
        Run.status (128 + signal)
        return some signal
    | reason => throw reason

/-- Runs a program for a utility. -/
def replyTo (job : Job) (request : Utility.Request) (run : Program → Run Unit) :
    Run Utility.Reply := do
  let (number, world) := (← get).world.openStream (.sink [] none)
  modify fun shell => { shell with world }
  let (missing, signal) ← asPlanned (Plan.plain job []) do
    if request.captures then point 1 number
    if let some text := request.input then
      let (number, world) := (← get).world.openStream (.source (Octets.toBytes text))
      modify fun shell => { shell with world }
      point 0 number
    inDirectory request.directory do
      match ← findProgram true (request.words.headD "") (request.words.drop 1) with
      | .ok program => return (none, ← unlessKilled (run program))
      | .error error =>
          Run.status 127
          return (some error, none)
  let shell ← get
  let text := shell.world.gathered number
  Run.changeWorld (World.close number)
  return ⟨text.toList, shell.status, missing, signal, shell.world.tree⟩

/-- Runs a utility with the programs that it asks for; `written` pieces of what it has to say were
written before. -/
def converse (job : Job) (talk : List Utility.Reply → Utility.Progress)
    (run : Program → Run Unit) : Nat → Nat → List Utility.Reply → Run Unit
  | 0, _, _ => return
  | requests + 1, written, replies => do
      let settle (result : Result) (last : Bool) : Run Unit :=
        takeResult job { result with
          pieces := result.pieces.drop written, taken := if last then result.taken else 0 }
      match talk replies with
      | .done result => settle result true
      | .asks request result =>
          settle result false
          let reply ← replyTo job request run
          converse job talk run requests result.pieces.length (replies ++ [reply])

/-- How many programs a utility can have run. -/
def mostRequests : Nat := 100000

/-- Makes a call of a plan, and tells whether there was something to call, and the signal that
ended it if there can be other calls. -/
def carryOutCall (plan : Plan) (words : List String) (run : Program → Run Unit) :
    Run (Bool × Option Nat) := do
  let program := words.headD ""
  if plan.showsCalls then
    Run.writeError (" ".intercalate (words.map Utility.shown) ++ "\n")
  asPlanned plan <| inDirectory plan.directory do
    match ← findProgram true program (words.drop 1) with
    | .ok found =>
        if plan.gathers then return (true, ← unlessKilled (run found))
        run found
        return (true, none)
    | .error error =>
        Run.writeError (plan.complaint program error ++ "\n")
        Run.status (if error = .notFound then 127 else 126)
        return (false, none)

/-- Makes the calls of a plan, gathers their statuses into one, and stops at what is not to happen.
`failed` tells that one of them has failed. -/
def gatherCalls (job : Job) (plan : Plan) (run : Program → Run Unit) (failed : Bool) :
    List (List String) → Run Unit
  | [] => do
      if let some message := plan.failure then
        Run.writeError (job.name ++ ": " ++ message ++ "\n")
      Run.status (if failed then 123 else if plan.failure.isSome then 1 else 0)
  | words :: rest => do
      let (started, signal) ← carryOutCall plan words run
      let status := (← get).status
      let stop (message : String) (code : Nat) : Run Unit := do
        Run.writeError (job.name ++ ": " ++ words.headD "" ++ ": " ++ message ++ "\n")
        Run.status (if failed && rest ≠ [] then 123 else code)
      match signal with
      | some signal => stop ("terminated by signal " ++ decimal signal) 125
      | none =>
          if !started then return
          else if status = 255 then stop "exited with status 255; aborting" 124
          else gatherCalls job plan run (failed || status ≠ 0) rest

/-- Runs what a utility has planned. -/
def carryOut (job : Job) (plan : Plan) (run : Program → Run Unit) : Run Unit := do
  if plan.readsInput then takeInput job.input.length
  for warning in plan.warnings do
    Run.writeError (job.name ++ ": " ++ warning ++ "\n")
  if plan.gathers then gatherCalls job plan run false plan.calls
  else
    for words in plan.calls do
      let _ ← carryOutCall plan words run

/-- Does something that may take only so long. -/
def withLimit (job : Job) (limit : Limit) (program : String) (action : Run Unit) : Run Unit := do
  let before := (← get).world
  let own : Deadline := ⟨before.tree.now + limit.duration, limit.signal⟩
  let sooner := match before.deadline with
    | some deadline => !before.expired && deadline.moment ≤ own.moment
    | none => false
  if sooner then action
  else
    Run.changeWorld fun world => { world with deadline := some own, expired := false }
    let ended : Option Nat ← try
        action
        pure none
      catch
        | .killed signal => pure (some signal)
        | reason => throw reason
    let status := (← get).status
    let after := (← get).world
    let passed := match before.deadline with
      | some deadline => decide (deadline.moment ≤ after.tree.now)
      | none => false
    Run.changeWorld fun world =>
      { world with deadline := before.deadline, expired := before.expired || passed }
    if !after.expired then
      if let some signal := ended then Run.stop (.killed signal)
    else
      if limit.tells then
        let name := (signalNames.lookup limit.signal).getD ""
        Run.writeError (job.name ++ ": sending signal " ++ name ++ " to command " ++
          Utility.named program ++ "\n")
      let kept := match ended with
        | some signal => 128 + signal
        | none => status
      Run.status (if limit.keepsStatus then kept else if limit.signal = 9 then 128 + 9 else 124)

/-- How much may be written to a descriptor without end. -/
def roomFor (descriptor : Nat) : Run Nat := do
  let shell ← get
  return match (shell.channels.lookup descriptor).map shell.world.stream with
    | some (.sink _ (some room)) => room + 1
    | _ => 2 * waitingRoom

/-- What a utility is given. -/
def jobOf (utility name : String) (words : List String) : Run Job := do
  let shell ← get
  let number := shell.channels.lookup 0
  let left := (number.bind fun number => shell.world.left number).getD []
  let kind := match number.map shell.world.stream with
    | some (.file _ _ _) => Utility.InputKind.file
    | some .directory => .directory
    | _ => .stream
  let fileAt (descriptor : Nat) : Option Nat :=
    match (shell.channels.lookup descriptor).map shell.world.stream with
    | some (.file node _ _) => some node
    | _ => none
  return { utility, name, arguments := words, input := left.map Octets.toChar, inputKind := kind
           inputFile := fileAt 0, outputFile := fileAt 1, room := ← roomFor 1
           tree := shell.world.tree, environment := ← environment }

/-- How long it takes to start a program, in nanoseconds. -/
def startTime : Int := 100000

/-- How many programs can start one another. -/
def longestChain : Nat := 1000

/-- Runs a program that was found. -/
def runProgram (engine : Engine) : Nat → Program → Run Unit
  | 0, _ => return
  | chain + 1, program => do
      Run.changeWorld (World.pass startTime)
      match program with
      | .shell dialect name words =>
          match ← engine.runShell dialect name words with
          | .error (.killed signal) => Run.stop (.killed signal)
          | _ => return
      | .utility utility name words =>
          let job ← jobOf utility name words
          let run := runProgram engine chain
          if utility = "find" then converse job (Utility.find job) run mostRequests 0 []
          else if ["awk", "mawk"].contains utility then
            converse job (Utility.Awk.converse job) run mostRequests 0 []
          else match Utility.plan? job with
            | none => takeResult job (engine.utility job)
            | some (.error result) => takeResult job result
            | some (.ok plan) =>
                match plan.limit with
                | some limit =>
                    let program := (plan.calls.headD []).headD ""
                    withLimit job limit program (carryOut job plan run)
                | none => carryOut job plan run

/-- Runs a program that was found. -/
def runFound (engine : Engine) (program : Program) : Run Unit :=
  engine.runProgram longestChain program

/-- Runs a program that was found, as a child of the shell. -/
def runChild (engine : Engine) (program : Program) : Run Unit := do
  try engine.runFound program
  catch
    | .killed signal => settleChild (.error (.killed signal))
    | _ => return
  heed

/-- Says that a program cannot be run. -/
def missing (name : String) (error : FileError) : Run Unit := do
  let shell ← get
  let absent := [FileError.notFound, .notDirectory, .endless, .nameTooLong].contains error
  let byName := !name.contains '/'
  let forbidden ← if byName then Builtin.findForbidden? name false else pure none
  let shown := if shell.dialect = .extended then forbidden.getD name else name
  let why := match shell.dialect with
    | .plain =>
        if name = "" then "Permission denied"
        else if error = .notFound ∨ error = .notDirectory then "not found"
        else Utility.reason error
    | .extended =>
        if forbidden.isSome then "Permission denied"
        else if byName then "command not found"
        else match shell.world.tree.resolve (Octets.toText name) with
          | .ok (_, .directory) => "Is a directory"
          | .ok _ =>
              if error = .notFound then "cannot execute: required file not found"
              else Utility.reason error
          | .error _ => Utility.reason error
  Run.warn (shown ++ ": " ++ why)
  let unsought := byName && shell.dialect = .plain && shell.command ≠ some "exec"
  Run.status (if absent || unsought then 127 else 126)

/-- Runs a program by name. -/
def launch (engine : Engine) (name : String) (words : List String) : Run Unit := do
  Run.changeWorld (World.release false)
  let anyKind := (← get).dialect = .plain
  match ← findProgram anyKind name words with
  | .ok program =>
      unless anyKind do
        let path := (← Builtin.findPath? name).getD name
        modify fun shell => shell.withVariable "_" (some (.ofText path true))
      engine.runChild program
  | .error error => missing name error

end CatalogSeed.Script.Engine
