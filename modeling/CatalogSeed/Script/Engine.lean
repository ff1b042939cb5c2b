import CatalogSeed.Script.Builtin
import CatalogSeed.Utility.Basic

/-!
Running the commands of a text, in the shell or in a copy of it, and what becomes of signals,
failures and children. How one command is run is given.
-/

namespace CatalogSeed.Script

/-- How commands, and programs, are run. -/
structure Engine where
  run : Command → Run Unit
  utility : Utility.Job → Utility.Result
  rounds : Nat

/-- A text with commands: what complaints about it say in front, and the number of its first
line. -/
structure Passage where
  label : String
  line : Nat
  text : List Char

/-- Complains that a passage cannot be read on. -/
def Passage.refuse (passage : Passage) (fault : Fault) : Run Unit := do
  modify fun shell => { shell with line := fault.line }
  let shell ← get
  match shell.dialect with
  | .plain => Run.fail (fault.messages.headD "")
  | .extended =>
      let front := shell.place ++ ": " ++ passage.label ++ "line " ++ decimal fault.line ++ ": "
      let lines := passage.text.splitOn '\n'
      let cited := "\x60" ++ String.ofList (lines.getD (fault.line - passage.line) []) ++ "'"
      let messages := fault.messages ++ if fault.cited then [cited] else []
      Run.writeError (String.join (messages.map fun message => front ++ message ++ "\n"))
      Run.status 2
      Run.stop .error

namespace Engine

/-- Runs a command that was read. In the extended dialect, the rest of the commands of a line can
be left out without the shell's end. -/
def runRead (engine : Engine) (command : Command) : Run Unit := do
  if (← get).options.contains 'n' then return
  try engine.run command
  catch
    | .discard =>
        if 0 < (← get).shells then
          Run.stop .discard
    | reason => throw reason

/-- Runs the commands of a text one after the other. -/
def runText (engine : Engine) (passage : Passage) : Nat → Reader → Run Unit
  | 0, _ => return
  | rounds + 1, reader => do
      let shell ← get
      let expands := shell.dialect = .plain || shell.features.contains "expand_aliases"
      let reader := { reader with
        aliases := if expands then shell.aliases else []
        documents := shell.documents
        asked := shell.asked
        warnings := [] }
      let found := Parser.nextLine reader
      if shell.options.contains 'v' ∧ passage.label = "" then
        let left := match found with
          | .ok (_, after) => after.rest.length
          | .error _ => 0
        Run.writeError (String.ofList (reader.rest.take (reader.rest.length - left)))
      match found with
      | .error fault => passage.refuse fault
      | .ok (none, _) => return
      | .ok (some command, reader) =>
          modify fun shell =>
            { shell with
              documents := reader.documents, asked := reader.asked, reading := reader.line }
          for (line, message) in reader.warnings.reverse do
            Run.writeError (shell.place ++ ": line " ++ decimal line ++ ": " ++ message ++ "\n")
          match command with
          | some command => engine.runRead command
          | none => pure ()
          engine.runText passage rounds reader

/-- Runs a passage from its first line on. -/
def runPassage (engine : Engine) (passage : Passage) : Run Unit := do
  let shell ← get
  let text := passage.text.filter (· ≠ '\x00')
  let closed := shell.dialect = .plain || text = [] || text.getLast? = some '\n'
  let text := if closed then text else text ++ ['\n']
  Run.restoring (fun before after => { after with reading := before.reading }) <|
    engine.runText { passage with text } (text.length + 1)
      ⟨text, passage.line, none, [], [], 0, [], [], none, [], shell.dialect⟩

def runScript (engine : Engine) (label text : String) : Run Unit :=
  engine.runPassage ⟨label, 1, text.toList⟩

/-- Runs the action set for a signal, and keeps the status. -/
def runTrap (engine : Engine) (line : Nat) (action : String) : Run Unit := do
  let status := (← get).status
  engine.runPassage ⟨"trap: ", line, action.toList⟩
  Run.status status

/-- Runs what is set for an event, in functions only if an option asks for this. -/
def runEvent (engine : Engine) (event : String) (option : Char) : Run Unit := do
  let shell ← get
  match shell.traps.lookup event with
  | some action =>
      if shell.calling = [] ∨ shell.options.contains option then
        let restore (before after : Shell) : Shell :=
          { after with traps := before.traps, line := before.line }
        Run.restoring restore do
          modify fun shell => { shell with traps := shell.traps.filter (·.1 ≠ event) }
          Run.testing (engine.runTrap shell.line action)
  | none => return

/-- Runs what is set for the signals that have come in. -/
def settleSignals (engine : Engine) : Run Unit := do
  let names := (← get).signals
  unless names = [] do
    modify fun shell => { shell with signals := [] }
    for name in names do
      match (← get).traps.lookup name with
      | some action => engine.runTrap 1 action
      | none => pure ()

/-- Runs what is set for signals and failures, and ends the shell when a command failed that should
not. -/
def checkFailure (engine : Engine) : Run Unit := do
  engine.settleSignals
  let shell ← get
  if shell.status ≠ 0 ∧ !shell.tested then
    engine.runEvent "ERR" 'E'
    if shell.options.contains 'e' then
      Run.stop .exit

/-- Runs what is set for the end of the shell. -/
def runExit (engine : Engine) : Run Unit := do
  match (← get).traps.lookup "EXIT" with
  | none => return
  | some text =>
      modify fun shell => { shell with traps := shell.traps.filter (·.1 ≠ "EXIT") }
      let status := (← get).status
      try
        engine.runScript "exit trap: " text
        Run.status status
      catch
        | .killed signal => throw (.killed signal)
        | _ => pure ()

/-- Runs something as the whole of a shell. What was held back comes when nothing else does. -/
def toEnd (engine : Engine) (action : Run Unit) : Run Unit := do
  try
    try action
    catch
      | .killed signal => throw (.killed signal)
      | _ => pure ()
    engine.runExit
    Run.changeWorld (World.release true)
  catch reason =>
    Run.changeWorld (World.release true)
    throw reason

/-- Takes note of how a child ended. -/
def settleChild (result : Except Stop Unit) : Run Unit := do
  match result with
  | .error (.killed signal) =>
      Run.status (128 + signal)
      match signalText? signal with
      | some text => Run.writeError (text ++ "\n")
      | none => return
  | _ => return

/-- Receives the signal that a child has sent to the shell, and the one that comes with the
deadline. -/
def heed : Run Unit := do
  let shell ← get
  if shell.world.expired && !shell.struck then
    set { shell with struck := true }
    if let some deadline := shell.world.deadline then Builtin.receive deadline.signal
  match shell.world.killed with
  | some signal =>
      unless shell.separate do
        Run.changeWorld fun world => { world with killed := none }
        Builtin.receive signal
  | none => return

/-- Runs something in a copy of the shell, of which only the world and the status are left. -/
def separately (engine : Engine) (action : Run Unit) : Run Unit := do
  Run.changeWorld (World.release false)
  let shell ← get
  let inside := { shell with
    traps := shell.traps.filter (·.2 = "")
    shells := shell.shells + 1
    separate := true
    struck := shell.world.expired
    world := { shell.world with held := [] } }
  let (result, after) := (engine.toEnd action).run.run inside
  let tree := after.world.tree.rejoin shell.world.tree
  let held := shell.world.held ++ after.world.held
  set { shell with world := { after.world with tree, held }, status := after.status % 256 }
  settleChild result
  heed

/-- Commands whose output is wanted: a lone redirection of the extended dialect stands for the text
of the file. -/
def reading (extended : Bool) (command : Command) : Command :=
  match extended, command with
  | true, .simple line [] [] [.file 0 .read path] =>
      .simple line [] [[.literal "cat" false]] [.file 0 .read path]
  | _, command => command

/-- The output of commands. -/
def capture (engine : Engine) (command : Option Command) : Run String := do
  let shell ← get
  let (number, world) := shell.world.openStream (.sink [] none)
  set { shell with world }
  let extended := shell.dialect = .extended
  let keepsFailing := !extended || shell.features.contains "inherit_errexit"
  match command with
  | none => Run.status 0
  | some command =>
      engine.separately do
        modify fun shell => { shell with
          tested := false
          depth := shell.depth + 1
          options := if keepsFailing then shell.options else shell.options.filter (· ≠ 'e')
          channels := (1, number) :: shell.channels.filter (·.1 ≠ 1) }
        engine.run (reading extended command)
  let text := (← get).world.gathered number
  Run.changeWorld (World.close number)
  modify fun after => { after with captured := after.status, status := shell.status }
  let text := text.toList.filter (· ≠ '\x00')
  return String.ofList (text.reverse.dropWhile (· = '\n')).reverse

end Engine

end CatalogSeed.Script
