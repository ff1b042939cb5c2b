import CatalogSeed.Script.Setting

/-!
Signals: their names, what is set for them, sending them, and waiting for commands beside the shell
that they may have ended.
-/

namespace CatalogSeed.Script

/-- Names of signals without their common beginning, by number. -/
def signalNames : List (Nat × String) := [
  (0, "EXIT"), (1, "HUP"), (2, "INT"), (3, "QUIT"), (4, "ILL"), (5, "TRAP"), (6, "ABRT"),
  (7, "BUS"), (8, "FPE"), (9, "KILL"), (10, "USR1"), (11, "SEGV"), (12, "USR2"), (13, "PIPE"),
  (14, "ALRM"), (15, "TERM"), (16, "16"), (17, "CHLD"), (18, "CONT"), (19, "STOP"),
  (20, "TSTP"), (21, "TTIN"), (22, "TTOU"), (23, "URG"), (24, "XCPU"), (25, "XFSZ"),
  (26, "VTALRM"), (27, "PROF"), (28, "WINCH"), (29, "IO"), (30, "PWR"), (31, "SYS"),
  (32, "32"), (33, "33"), (34, "RTMIN"), (35, "RTMIN+1"), (36, "RTMIN+2"), (37, "RTMIN+3"),
  (38, "RTMIN+4"), (39, "RTMIN+5"), (40, "RTMIN+6"), (41, "RTMIN+7"), (42, "RTMIN+8"),
  (43, "RTMIN+9"), (44, "RTMIN+10"), (45, "RTMIN+11"), (46, "RTMIN+12"), (47, "RTMIN+13"),
  (48, "RTMIN+14"), (49, "RTMIN+15"), (50, "RTMAX-14"), (51, "RTMAX-13"), (52, "RTMAX-12"),
  (53, "RTMAX-11"), (54, "RTMAX-10"), (55, "RTMAX-9"), (56, "RTMAX-8"), (57, "RTMAX-7"),
  (58, "RTMAX-6"), (59, "RTMAX-5"), (60, "RTMAX-4"), (61, "RTMAX-3"), (62, "RTMAX-2"),
  (63, "RTMAX-1"), (64, "RTMAX")]

/-- A signal by number or, in letters of any case, by name. -/
def signalNumber? (least : Nat) (text : String) : Option Nat :=
  if text ≠ "" ∧ text.all Char.isDigit then text.toNat?.filter (· ≤ 64)
  else
    (signalNames.find? fun (number, name) => least ≤ number ∧ name = text.toUpper).map Prod.fst

/-- Signals that do nothing to a process that does not ask for them. -/
def harmlessSignals : List Nat := [0, 17, 18, 19, 20, 21, 22, 23, 28]

/-- What a shell says about a child that a signal ended. -/
def signalText? (signal : Nat) : Option String :=
  if 34 ≤ signal then some ("Real-time signal " ++ decimal (signal - 34))
  else [(1, "Hangup"), (3, "Quit"), (4, "Illegal instruction"), (5, "Trace/breakpoint trap"),
    (6, "Aborted"), (7, "Bus error"), (8, "Floating point exception"), (9, "Killed"),
    (10, "User defined signal 1"), (11, "Segmentation fault"), (12, "User defined signal 2"),
    (14, "Alarm clock"), (15, "Terminated"), (16, "Stack fault"),
    (24, "CPU time limit exceeded"), (25, "File size limit exceeded"),
    (26, "Virtual timer expired"), (27, "Profiling timer expired"), (29, "I/O possible"),
    (30, "Power failure"), (31, "Bad system call")].lookup signal

namespace Builtin

def trap (words : List String) : Run Unit := do
  let (options, words) ← Run.options "p" words
  let words := if options ≠ [] then [] else words
  match words with
  | [] =>
      let traps := (← get).traps
      let listed := signalNames.filterMap fun (_, name) =>
        (traps.lookup name).map fun action =>
          "trap -- " ++ singleQuote action ++ " " ++ name ++ "\n"
      Run.print (String.join listed)
  | [name] => setTrap none [name]
  | action :: names =>
      if (signalNumber? 0 action).isSome && action.all Char.isDigit then
        setTrap none (action :: names)
      else setTrap (if action = "-" then none else some action) names
where
  setTrap (action : Option String) : List String → Run Unit
    | [] => return
    | name :: rest => do
        match (signalNumber? 0 name).bind fun number => signalNames.lookup number with
        | none =>
            Run.writeError ("trap: " ++ name ++ ": bad trap\n")
            Run.status 1
        | some signal =>
            modify fun shell =>
              let others := shell.traps.filter (·.1 ≠ signal)
              { shell with traps := match action with
                  | some action => (signal, action) :: others
                  | none => others }
            setTrap action rest

/-- The signal that a command sends, and the words behind it. -/
def sentSignal (words : List String) : Run (Nat × List String) := do
  let usage : Run (Nat × List String) := Run.fail
    "Usage: kill [-s sigspec | -signum | -sigspec] [pid | job]... or\nkill -l [exitstatus]"
  match words with
  | [] => usage
  | word :: rest =>
      match word.toList with
      | '-' :: name =>
          match signalNumber? 1 (String.ofList name) with
          | some number => if rest = [] then usage else return (number, rest)
          | none =>
              let (options, targets) ← Run.options "ls:" words
              let named := (options.filter (·.1 = 's')).getLast?.map Prod.snd
              match named with
              | none => if targets = [] then usage else return (15, targets)
              | some name =>
                  match signalNumber? 1 name with
                  | some number => if targets = [] then usage else return (number, targets)
                  | none => Run.fail ("invalid signal number or name: " ++ name)
      | _ => return (15, words)

def listSignals (words : List String) : Run Unit := do
  match words with
  | [] =>
      let lines := (signalNames.drop 1).map fun (_, name) => name ++ "\n"
      Run.print ("0\n" ++ String.join lines)
  | word :: _ =>
      let number ← Run.count word
      let number := if 128 < number then number - 128 else number
      match if number = 0 then none else signalNames.lookup number with
      | some name => Run.print (name ++ "\n")
      | none => Run.fail ("invalid signal number or exit status: " ++ word)

/-- Sends a signal to the shell itself. -/
def receive (signal : Nat) : Run Unit := do
  if signal = 0 then return
  let name := (signalNames.lookup signal).getD ""
  match (← get).traps.lookup name with
  | some _ =>
      if signal = 9 then Run.stop (.killed signal)
      else modify fun shell => { shell with signals := shell.signals ++ [name] }
  | none =>
      unless harmlessSignals.contains signal do
        Run.stop (.killed signal)

def kill (words : List String) : Run Unit := do
  if words.head? = some "-l" then listSignals words.tail
  else
    let (signal, targets) ← sentSignal words
    for target in targets do
      let minus := target.startsWith "-"
      let number ← Run.count (if minus then String.ofList (target.toList.drop 1) else target)
      let shell ← get
      if number = shell.process then
        if shell.separate then
          unless harmlessSignals.contains signal do
            Run.changeWorld fun world => { world with killed := some signal }
        else receive signal
      else if (shell.world.child? number).isSome then
        unless harmlessSignals.contains signal do
          Run.changeWorld (World.sendChild signal number)
      else
        Run.warn "No such process\n"
        Run.status 1

/-- Says which signals ended commands beside the shell. -/
def reportChildren : Run Unit := do
  let children := (← get).world.children
  Run.changeWorld fun world =>
    { world with children := world.children.map fun child => { child with signal := none } }
  for child in children.reverse do
    match child.signal.bind signalText? with
    | some text => Run.writeError (text ++ "\n")
    | none => pure ()

def wait (words : List String) : Run Unit := do
  let (_, words) ← Run.options "" words
  if words = [] then
    Run.changeWorld World.awaitAll
    reportChildren
  for word in words do
    let number ← Run.count word
    Run.changeWorld (World.await number)
    Run.status ((((← get).world.child? number).map (·.status)).getD 127)
    reportChildren

end Builtin

end CatalogSeed.Script
