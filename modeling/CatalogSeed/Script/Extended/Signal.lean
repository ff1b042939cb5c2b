import CatalogSeed.Script.Extended.Builtin
import CatalogSeed.Script.Extended.Limit

/-!
Signals and children in the extended dialect, and all commands of this dialect by name.
-/

namespace CatalogSeed.Script.Extended

/-- Events besides signals for which actions can be set. -/
def events : List String := ["DEBUG", "ERR", "RETURN"]

/-- The name of a signal or an event, which may be given with the common beginning of signals. -/
def signalOf? (text : String) : Option String :=
  let upper := text.toUpper
  let short := if upper.startsWith "SIG" then String.ofList (upper.toList.drop 3) else upper
  if events.contains upper then some upper
  else (signalNumber? 0 short).bind fun number => signalNames.lookup number

def fullName (signal : String) : String :=
  if signal = "EXIT" ∨ events.contains signal then signal else "SIG" ++ signal

/-- All signals with their numbers, five to a line. -/
def signalTable : String :=
  let signals := signalNames.filter fun (number, _) => number ≠ 0 && number ≠ 32 && number ≠ 33
  let cell (entry : (Nat × String) × Nat) : String :=
    let ((number, name), index) := entry
    let label := (if number < 10 then " " else "") ++ decimal number ++ ") SIG" ++
      if number = 16 then "STKFLT" else name
    label ++ if index % 5 = 4 ∨ index + 1 = signals.length then "\n" else "\t"
  String.join (signals.zipIdx.map cell)

def trap (words : List String) : Run Unit := do
  let (options, words) ← options "lp" words
  let traps := (← get).traps
  let line (name : String) : String :=
    match traps.lookup name with
    | some action => "trap -- " ++ inputText action ++ " " ++ fullName name ++ "\n"
    | none => ""
  let all := (signalNames.map Prod.snd) ++ events
  let change (action : Option String) (name : String) : Run Unit := do
    match signalOf? name with
    | none => complain (name ++ ": invalid signal specification")
    | some signal =>
        modify fun shell =>
          let others := shell.traps.filter (·.1 ≠ signal)
          { shell with traps := match action with
              | some action => (signal, action) :: others
              | none => others }
  if options.any (·.1 = 'l') then Run.print signalTable
  else if options ≠ [] || words = [] then
    if words = [] then Run.print (String.join (all.map line))
    else
      for word in words do
        match signalOf? word with
        | some signal => Run.print (line signal)
        | none => complain (word ++ ": invalid signal specification")
  else match words with
    | [name] =>
        if (signalOf? name).isSome then change none name else showUsage
    | action :: names =>
        if (signalNumber? 0 action).isSome && action.all Char.isDigit then
          for name in action :: names do
            change none name
        else
          for name in names do
            change (if action = "-" then none else some action) name
    | [] => return

/-- Names numbers of signals, and numbers names. -/
def listSignals (words : List String) : Run Unit := do
  if words = [] then Run.print signalTable
  for word in words do
    match word.toNat? with
    | some number =>
        let number := if 128 < number then number - 128 else number
        match signalNames.lookup number with
        | some name => Run.print (name ++ "\n")
        | none => complain (word ++ ": invalid signal specification")
    | none =>
        match (signalOf? word).bind fun name => signalNames.find? (·.2 = name) with
        | some (number, _) => Run.print (decimal number ++ "\n")
        | none => complain (word ++ ": invalid signal specification")

/-- Sends a signal to what words say. -/
def send (signal : Nat) (targets : List String) : Run Unit := do
  if targets = [] then
    showUsage
  let mut failures := 0
  for target in targets do
    let shell ← get
    match number? false target with
    | none =>
        failures := failures + 1
        if target.startsWith "%" then Run.warn (target ++ ": no such job")
        else Run.warn (target ++ ": arguments must be process or job IDs")
    | some number =>
        if number = (shell.process : Nat) ∨ number = 0 then
          if shell.separate then
            unless harmlessSignals.contains signal do
              Run.changeWorld fun world => { world with killed := some signal }
          else Builtin.receive signal
        else if (shell.world.child? number.natAbs).isSome then
          unless harmlessSignals.contains signal do
            Run.changeWorld (World.sendChild signal number.natAbs)
        else
          failures := failures + 1
          Run.warn ("(" ++ target ++ ") - No such process")
  Run.status (if failures = targets.length then 1 else 0)

def kill (words : List String) : Run Unit := do
  let sendNamed (name : String) (targets : List String) : Run Unit := do
    let number? := (signalOf? name).bind fun name => signalNames.find? (·.2 = name)
    match number? with
    | some (number, _) => send number targets
    | none => complain (name ++ ": invalid signal specification")
  match words with
  | [] => showUsage
  | "-l" :: names | "-L" :: names => listSignals names
  | "-s" :: name :: targets | "-n" :: name :: targets => sendNamed name targets
  | ["-s"] | ["-n"] => misused (words.headD "" ++ ": option requires an argument")
  | "--" :: targets => send 15 targets
  | word :: targets =>
      match word.toList with
      | '-' :: name => sendNamed (String.ofList name) targets
      | _ => send 15 words

def wait (words : List String) : Run Unit := do
  let (options, words) ← options "fnp:" words
  let next := options.any (·.1 = 'n')
  if words = [] then
    if next then
      match (← get).world.nextChild? with
      | some child =>
          Run.changeWorld (World.await child.process)
          Run.status child.status
      | none => Run.status 127
    else Run.changeWorld World.awaitAll
  for word in words do
    match number? false word with
    | some number =>
        Run.changeWorld (World.await number.toNat)
        match (← get).world.child? number.toNat with
        | some child => Run.status child.status
        | none =>
            Run.warn ("pid " ++ word ++ " is not a child of this shell")
            Run.status 127
    | none =>
        if word.startsWith "%" then
          Run.warn (word ++ ": no such job")
          Run.status 127
        else complain ("\x60" ++ word ++ "': not a pid or valid job spec")

/-- The complaint about a word that cannot be a mask. -/
def refuseMask (word : String) : Option (Run Unit) :=
  if (word.toList.head?.map Char.isDigit).getD false then
    if word.toList.all Permission.isOctal then none
    else some (complain (word ++ ": octal number out of range"))
  else (word.toList.splitOn ',').findSome? fun clause =>
    match clause.dropWhile "ugoa".toList.contains with
    | sign :: rights =>
        if !"+-=".toList.contains sign then
          some (complain ("\x60" ++ sign.toString ++ "': invalid symbolic mode operator"))
        else (rights.find? fun c => !"rwx".toList.contains c).map fun c =>
          complain ("\x60" ++ c.toString ++ "': invalid symbolic mode character")
    | [] => none

/-- The commands of this dialect. Lists of values that are declared come beside the words. -/
def command? (name : String) (settings : List Setting) : Option (List String → Run Unit) :=
  match name with
  | ":" | "true" | "disown" | "enable" | "help" | "history" | "jobs" | "logout" | "suspend" =>
      some fun _ => return
  | "bg" | "fg" => some fun _ => complain "no job control"
  | "hash" => some fun words => do
      let (_, names) ← options "lrp:dt" words
      for name in names do
        if (← Builtin.findPath? name).isNone && !Extended.names.contains name then
          complain (name ++ ": not found")
  | "caller" | "false" => some fun _ => Run.status 1
  | "alias" => some aliases
  | "cd" => some changeDirectory
  | "declare" | "local" | "typeset" => some fun words => declareNames words settings
  | "dirs" => some listDirectories
  | "popd" => some popDirectory
  | "pushd" => some pushDirectory
  | "echo" => some fun words => Run.print (echoAsGiven words)
  | "export" => some fun words => exportNames words settings
  | "getopts" => some fun words => do
      let (_, words) ← options "" words
      if words.length < 2 then showUsage else Builtin.getOptions words
  | "kill" => some kill
  | "let" => some calculateAll
  | "mapfile" | "readarray" => some readLines
  | "printf" => some printf
  | "pwd" => some fun words => do Builtin.showDirectory (← options "LP" words).1
  | "read" => some read
  | "readonly" => some fun words => readOnlyNames words settings
  | "set" => some changeOptions
  | "shift" => some shift
  | "shopt" => some changeFeatures
  | "test" => some test
  | "[" => some fun words => do
      if words.getLast? = some "]" then test words.dropLast
      else
        Run.warn "missing \x60]'"
        Run.status 2
  | "times" => some fun _ => Run.print "0m0.000s 0m0.000s\n0m0.000s 0m0.000s\n"
  | "trap" => some trap
  | "type" => some describeTypes
  | "ulimit" => some limits
  | "umask" => some fun words => do
      let (options, words) ← options "pS" words
      let letters := options.any (·.1 = 'S')
      if words = [] ∧ options.any (·.1 = 'p') then
        Run.print (if letters then "umask -S " else "umask ")
      Builtin.permissions refuseMask letters words
  | "unalias" => some unalias
  | "unset" => some unsetNames
  | "wait" => some wait
  | _ => none

end CatalogSeed.Script.Extended
