import CatalogSeed.Script.Channel
import CatalogSeed.Script.Ending
import CatalogSeed.Script.Grammar

/-!
What a shell knows while it runs. An action can stop what is being run, as far as the kind of stop
says.
-/

namespace CatalogSeed.Script

/-- Several values under one name, in their order. Unless `named`, the keys are numbers. -/
structure Items where
  named : Bool
  entries : List (String × String)

/-- A variable; its `traits` are letters that tell what is made of the values that it is given. -/
structure Variable where
  value : Option String
  exported : Bool
  readOnly : Bool
  items : Option Items
  traits : List Char

def Variable.fresh : Variable := ⟨none, false, false, none, []⟩

def Variable.ofText (text : String) (exported : Bool) : Variable :=
  ⟨some text, exported, false, none, []⟩

/-- What stops the commands that are being run. The status is the shell's. -/
inductive Stop
  /-- The shell ends. -/
  | exit
  /-- The shell ends, unless a command in between takes errors as its outcome. -/
  | error
  /-- The rest of the commands that were read together is left out. -/
  | discard
  | broken (loops : Nat)
  | continued (loops : Nat)
  | returned
  | killed (signal : Nat)
  deriving DecidableEq

/-- `name` is what the shell goes by, `place` the file whose commands it runs; `calling` are the
functions that are being run, `sources` counts the files, `shells` the copies of the shell within
one another, and `depth` those whose output is wanted; `directories` are those to come back to,
`pending` is what the command that is being run has still to print, `line` is the line of the command
and `reading` the one that the script is read up to, `sorting` tells that programs get the variables
in groups, and `struck` that the shell knows of a deadline that has passed. -/
structure Shell where
  name : String
  place : String
  arguments : List String
  vars : List (String × Variable)
  functions : List (String × Command)
  options : List Char
  status : Nat
  line : Nat
  reading : Nat
  command : Option String
  tested : Bool
  loops : Nat
  calls : Nat
  locals : List (List (String × Option Variable))
  channels : List (Nat × Nat)
  documents : List (Nat × Word)
  asked : Nat
  aliases : List (String × String)
  hashed : List String
  traps : List (String × String)
  signals : List String
  captured : Nat
  process : Nat
  separate : Bool
  background : Option Nat
  optionOffset : Nat
  depth : Nat
  shells : Nat
  sources : Nat
  calling : List String
  features : List String
  directories : List String
  pending : String
  sorting : Bool
  struck : Bool
  dialect : Dialect
  world : World

/-- A table with another entry for a name, where the name stands or behind all others. -/
def placed {α : Type} (name : String) (entry : α) : List (String × α) → List (String × α)
  | [] => [(name, entry)]
  | (other, before) :: rest =>
      if other = name then (name, entry) :: rest else (other, before) :: placed name entry rest

/-- The group that a name belongs to in a table with so many groups. -/
def nameGroup (groups : Nat) (name : String) : Nat :=
  let codes := name.toList.map Char.toNat
  (16 * codes.headD 0 + codes.foldl (· + ·) 0) % groups

/-- The shell with a variable as it is to be. -/
def Shell.withVariable (shell : Shell) (name : String) (entry : Option Variable) : Shell :=
  { shell with vars := match entry with
      | some entry => placed name entry shell.vars
      | none => shell.vars.filter (·.1 ≠ name) }

abbrev Run := ExceptT Stop (StateM Shell)

def decimal (n : Nat) : String :=
  String.ofList (Nat.toDigits 10 n)

def signedDecimal (n : Int) : String :=
  if n < 0 then "-" ++ decimal n.natAbs else decimal n.natAbs

namespace Run

def stop {α : Type} (reason : Stop) : Run α :=
  throw reason

/-- Sets the status and goes on. -/
def status (code : Nat) : Run Unit :=
  modify fun shell => { shell with status := code }

def changeWorld (change : World → World) : Run Unit :=
  modify fun shell => { shell with world := change shell.world }

/-- The number of the stream behind a descriptor. -/
def streamOf? (descriptor : Nat) : Run (Option Nat) :=
  return (← get).channels.lookup descriptor

/-- Writes to a descriptor, and tells whether that was possible. Whoever writes what nobody takes
any more is ended. -/
def write (descriptor : Nat) (text : String) : Run Bool := do
  if text = "" then return true
  match ← streamOf? descriptor with
  | none => return false
  | some number =>
      match (← get).world.write number text with
      | none => return false
      | some world =>
          modify fun shell => { shell with world }
          if world.isFull number then stop (.killed 13)
          return true

def writeError (text : String) : Run Unit := do
  let _ ← write 2 text

/-- Says something, and where in the script. -/
def report (message : String) : Run Unit := do
  let shell ← get
  let front := match shell.dialect with
    | .plain => shell.name ++ ": " ++ decimal shell.line ++ ": "
    | .extended => shell.place ++ ": line " ++ decimal shell.line ++ ": "
  writeError (front ++ message ++ "\n")

/-- Says something about the command that is being run. -/
def warn (message : String) : Run Unit := do
  report ((((← get).command.map (· ++ ": ")).getD "") ++ message)

def isExtended : Run Bool :=
  return (← get).dialect = .extended

/-- Complains and stops with a status. -/
def failWith {α : Type} (code : Nat) (message : String) : Run α := do
  warn message
  status code
  stop .error

def fail {α : Type} (message : String) : Run α :=
  failWith 2 message

/-- Complains about a word that cannot be filled in. -/
def refuse {α : Type} (message : String) : Run α := do
  if ← isExtended then
    warn message
    status 1
    stop .discard
  else fail message

/-- Complains, in the words of the dialect, and stops. -/
def failAs {α : Type} (plain extended : String) : Run α := do
  if ← isExtended then failWith 1 extended else fail plain

def lookup? (name : String) : Run (Option String) :=
  return (((← get).vars.lookup name).bind (·.value))

def setVariable (name : String) (change : Variable → Variable) : Run Unit :=
  modify fun shell =>
    let before := (shell.vars.lookup name).getD .fresh
    shell.withVariable name (some (change before))

/-- Complains if a variable cannot be changed. -/
def checkChange (name : String) : Run Unit := do
  let shell ← get
  if !isName name then
    failAs (name ++ ": bad variable name") ("\x60" ++ name ++ "': not a valid identifier")
  else if ((shell.vars.lookup name).map (·.readOnly)).getD false then
    if shell.dialect = .extended then
      report (name ++ ": readonly variable")
      status 1
      stop (if shell.command.isSome then .error else .discard)
    else fail (name ++ ": is read only")

/-- Gives a variable a value. -/
def assign (name value : String) : Run Unit := do
  checkChange name
  let exported := (← get).options.contains 'a'
  setVariable name fun before =>
    let items := before.items.map fun items =>
      let others := items.entries.filter (·.1 ≠ "0")
      { items with entries := ("0", value) :: others }
    { before with value := some value, exported := before.exported || exported, items }
  if name = "OPTIND" then
    modify fun shell => { shell with optionOffset := 0 }
  if name = "PATH" then
    modify fun shell => { shell with hashed := [] }

/-- Forgets a variable. -/
def unset (name : String) : Run Unit := do
  let shell ← get
  if ((shell.vars.lookup name).map (·.readOnly)).getD false then
    failAs (name ++ ": is read only") (name ++ ": cannot unset: readonly variable")
  else
    set (shell.withVariable name none)

/-- Does something as part of a test, where failing commands do not end the shell. -/
def testing {α : Type} (action : Run α) : Run α := do
  let before := (← get).tested
  modify fun shell => { shell with tested := true }
  try
    let result ← action
    modify fun shell => { shell with tested := before }
    return result
  catch reason =>
    modify fun shell => { shell with tested := before }
    throw reason

/-- Does something, and puts parts of the shell back as they were, also when it stops. -/
def restoring {α : Type} (restore : Shell → Shell → Shell) (action : Run α) : Run α := do
  let before ← get
  try
    let result ← action
    modify (restore before)
    return result
  catch reason =>
    modify (restore before)
    throw reason

/-- Does something in a copy of the shell. Only the world and the status come out of it. -/
def separately (action : Run Unit) : Run Unit := fun shell =>
  let (_, after) := action shell
  (.ok (), { shell with world := after.world, status := after.status })

end Run

end CatalogSeed.Script
