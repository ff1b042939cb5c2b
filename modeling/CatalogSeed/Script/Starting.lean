import CatalogSeed.Script.Extended.Options
import CatalogSeed.Script.Redirecting

/-!
How a shell starts: the words it is called with, the variables it begins with, and the text whose
commands it runs.
-/

namespace CatalogSeed.Script

/-- What the words of a call ask of a shell: its options, whether its commands are among the words
or come from its input, and the words behind the options. -/
structure Start where
  options : List Char
  features : List String
  asText : Bool
  fromInput : Bool
  words : List String

namespace Start

def fresh (dialect : Dialect) : Start :=
  ⟨[], if dialect = .extended then Extended.startFeatures else [], false, false, []⟩

/-- The letter of an option that has a name. -/
def optionLetter? (dialect : Dialect) (name : String) : Option Char :=
  match dialect with
  | .plain => Builtin.optionNames.lookup name
  | .extended => Extended.optionNames.lookup name

/-- What is wrong with an option. -/
def unknownOption (dialect : Dialect) (sign : Char) (letter : String) : String :=
  match dialect with
  | .plain => "Illegal option " ++ sign.toString ++ letter
  | .extended =>
      if letter.length = 1 then sign.toString ++ letter ++ ": invalid option"
      else "bash: " ++ String.ofList (letter.toList.drop 2) ++ ": invalid option name"

/-- Reads the words that a shell is started with. -/
def read (dialect : Dialect) : Nat → List String → Start → Except String Start
  | 0, _, start => .ok start
  | fuel + 1, words, start =>
      let known := match dialect with
        | .plain => "efmnsxvVECabuIil"
        | .extended => "abefhikmnlprtuvxBCDEHPTO"
      match words with
      | [] => .ok { start with words := [] }
      | "--" :: rest => .ok { start with words := rest }
      | "-" :: rest => .ok { start with words := rest }
      | word :: rest =>
          match word.toList with
          | '-' :: '-' :: name =>
              if dialect = .extended ∧ ["posix", "norc", "noprofile", "login", "noediting",
                  "verbose"].contains (String.ofList name) then read dialect fuel rest start
              else .error (unknownOption dialect '-' "-")
          | sign :: letters =>
              if sign ≠ '-' ∧ sign ≠ '+' then .ok { start with words }
              else
                let plain := letters.filter fun c => c ≠ 'o' && c ≠ 'c' && c ≠ 's'
                match plain.find? fun c => !known.contains c with
                | some letter => .error (unknownOption dialect sign letter.toString)
                | none =>
                    let set := plain.filter fun c => c ≠ 'O'
                    let others := start.options.filter fun c => !set.contains c
                    let start := { start with
                      options := if sign = '-' then set ++ others else others
                      asText := start.asText || letters.contains 'c'
                      fromInput := start.fromInput || letters.contains 's' }
                    let (start, rest) := if plain.contains 'O' then
                        ({ start with features := rest.take 1 ++ start.features }, rest.drop 1)
                      else (start, rest)
                    match letters.contains 'o', rest with
                    | true, name :: rest =>
                        match optionLetter? dialect name with
                        | some letter =>
                            let others := start.options.filter (· ≠ letter)
                            let options := if sign = '-' then letter :: others else others
                            read dialect fuel rest { start with options }
                        | none => .error (unknownOption dialect sign ("o " ++ name))
                    | _, _ => read dialect fuel rest start
          | [] => .ok { start with words }

end Start

/-- Where programs are looked for if nothing else is said. -/
def defaultPath : String :=
  "/usr/local/sbin:/usr/local/bin:/usr/sbin:/usr/bin:/sbin:/bin"

/-- The variables that a shell begins with, besides the ones it is given. -/
def startVariables (dialect : Dialect) (parent : Nat) (directory : String) :
    List (String × Variable) :=
  let common := [
    ("IFS", Variable.ofText " \t\n" false), ("OPTIND", .ofText "1" false),
    ("PWD", .ofText directory true)]
  common ++ match dialect with
    | .plain => [
        ("PPID", .ofText (decimal parent) false)]
    | .extended => [
        ("BASH", .ofText "/bin/bash" false), ("BASH_VERSION", .ofText "5.2.21(1)-release" false),
        ("BASH_VERSINFO", Variable.fresh.withItems ⟨false, [("0", "5"), ("1", "2"), ("2", "21"),
          ("3", "1"), ("4", "release"), ("5", "x86_64-pc-linux-gnu")]⟩),
        ("EUID", fixed "0"), ("HOSTTYPE", .ofText "x86_64" false),
        ("MACHTYPE", .ofText "x86_64-pc-linux-gnu" false), ("OPTERR", .ofText "1" false),
        ("OSTYPE", .ofText "linux-gnu" false), ("PPID", fixed (decimal parent)),
        ("PS4", .ofText "+ " false), ("UID", fixed "0")]
where
  fixed (text : String) : Variable := ⟨some text, false, true, none, ['i']⟩

/-- The variables that a shell has if it is not given others. -/
def fallbackVariables : Dialect → List (String × Variable)
  | .plain => [("PS1", .ofText "# " false), ("PS2", .ofText "> " false),
      ("PS4", .ofText "+ " false), ("PATH", .ofText defaultPath false)]
  | .extended => [("PATH", .ofText defaultPath false)]

/-- The number of the group in which a shell keeps a variable. -/
def group (dialect : Dialect) (name : String) : Nat :=
  match dialect with
  | .plain => nameGroup 39 name
  | .extended =>
      let mix (sum : UInt32) (c : Char) : UInt32 := sum * 16777619 ^^^ c.val
      (name.toList.foldl mix 2166136261).toNat % 1024

/-- What of its environment a shell takes for variables. -/
def isTaken (dialect : Dialect) (tree : FileTree) (name value : String) : Bool :=
  isName name && match dialect, name with
    | .extended, "PS1" | .extended, "PS2" => false
    | .extended, "OLDPWD" => tree.isDirectory (Octets.toText value)
    | _, _ => true


namespace Engine

/-- The variables that programs get to know, in the order of the shell's groups. -/
def environment : Run (List (String × String)) := do
  let shell ← get
  let exported := shell.vars.filterMap fun (name, entry) =>
    if entry.exported then entry.value.map (name, ·) else none
  let sorted (entries : List (String × String)) : List (String × String) :=
    entries.mergeSort fun one other => group shell.dialect one.1 ≤ group shell.dialect other.1
  if !shell.sorting then return exported
  return match shell.dialect with
    | .plain => sorted exported
    | .extended =>
        let (last, others) := exported.reverse.partition (·.1 = "_")
        sorted others ++ last

/-- Runs the commands that come from the input. -/
def runInput (engine : Engine) (arguments : List String) : Run Unit := do
  modify fun shell => { shell with arguments, options := 's' :: shell.options }
  match ← Run.streamOf? 0 with
  | none => return
  | some number =>
      let left := ((← get).world.left number).getD []
      Run.changeWorld fun world => world.advance number left.length
      engine.runScript "" (Octets.ofBytes left)

/-- Runs the commands of a file. -/
def runFile (engine : Engine) (path : String) (arguments : List String) : Run Unit := do
  let plain := (← get).dialect = .plain
  match (← get).world.tree.read (Octets.toText path) with
  | .ok content =>
      modify fun shell => { shell with name := path, place := path, arguments }
      engine.runScript "" (Octets.ofBytes content)
  | .error error =>
      if plain then
        if error ≠ .isDirectory then refuseFile false path error
      else
        let name := (← get).name
        let text := if error = .isDirectory then path ++ ": " ++ path else name ++ ": " ++ path
        Run.writeError (text ++ ": " ++ Utility.reason error ++ "\n")
        Run.status (if error = .notFound then 127 else 126)

/-- Begins what the words ask for. -/
def start (engine : Engine) (words : List String) : Run Unit := do
  let dialect := (← get).dialect
  match Start.read dialect (words.length + 1) words (.fresh dialect) with
  | .error message =>
      match dialect with
      | .plain => Run.fail message
      | .extended =>
          Run.writeError ((← get).name ++ ": " ++ message ++ "\n")
          Run.status 2
  | .ok start =>
      modify fun shell => { shell with options := start.options, features := start.features }
      if start.asText then
        match start.words, dialect with
        | [], .plain => Run.fail "-c requires an argument"
        | [], .extended =>
            Run.writeError ((← get).name ++ ": -c: option requires an argument\n")
            Run.status 2
        | text :: rest, _ =>
            let name := rest.headD (← get).name
            modify fun shell => { shell with name, place := name, arguments := rest.drop 1 }
            engine.runScript "-c: " text
      else match start.words with
        | [] => engine.runInput []
        | path :: rest =>
            if start.fromInput then engine.runInput start.words else engine.runFile path rest

/-- Runs a shell of its own, takes its status, and gives how it ended. -/
def runShell (engine : Engine) (dialect : Dialect) (name : String) (words : List String) :
    Run (Except Stop Unit) := do
  let parent ← get
  let given := (← environment).filterMap fun (name, value) =>
    if isTaken dialect parent.world.tree name value then some (name, Variable.ofText value true)
    else none
  let directory := Builtin.pathOf parent.world.tree.workingDirectory
  let standard := startVariables dialect parent.process directory
  let level := ((given.lookup "SHLVL").bind (·.value)).bind String.toNat?
  let standard := match dialect with
    | .plain => standard
    | .extended =>
        ("SHLVL", .ofText (decimal (level.getD 0 + 1)) true) :: ("_", .ofText name false) :: standard
  let begin (vars : List (String × Variable)) : String × Variable → List (String × Variable)
    | (name, entry) =>
        let known := ((vars.lookup name).map (·.exported)).getD false
        placed name { entry with exported := entry.exported || known } vars
  let vars := (given ++ standard).foldl begin (fallbackVariables dialect)
  let child : Shell := { parent with
    name, place := name, arguments := [], vars, functions := [], options := [], status := 0
    line := 0, reading := 0, command := none, tested := false, loops := 0, calls := 0, locals := []
    documents := [], asked := 0, aliases := [], hashed := []
    traps := parent.traps.filter fun (name, action) => action = "" && name ≠ "EXIT"
    signals := []
    captured := 0, process := parent.world.processes, separate := false, background := none
    optionOffset := 0, depth := 0, shells := 0, sources := 0, calling := [], features := []
    directories := [], pending := "", sorting := true, struck := parent.world.expired
    dialect
    world := { parent.world with processes := parent.world.processes + 1, held := [] } }
  let (result, after) := (engine.toEnd (engine.start words)).run.run child
  let tree := after.world.tree.rejoin parent.world.tree
  let held := parent.world.held ++ after.world.held
  set { parent with world := { after.world with tree, held }, status := after.status % 256 }
  return result

end Engine

end CatalogSeed.Script
