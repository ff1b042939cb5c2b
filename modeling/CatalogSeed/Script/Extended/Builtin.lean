import CatalogSeed.Script.Builtin
import CatalogSeed.Script.Extended.Declaring
import CatalogSeed.Script.Extended.Input
import CatalogSeed.Script.Verdict

/-!
The commands that a shell knows itself, in the extended dialect.
-/

namespace CatalogSeed.Script.Extended

def names : List String :=
  Builtin.names.filter (· ≠ "chdir") ++
    ["builtin", "caller", "declare", "dirs", "disown", "enable", "help", "history", "let", "logout",
      "mapfile", "popd", "pushd", "readarray", "shopt", "source", "suspend", "typeset"]

def keywordNames : List String :=
  keywords ++ extendedKeywords ++ ["]]", "coproc", "select", "time"]

/-- All that a name can stand for, first what comes first; `forced` leaves functions out. -/
def known (forced : Bool) (name : String) : Run (List Builtin.Known) := do
  let shell ← get
  let keyword := if keywordNames.contains name then [Builtin.Known.keyword] else []
  let function := if !forced && (shell.functions.lookup name).isSome then [Builtin.Known.function]
    else []
  let replacement := if shell.features.contains "expand_aliases" then shell.aliases.lookup name
    else none
  let aliased := replacement.toList.map Builtin.Known.alias
  let builtin := if names.contains name then [Builtin.Known.builtin] else []
  let programs ← if name.contains '/' then
      pure (if Builtin.isExecutable shell.world.tree name then [name] else [])
    else
      pure (((← Builtin.searchPath).map (· ++ name)).filter
        (Builtin.isExecutable shell.world.tree))
  return aliased ++ keyword ++ function ++ builtin ++ programs.map .program

def sentence (name : String) : Builtin.Known → String
  | .keyword => name ++ " is a shell keyword\n"
  | .alias replacement => name ++ " is aliased to \x60" ++ replacement ++ "'\n"
  | .function => name ++ " is a function\n"
  | .special | .builtin => name ++ " is a shell builtin\n"
  | .program path => name ++ " is " ++ path ++ "\n"

def kind : Builtin.Known → String
  | .keyword => "keyword\n"
  | .alias _ => "alias\n"
  | .function => "function\n"
  | .special | .builtin => "builtin\n"
  | .program _ => "file\n"

/-- A name as one would write it. -/
def written (name : String) : Builtin.Known → String
  | .alias replacement => "alias " ++ name ++ "=" ++ inputText replacement ++ "\n"
  | .program path => path ++ "\n"
  | _ => name ++ "\n"

def describeTypes (words : List String) : Run Unit := do
  let (options, words) ← options "afptP" words
  let has (letter : Char) : Bool := options.any (·.1 = letter)
  for word in words do
    let all ← known (has 'f') word
    let isProgram (found : Builtin.Known) : Bool := kind found = "file\n"
    let all := if has 'P' then all.filter isProgram else all
    let chosen := if has 'a' then all else all.take 1
    if chosen.isEmpty then
      unless has 't' || has 'p' || has 'P' do
        Run.warn (word ++ ": not found")
      Run.status 1
    for found in chosen do
      Run.print (
        if has 't' then kind found
        else if has 'p' || has 'P' then if isProgram found then written word found else ""
        else sentence word found)

/-- Says what names stand for: in sentences, or as one would write them. -/
def describe (sentences : Bool) (words : List String) : Run Unit := do
  let mut anyFound := words.isEmpty
  for word in words do
    match ← known false word with
    | found :: _ =>
        anyFound := true
        Run.print (if sentences then sentence word found else written word found)
    | [] =>
        if sentences then
          Run.warn (word ++ ": not found")
  unless anyFound do
    Run.status 1

def printf (words : List String) : Run Unit := do
  let (options, words) ← options "v:" words
  match words with
  | [] => showUsage
  | format :: words =>
      let filled := fillIn .extended format words
      Run.status filled.status
      let target := options.getLast?.map Prod.snd
      for (complains, text) in filled.pieces do
        if complains then Run.warn text
        else if target = none then Run.print text
      match target with
      | none => pure ()
      | some target =>
          let (name, key) := settingName target
          if isName name then Setting.apply ⟨name, key, filled.text, none, false⟩
          else
            refuseName target
            Run.status 2

def test (words : List String) : Run Unit := do
  match Verdict.outcome (← Verdict.scene) words with
  | .ok outcome => Run.status (if outcome then 0 else 1)
  | .error message =>
      Run.warn message
      Run.status 2

/-- Goes to a directory, and tells whether that was possible. -/
def enter (physical : Bool) (target : String) : Run Bool := do
  let before ← Builtin.workingDirectory
  let path := if target.startsWith "/" then target
    else if before = "/" then before ++ target
    else before ++ "/" ++ target
  let tree := (← get).world.tree
  let straight := Builtin.straighten path
  let logical := if (tree.resolve (Octets.toText path)).isOk && !physical then straight else path
  match tree.resolve (Octets.toText (if target = "" then before else logical)) with
  | .ok (location, .directory) =>
      Builtin.arrive location before (if physical then Builtin.pathOf location else straight)
      return true
  | .ok _ =>
      complain (target ++ ": Not a directory")
      return false
  | .error error =>
      complain (target ++ ": " ++ (error.message.splitOn " (os error").headD "")
      return false

def changeDirectory (words : List String) : Run Unit := do
  let (options, words) ← options "LPe" words
  let physical := (options.getLast?.map Prod.fst) = some 'P'
  let (target, message) ← match words with
    | [] => pure ((← Run.lookup? "HOME"), "HOME not set")
    | ["-"] => pure ((← Run.lookup? "OLDPWD"), "OLDPWD not set")
    | [target] => pure (some target, "")
    | _ => pure (none, "too many arguments")
  match target with
  | none => complain message
  | some wanted =>
      let (target, found) ← Builtin.meantDirectory wanted
      if (← enter physical target) && (found || words = ["-"]) then
        Run.print ((← Builtin.workingDirectory) ++ "\n")

/-- Lists the directory the shell is in, and those to come back to. -/
def listDirectories (_ : List String) : Run Unit := do
  let home := (← Run.lookup? "HOME").getD ""
  let all := (← Builtin.workingDirectory) :: (← get).directories
  let shown (path : String) : String :=
    if home ≠ "" ∧ (path = home ∨ path.startsWith (home ++ "/")) then
      "~" ++ String.ofList (path.toList.drop home.length)
    else path
  Run.print (" ".intercalate (all.map shown) ++ "\n")

/-- Goes to a directory, to come back later to the one before. -/
def pushDirectory (words : List String) : Run Unit := do
  let before ← Builtin.workingDirectory
  match words, (← get).directories with
  | [], [] => complain "no other directory"
  | [], last :: others =>
      if ← enter false last then
        modify fun shell => { shell with directories := before :: others }
        listDirectories []
  | target :: _, others =>
      if ← enter false target then
        modify fun shell => { shell with directories := before :: others }
        listDirectories []

/-- Comes back to a directory. -/
def popDirectory (_ : List String) : Run Unit := do
  match (← get).directories with
  | [] => complain "directory stack empty"
  | last :: others =>
      if ← enter false last then
        modify fun shell => { shell with directories := others }
        listDirectories []

def aliases (words : List String) : Run Unit := do
  let (_, words) ← options "p" words
  let line (entry : String × String) : String :=
    "alias " ++ entry.1 ++ "=" ++ inputText entry.2 ++ "\n"
  if words = [] then
    Run.print (String.join (((← get).aliases.mergeSort fun a b => a.1 ≤ b.1).map line))
  for word in words do
    match partSetting word with
    | (name, some value) =>
        modify fun shell =>
          { shell with aliases := (name, value) :: shell.aliases.filter (·.1 ≠ name) }
    | (name, none) =>
        match (← get).aliases.lookup name with
        | some value => Run.print (line (name, value))
        | none => complain (name ++ ": not found")

def unalias (words : List String) : Run Unit := do
  let (options, names) ← options "a" words
  if options ≠ [] then
    modify fun shell => { shell with aliases := [] }
  else if names = [] then
    showUsage
  for name in names do
    if ((← get).aliases.lookup name).isNone then
      complain (name ++ ": not found")
    modify fun shell => { shell with aliases := shell.aliases.filter (·.1 ≠ name) }

/-- The number of steps that a word says; complains if it says none. -/
def numberOf? (word : String) : Run (Option Int) := do
  match number? false word with
  | some number => return some number
  | none =>
      complain (word ++ ": numeric argument required")
      return none

def shift (words : List String) : Run Unit := do
  let arguments := (← get).arguments
  match words with
  | _ :: _ :: _ => complain "too many arguments"
  | words =>
      match ← numberOf? (words.headD "1") with
      | none => return
      | some count =>
          if count < 0 then complain (words.headD "" ++ ": shift count out of range")
          else if (arguments.length : Int) < count then Run.status 1
          else
            modify fun shell => { shell with
              arguments := arguments.drop count.toNat, optionOffset := 0 }

/-- Works out expressions; the status says whether the last one is zero. -/
def calculateAll (words : List String) : Run Unit := do
  if words = [] then
    complain "expression expected"
  else
    try
      let mut last : Int := 0
      for word in words do
        last ← calculate word
      Run.status (if last = 0 then 1 else 0)
    catch
      | .discard => Run.stop .error
      | reason => throw reason

end CatalogSeed.Script.Extended
