import CatalogSeed.Files.Permission
import CatalogSeed.Script.Condition
import CatalogSeed.Script.Limit
import CatalogSeed.Script.Printing
import CatalogSeed.Script.Signal

/-!
The commands that a shell knows itself and that run no others: they print, compare, move between
directories and look up names.
-/

namespace CatalogSeed.Script

namespace Builtin

/-- What commands are, for those who ask by name. -/
inductive Known
  | keyword
  | alias (replacement : String)
  | function
  | special
  | builtin
  | program (path : String)

def names : List String :=
  [".", ":", "[", "alias", "bg", "break", "cd", "chdir", "command", "continue", "echo", "eval",
    "exec", "exit", "export", "false", "fg", "getopts", "hash", "jobs", "kill", "local", "printf",
    "pwd", "read", "readonly", "return", "set", "shift", "test", "times", "trap", "true", "type",
    "ulimit", "umask", "unalias", "unset", "wait"]

def isExecutable (tree : FileTree) (path : String) : Bool :=
  match tree.nodeAt (Octets.toText path) with
  | .ok node => node.item.isPlain && node.isRunnable
  | _ => false

/-- The directories where programs are looked for. -/
def searchPath : Run (List String) := do
  let path := (← Run.lookup? "PATH").getD ""
  return (path.toList.splitOn ':').map fun directory =>
    if directory = [] then "" else String.ofList directory ++ "/"

/-- Looks for a program by name. -/
def findPath? (name : String) : Run (Option String) := do
  let tree := (← get).world.tree
  if name.contains '/' then return if isExecutable tree name then some name else none
  else
    return (← searchPath).findSome? fun directory =>
      if isExecutable tree (directory ++ name) then some (directory ++ name) else none

/-- What goes by the name of a program, but cannot be run: a file, or with `anyKind` a directory
as well. -/
def findForbidden? (name : String) (anyKind : Bool) : Run (Option String) := do
  if name = "" then return none
  else
    let tree := (← get).world.tree
    return (← searchPath).findSome? fun directory =>
      match tree.resolve (Octets.toText (directory ++ name)) with
      | .ok (_, item) => if anyKind || item.isPlain then some (directory ++ name) else none
      | .error _ => none

/-- Takes note of a program that was found by its name. -/
def noteProgram (name : String) : Run Unit := do
  unless name.contains '/' do
    modify fun shell => { shell with
      hashed := if shell.hashed.contains name then shell.hashed else shell.hashed ++ [name] }

/-- Takes note of a program, unless something else goes by the name. -/
def noteIfProgram (name : String) : Run Unit := do
  let shell ← get
  unless names.contains name || (shell.functions.lookup name).isSome do
    if (← findPath? name).isSome then noteProgram name

def known? (name : String) : Run (Option Known) := do
  let shell ← get
  if keywords.contains name then return some .keyword
  else match shell.aliases.lookup name with
    | some replacement => return some (.alias replacement)
    | none =>
        if (shell.functions.lookup name).isSome then return some .function
        else if names.contains name then
          return some (if specialCommands.contains name then .special else .builtin)
        else
          let found := shell.world.tree.resolve (Octets.toText name)
          let path ← if name.contains '/' && found.isOk then pure (some name) else findPath? name
          return path.map .program

/-- Says what a name stands for: in a sentence, or as one would write it. -/
def describe (sentence : Bool) (name : String) : Run Unit := do
  match ← known? name with
  | none =>
      if sentence then
        Run.print (name ++ ": not found\n")
      Run.status 127
  | some found =>
      let hashed := (← get).hashed.contains name
      if let .program _ := found then
        noteProgram name
      if sentence then
        Run.print (name ++ match found with
          | .keyword => " is a shell keyword\n"
          | .alias replacement => " is an alias for " ++ replacement ++ "\n"
          | .function => " is a shell function\n"
          | .special => " is a special shell builtin\n"
          | .builtin => " is a shell builtin\n"
          | .program path =>
              (if hashed then " is a tracked alias for " else " is ") ++ path ++ "\n")
      else
        Run.print (match found with
          | .alias replacement => "alias " ++ name ++ "=" ++ singleQuote replacement ++ "\n"
          | .program path => path ++ "\n"
          | _ => name ++ "\n")

def printf (words : List String) : Run Unit := do
  let (_, words) ← Run.options "" words
  match words with
  | [] => Run.fail "usage: printf format [arg ...]"
  | format :: words =>
      let filled := fillIn .plain format words
      Run.status filled.status
      for (complains, text) in filled.pieces do
        if complains then Run.warn text else Run.print text

def test (words : List String) : Run Unit := do
  let tree := (← get).world.tree
  match Condition.outcome tree (words.length + 1) words with
  | .ok outcome => Run.status (if outcome then 0 else 1)
  | .error message => Run.fail message

/-- The path of a location. -/
def pathOf (location : List String) : String :=
  Octets.ofText ("/" ++ "/".intercalate location)

def workingDirectory : Run String := do
  let tree := (← get).world.tree
  let real := pathOf tree.workingDirectory
  match ← Run.lookup? "PWD" with
  | some path => return if Condition.sameFile tree path real then path else real
  | none => return real

/-- A path without points and double slashes, from the root. -/
def straighten (path : String) : String :=
  let walk (names : List (List Char)) (name : List Char) : List (List Char) :=
    if name = [] ∨ name = ['.'] then names
    else if name = ['.', '.'] then names.drop 1
    else name :: names
  let names := (path.toList.splitOn '/').foldl walk []
  let double := path.startsWith "//" && !path.startsWith "///"
  (if double then "//" else "/") ++ "/".intercalate (names.reverse.map String.ofList)

/-- The directory that a target means, and whether it was found in a list of directories that
targets may be in. -/
def meantDirectory (target : String) : Run (String × Bool) := do
  let fixed := target = "" || [".", ".."].contains target ||
    ["/", "./", "../"].any (target.startsWith ·)
  match ← Run.lookup? "CDPATH" with
  | none => return (target, false)
  | some list =>
      let tree := (← get).world.tree
      let found := (list.splitOn ":").find? fun directory =>
        tree.isDirectory (Octets.toText (inside directory target))
      match found, fixed with
      | some directory, false => return (inside directory target, directory ≠ "")
      | _, _ => return (target, false)
where
  inside (directory target : String) : String :=
    if directory = "" then target else directory ++ "/" ++ target

/-- Takes note of the directory that the shell has gone to. -/
def arrive (location : List String) (before path : String) : Run Unit := do
  Run.changeWorld fun world =>
    { world with tree := { world.tree with workingDirectory := location } }
  for (name, value) in [("OLDPWD", before), ("PWD", path)] do
    Run.assign name value
    Run.setVariable name fun entry => { entry with exported := true }

def changeDirectory (words : List String) : Run Unit := do
  let (options, words) ← Run.options "LP" words
  let physical := options.getLast?.map Prod.fst = some 'P'
  let before ← workingDirectory
  let (wanted, shown) ← match words with
    | [] => pure ((← Run.lookup? "HOME").getD "", false)
    | "-" :: _ => pure ((← Run.lookup? "OLDPWD").getD before, true)
    | target :: _ => pure (target, false)
  let (target, found) ← meantDirectory wanted
  let path := if target.startsWith "/" then target
    else if before = "/" then before ++ target
    else before ++ "/" ++ target
  let tree := (← get).world.tree
  match tree.resolve (Octets.toText (if physical then path else straighten path)) with
  | .ok (location, .directory) =>
      let path := if physical then pathOf location else straighten path
      arrive location before path
      if shown || found then Run.print (path ++ "\n")
  | _ => Run.fail ("can't cd to " ++ wanted)

/-- Shows the directory that the shell is in; by its real path, if that is asked for. -/
def showDirectory (options : List (Char × String)) : Run Unit := do
  if options.getLast?.map Prod.fst = some 'P' then
    Run.print (pathOf (← get).world.tree.workingDirectory ++ "\n")
  else Run.print ((← workingDirectory) ++ "\n")

def aliases (words : List String) : Run Unit := do
  let shown (entry : String × String) : String :=
    entry.1 ++ "=" ++ singleQuote entry.2 ++ "\n"
  if words = [] then
    let sorted := (← get).aliases.mergeSort fun a b => nameGroup 39 a.1 ≤ nameGroup 39 b.1
    Run.print (String.join (sorted.map shown))
  else
    for word in words do
      match partSetting word with
      | (name, some value) =>
          modify fun shell => { shell with aliases := placed name value shell.aliases }
      | (name, none) =>
          match (← get).aliases.lookup name with
          | some value => Run.print (shown (name, value))
          | none =>
              Run.writeError ("alias: " ++ name ++ " not found\n")
              Run.status 1

def unalias (words : List String) : Run Unit := do
  let (options, names) ← Run.options "a" words
  if options ≠ [] then
    modify fun shell => { shell with aliases := [] }
  for name in names do
    if ((← get).aliases.lookup name).isNone then
      Run.writeError ("unalias: " ++ name ++ " not found\n")
      Run.status 1
    modify fun shell => { shell with aliases := shell.aliases.filter (·.1 ≠ name) }

/-- The mask that a word asks for: an octal number, or a symbolic mode for what is left. -/
def maskOf? (word : String) (mask : Nat) : Option Nat :=
  match digits 8 word.toList with
  | some (value, []) => some (value % 512)
  | _ => (Permission.changes? word).map fun changes =>
      0o777 - (Permission.changed false 0 changes (0o777 - mask) &&& 0o777)

/-- What of the permissions new files can have, in letters. -/
def shownMask (mask : Nat) : String :=
  let letters (bits : Nat) : String :=
    let allowed := 7 - bits % 8
    (if 4 ≤ allowed then "r" else "") ++ (if 2 ≤ allowed % 4 then "w" else "") ++
      (if allowed % 2 = 1 then "x" else "")
  "u=" ++ letters (mask / 64) ++ ",g=" ++ letters (mask / 8) ++ ",o=" ++ letters mask

/-- Shows or sets the bits that the permissions of new files do not have. -/
def permissions (refused : String → Option (Run Unit)) (letters : Bool) (words : List String) :
    Run Unit := do
  let mask := (← get).world.tree.mask
  match words with
  | [] =>
      let digits := Nat.toDigits 8 mask
      let octal := String.ofList (List.replicate (4 - digits.length) '0' ++ digits)
      Run.print ((if letters then shownMask mask else octal) ++ "\n")
  | word :: _ =>
      match refused word, maskOf? word mask with
      | some complain, _ => complain
      | none, some mask =>
          Run.changeWorld fun world => { world with tree := { world.tree with mask } }
      | none, none => Run.fail ("Illegal mode: " ++ word)

/-- The complaint about a word that begins like an octal number but is none. -/
def refuseMask (word : String) : Option (Run Unit) :=
  if (word.toList.head?.map Char.isDigit).getD false && !word.toList.all Permission.isOctal then
    some (Run.fail ("Illegal number: " ++ word))
  else none

def command? (name : String) : Option (List String → Run Unit) :=
  match name with
  | ":" | "true" | "jobs" => some fun _ => return
  | "bg" | "fg" => some fun _ => Run.fail "No current job"
  | "hash" => some fun words => do
      let (options, names) ← Run.options "rv" words
      if options.any (·.1 = 'r') then
        modify fun shell => { shell with hashed := [] }
      if words = [] then
        let groups := (← get).hashed.mergeSort fun a b => nameGroup 31 a ≤ nameGroup 31 b
        for name in groups do
          if let some path ← findPath? name then Run.print (path ++ "\n")
      for name in names do
        noteIfProgram name
        if (← findPath? name).isNone && !Builtin.names.contains name then
          Run.warn (name ++ ": not found")
          Run.status 1
  | "false" => some fun _ => Run.status 1
  | "echo" => some fun words => Run.print (echo words)
  | "printf" => some printf
  | "test" => some test
  | "[" => some fun words =>
      if words.getLast? = some "]" then test words.dropLast else Run.fail "missing ]"
  | "cd" | "chdir" => some changeDirectory
  | "pwd" => some fun words => do showDirectory (← Run.options "LP" words).1
  | "alias" => some aliases
  | "unalias" => some unalias
  | "trap" => some trap
  | "kill" => some kill
  | "wait" => some wait
  | "ulimit" => some limits
  | "umask" => some fun words => do
      let (options, words) ← Run.options "S" words
      permissions refuseMask (options ≠ []) words
  | "times" => some fun _ => Run.print "0m0.00s 0m0.00s\n0m0.00s 0m0.00s\n"
  | "type" => some fun words => do
      for word in words do
        describe true word
  | "export" => some exportNames
  | "readonly" => some readOnlyNames
  | "unset" => some unsetNames
  | "set" => some changeOptions
  | "shift" => some shift
  | "local" => some localNames
  | "read" => some read
  | "getopts" => some getOptions
  | _ => none

end Builtin

end CatalogSeed.Script
