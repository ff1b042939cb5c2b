import CatalogSeed.Environment
import CatalogSeed.Script.Evaluation
import CatalogSeed.Utility.All

/-!
Starting a program by name and letting it run to its end: a name with a slash is a path, any other
is looked for in the directories that the environment lists.
-/

namespace CatalogSeed

/-- Why a program could not be started. -/
inductive StartError
  | file (error : FileError)
  | zeroInName
  deriving DecidableEq

def StartError.message : StartError → String
  | .file error => error.message
  | .zeroInName => "nul byte found in provided data"

namespace FileTree

/-- Where programs are looked for if the environment does not tell. -/
def programDirectories : String := "/bin:/usr/bin"

/-- Tries paths one after the other. What is missing, or may not be run, lets the search go on;
what may not be run is told at its end. -/
def firstProgram (tree : FileTree) (name : String) (words : List String) :
    FileError → List String → Except FileError Program
  | last, [] => .error last
  | last, path :: rest =>
      match tree.program path words with
      | .error .notPermitted => tree.firstProgram name words .notPermitted rest
      | .error .notFound => tree.firstProgram name words (kept last .notFound) rest
      | .error .notDirectory => tree.firstProgram name words (kept last .notDirectory) rest
      | found => found.map (Program.lookedFor name path)
where
  kept (last error : FileError) : FileError :=
    if last = .notPermitted then last else error

/-- The program with this name, called with words. -/
def findProgram (tree : FileTree) (environment : Environment) (program : String)
    (words : List String) : Except StartError Program :=
  let chars := program.toList
  if '\x00' ∈ chars then .error .zeroInName
  else if chars = [] then .error (.file .notFound)
  else if '/' ∈ chars then
    (tree.program (Octets.ofText program) words).mapError .file
  else
    let directories := ((environment.lookup "PATH").getD programDirectories).splitOn ":"
    let paths := directories.map fun directory =>
      Octets.ofText (if directory = "" then program else directory ++ "/" ++ program)
    (tree.firstProgram (Octets.ofText program) words .notFound paths).mapError .file

/-- The number that the first process of a run has. -/
def firstProcess : Nat := 4711

open Script in
/-- The shell that stands for whoever starts a program. Nothing can be read from its standard
input. -/
def starter (environment : Environment) (tree : FileTree) : Shell :=
  let vars := environment.map fun (name, value) => (Octets.ofText name, Octets.ofText value)
  { name := "sh", place := "sh", arguments := []
    vars := vars.map fun (name, value) => (name, .ofText value true)
    functions := [], options := [], status := 0, line := 0, reading := 0, command := none, tested := false
    loops := 0, calls := 0, locals := [], channels := [(0, 0), (1, 1), (2, 2)]
    documents := [], asked := 0, aliases := [], hashed := [], traps := [], signals := []
    captured := 0, process := firstProcess - 1, separate := true, background := none
    optionOffset := 0, depth := 0, shells := 0, sources := 0, calling := [], features := []
    directories := [], pending := "", sorting := false, struck := false, dialect := .plain
    world := {
      tree, streams := [(0, .nothing), (1, .sink [] none), (2, .sink [] none)], opened := 3
      processes := firstProcess, children := [], killed := none, held := [], deadline := none
      expired := false } }

open Script in
/-- Starts a program and lets it run to its end. -/
def runProgram (program : String) (arguments : List String)
    (environment : Environment) (tree : FileTree) :
    Except StartError Ending × FileTree :=
  match tree.findProgram environment program (arguments.map Octets.ofText) with
  | .error error => (.error error, tree)
  | .ok found =>
      let run := (engine Utility.run).runFound found
      let (result, shell) := run.run.run (starter environment tree)
      let exit := match result with
        | .error (.killed signal) => Exit.signal signal
        | _ => Exit.status shell.status
      let gathered (number : Nat) : List UInt8 := Octets.toBytes (shell.world.gathered number)
      (.ok ⟨exit, gathered 1, gathered 2⟩, shell.world.tree.rejoin tree)

end FileTree

end CatalogSeed
