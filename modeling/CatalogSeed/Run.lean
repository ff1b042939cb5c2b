import CatalogSeed.Settings.EnvFile

/-!
One run of the program: what it prints, how it ends, and the files it leaves.
-/

namespace CatalogSeed

/-- What a run shows to whoever started it. -/
structure Outcome where
  exit : Nat
  output : String
  errors : String
  deriving DecidableEq

namespace Outcome

def programName : String := "mcpseed"

def version : Outcome := ⟨0, programName ++ " 0.1.0\n", ""⟩

def help : Outcome :=
  ⟨0, "Generate MCP registry seed data from the Docker MCP catalog\n\nUsage: " ++ programName ++
    " [OPTIONS]\n", ""⟩

def usage : Outcome := ⟨2, "", "error: invalid usage\n"⟩

/-- A message below a heading; its further lines begin where its first one does. -/
def indented (number : Option Nat) (message : String) : String :=
  let digits := (number.map (Nat.toDigits 10)).getD []
  let first := match number with
    | none => List.replicate 4 ' '
    | some _ => List.replicate (5 - digits.length) ' ' ++ digits ++ [':', ' ']
  let next := match number with
    | none => List.replicate 4 ' '
    | some _ => List.replicate 7 ' '
  "\n" ++ String.ofList first ++
    String.ofList (message.toList.flatMap fun c => if c = '\n' then '\n' :: next else [c])

/-- What was being done, and the chain of causes: numbered if there is more than one. -/
def report (doing : String) (causes : List String) : String :=
  let lines := match causes with
    | [cause] => [indented none cause]
    | causes => causes.mapIdx fun index cause => indented (some index) cause
  "Error: " ++ doing ++ "\n\nCaused by:" ++ String.join lines ++ "\n"

def failed (doing : String) (error : SeedError) : Outcome :=
  ⟨1, "", report doing error.chain⟩

def created (path : String) : Outcome := ⟨0, "Successfully created " ++ path ++ "\n", ""⟩

/-- An outcome behind what was written to the output devices before. -/
def behind (outcome : Outcome) (tree : FileTree) : Outcome :=
  { outcome with
    output := Utf8.decodeLossy tree.output ++ outcome.output
    errors := Utf8.decodeLossy tree.errors ++ outcome.errors }

end Outcome

namespace Settings

def loading (settings : Settings) : String :=
  "Failed to load catalog from " ++ settings.source.describe

def writing (settings : Settings) : String :=
  "Failed to write " ++ settings.output

/-- Loads the catalog, builds its seed and writes it; the first failure ends the run. -/
def run (settings : Settings) (environment : Environment) (tree : FileTree) :
    Outcome × FileTree :=
  match settings.source.load environment tree with
  | (.error error, tree) => (.failed settings.loading error, tree)
  | (.ok catalog, tree) =>
      match Seed.write settings.output (Seed.build settings.includeRemote catalog) tree with
      | (.error error, tree) => ((Outcome.failed settings.writing error).behind tree, tree)
      | (.ok _, tree) => ((Outcome.created settings.output).behind tree, tree)

end Settings

namespace EnvFile

def fileName : String := ".env"

/-- Looks for the file in one directory after another. Something else of that name is passed over,
but the search ends with nothing where a program stands or where looking fails in any other way
than that nothing is there. -/
def search (tree : FileTree) : List (List String) → Option (List UInt8)
  | [] => none
  | directory :: directories =>
      match (tree.walk true FileTree.mostLinks directory [fileName]).map tree.item? with
      | .ok (some (.file content)) => some content
      | .ok (some (.utility _)) => none
      | .ok _ | .error .notFound => search tree directories
      | .error _ => none

/-- The nearest file, in the working directory or above it, that adds to the environment. -/
def nearest? (tree : FileTree) : Option (List UInt8) :=
  let place := tree.workingDirectory
  search tree ((List.range (place.length + 1)).map fun above => place.take (place.length - above))

/-- The environment of a run in this tree. -/
def extend (environment : Environment) (tree : FileTree) : Environment :=
  match nearest? tree with
  | some content => load environment content
  | none => environment

end EnvFile

/-- The settings that arguments and environment ask for, or how the run ends without any. -/
def Settings.ofArguments (arguments : List String) (environment : Environment) :
    Except Outcome Settings :=
  match Request.ofArguments arguments with
  | .error _ => .error .usage
  | .ok .version => .error .version
  | .ok .help => .error .help
  | .ok (.run options) => (Settings.resolve options environment).mapError fun _ => .usage

/-- Runs the program with its arguments. -/
def runWith (arguments : List String) (environment : Environment) (tree : FileTree) :
    Outcome × FileTree :=
  let environment := EnvFile.extend environment.complete tree
  match Settings.ofArguments arguments environment with
  | .error outcome => (outcome, tree)
  | .ok settings => settings.run environment tree

end CatalogSeed
