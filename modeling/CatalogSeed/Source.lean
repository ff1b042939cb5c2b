import CatalogSeed.Environment
import CatalogSeed.Script.Process
import CatalogSeed.Seed
import CatalogSeed.Text.Blank

/-!
Where catalogs come from and where seeds go: files, and the output of a program.
-/

namespace CatalogSeed

inductive SeedError
  | program (command detail : String)
  | document (error : DocumentError)
  | file (path : String) (error : FileError)

namespace SeedError

def message : SeedError → String
  | program command detail => "catalog command `" ++ command ++ "` failed: " ++ detail
  | document error => "failed to parse catalog JSON: " ++ error.message
  | file path error => "I/O error at " ++ path ++ ": " ++ error.message

/-- The error's own message, then that of what caused it. -/
def chain (error : SeedError) : List String :=
  error.message :: match error with
    | program _ _ => []
    | document cause => [cause.message]
    | file _ cause => [cause.message]

end SeedError

inductive Source
  | file (path : String)
  | program (name : String)
  deriving DecidableEq

namespace Source

def defaultProgram : String := "docker"

/-- What the program is told, so that it prints its catalog. -/
def showArguments : List String := ["mcp", "catalog", "show", "--format", "json"]

def describe : Source → String
  | file path => path
  | program name => name ++ " " ++ " ".intercalate showArguments

/-- The output of a program that ended well; its error output counts only when it did not. -/
def outputOf (source : Source) (outcome : Except StartError Ending) :
    Except SeedError (List UInt8) :=
  match outcome with
  | .error error => .error (.program source.describe error.message)
  | .ok ending =>
      if ending.exit = .status 0 then .ok ending.output
      else
        let errors := Text.trim (Utf8.decodeLossy ending.errors)
        .error (.program source.describe (ending.exit.describe ++ ": " ++ errors))

/-- Gets the document. A program runs in the environment that is given. -/
def document (source : Source) (environment : Environment) (tree : FileTree) :
    Except SeedError (List UInt8) × FileTree :=
  match source with
  | file path => ((tree.read path).mapError (.file path), tree)
  | program name =>
      let (outcome, tree) := tree.runProgram name showArguments environment
      (source.outputOf outcome, tree)

/-- Gets the document and reads the catalog from it. -/
def load (source : Source) (environment : Environment) (tree : FileTree) :
    Except SeedError Catalog × FileTree :=
  let (document, tree) := source.document environment tree
  (document.bind fun bytes => (Catalog.decode bytes).mapError .document, tree)

end Source

namespace Seed

/-- Writes a seed, after the directories that its path needs, and gives the number of bytes. -/
def write (path : String) (servers : List Server) (tree : FileTree) :
    Except SeedError Nat × FileTree :=
  let content := Utf8.encode (encode servers)
  let parent := (Path.parent? path).getD ""
  let (created, tree) :=
    if parent = "" then (.ok (), tree) else tree.createDirectories parent
  match created with
  | .error error => (.error (.file parent error), tree)
  | .ok () =>
      match tree.write path content with
      | (.error error, tree) => (.error (.file path error), tree)
      | (.ok (), tree) => (.ok content.length, tree)

end Seed

end CatalogSeed
