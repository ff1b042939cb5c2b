import CatalogSeed.Run

/-!
The program itself: what a run may read is copied into a tree, the run works on the tree, and the
seed is copied out of it.
-/

namespace CatalogSeed

/-- The variables that settings are read from, as far as they are set. -/
def readEnvironment : IO Environment :=
  Settings.variableNames.filterMapM fun name => do
    return (← IO.getEnv name).map (name, ·)

/-- Copies a file into a tree, if it can be read. -/
def copyIn (path : String) (tree : FileTree) : IO FileTree := do
  try
    let content ← IO.FS.readBinFile path
    return (tree.putFile path content.data.toList true).2
  catch _ => return tree

/-- Copies a file out of a tree, with the directories above it. -/
def copyOut (path : String) (tree : FileTree) : IO Unit := do
  match tree.read path with
  | .error _ => return
  | .ok content =>
      let parent := (Path.parent? path).getD ""
      unless parent = "" do
        IO.FS.createDirAll parent
      IO.FS.writeBinFile path content.toByteArray

/-- The file that a source needs: the catalog, or the program that prints it. -/
def Source.path : Source → String
  | .file path => path
  | .program name => name

end CatalogSeed

open CatalogSeed

def main (arguments : List String) : IO UInt32 := do
  let tree ← copyIn EnvFile.fileName .fresh
  let environment := EnvFile.extend (← readEnvironment).complete tree
  match Settings.ofArguments arguments environment with
  | .error outcome =>
      IO.print outcome.output
      IO.eprint outcome.errors
      return outcome.exit.toUInt32
  | .ok settings =>
      let (outcome, tree) := settings.run environment (← copyIn settings.source.path tree)
      if outcome.exit = 0 then
        copyOut settings.output tree
      IO.print outcome.output
      IO.eprint outcome.errors
      return outcome.exit.toUInt32
