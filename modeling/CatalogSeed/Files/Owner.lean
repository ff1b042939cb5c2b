import CatalogSeed.Files.FileTree
import CatalogSeed.Text.Octets

/-!
Users and groups, as the tables of the system list them.
-/

namespace CatalogSeed.FileTree

/-- The lines of a table in a file, parted at colons. -/
def tableOf (tree : FileTree) (path : String) : List (List String) :=
  match tree.read path with
  | .ok content =>
      ((Octets.ofBytes content).splitOn "\n").filterMap fun line =>
        if line = "" then none else some (line.splitOn ":")
  | .error _ => []

def userTable : String := "/etc/passwd"

def groupTable : String := "/etc/group"

/-- The number of a user or a group. -/
def idOf? (tree : FileTree) (path name : String) : Option Nat :=
  let row := (tree.tableOf path).find? fun row => row.head? = some name
  (row.bind fun row => (row.getD 2 "").toNat?).or
    (if name ≠ "" ∧ name.all Char.isDigit then name.toNat? else none)

/-- The name of a user or a group. -/
def nameOf? (tree : FileTree) (path : String) (id : Nat) : Option String :=
  ((tree.tableOf path).find? fun row => row.getD 2 "" = toString id).bind List.head?

/-- The home directory of a user. -/
def homeOf? (tree : FileTree) (name : String) : Option String :=
  ((tree.tableOf userTable).find? fun row => row.head? = some name).bind fun row => row[5]?

def userName (tree : FileTree) (id : Nat) : String :=
  (tree.nameOf? userTable id).getD (toString id)

def groupName (tree : FileTree) (id : Nat) : String :=
  (tree.nameOf? groupTable id).getD (toString id)

end CatalogSeed.FileTree
