import CatalogSeed.Utility.Status

/-!
What files are looked for: conditions, of which some do something as well.
-/

namespace CatalogSeed.Utility.Finding

/-- Which symbolic links are followed. -/
inductive Following
  | never
  | first
  | always
  deriving DecidableEq

/-- A file that was found: the path that the search began at, and how far below it this is. -/
structure Found extends Shown where
  start : String
  depth : Nat

/-- A program that is run for what is found: for each file or for all `together`, perhaps in the
directory of the file, or only after it `asks`. -/
structure Command where
  words : List String
  together : Bool
  inPlace : Bool
  asks : Bool
  deriving DecidableEq

inductive Condition
  | test (holds : FileTree → Found → Bool)
  | prune
  | quit
  | delete
  /-- Writes a text, perhaps to a file. -/
  | write (file : Option String) (text : FileTree → Found → String)
  | run (command : Command)
  | both (left right : Condition)
  | either (left right : Condition)
  /-- Does the first and takes what comes of the second. -/
  | second (left right : Condition)
  | negate (condition : Condition)

/-- The reader of a call: the words that are left, and what was settled for all of the search. -/
structure Reader where
  rest : List String
  tree : FileTree
  following : Following
  least : Nat
  most : Option Nat
  acts : Bool
  deepFirst : Bool
  warns : Bool
  /-- The kind of expressions that paths are compared with. -/
  spelling : String
  /-- The condition that was read last. -/
  before : String
  /-- The files that are written to. -/
  files : List String
  warnings : List String

abbrev Parser := StateT Reader (Except String)

def fail {α : Type} (message : String) : Parser α := fun _ => .error message

def warn (message : String) : Parser Unit :=
  modify fun reader => { reader with warnings := reader.warnings ++ [message] }

/-- A name between the marks that complaints about a call have. -/
def marked (word : String) : String := "\x60" ++ word ++ "'"

/-- The word that a condition needs. -/
def argument (name : String) : Parser String := do
  let reader ← get
  match reader.rest with
  | [] => fail ("missing argument to " ++ marked name)
  | word :: rest =>
      set { reader with rest }
      return word

/-- A condition that is said to do something. -/
def act (condition : Condition) : Parser Condition := do
  modify fun reader => { reader with acts := true }
  return condition

def always : Condition := .test fun _ _ => true

end CatalogSeed.Utility.Finding
