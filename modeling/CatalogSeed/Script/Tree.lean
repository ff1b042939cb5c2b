/-!
Shell scripts as trees: words made of parts that are still to be filled in, and commands made of
words. Texts are octets. The bodies of here-documents are kept aside and known by number, because
they stand behind the line that asks for them.
-/

namespace CatalogSeed.Script

/-- What is made of the value of a parameter. With `colon`, an empty value counts as none. -/
inductive Form
  | value
  | length
  | orElse (colon : Bool)
  | orAssign (colon : Bool)
  | orFail (colon : Bool)
  | ifSet (colon : Bool)
  | trimmed (atEnd : Bool) (longest : Bool)
  /-- A part of the value; the words are where it begins and how long it is. -/
  | slice
  /-- The value with a word in the place of what fits a pattern; an anchor wants this to be at the
  front or at the end. -/
  | replaced (all : Bool) (anchor : Option Bool)
  | cased (upper : Bool) (all : Bool)
  | indirect
  /-- The names of the variables that begin so. -/
  | names
  | keys
  | asInput
  /-- A form that cannot be; its text. -/
  | invalid (text : String)
  deriving DecidableEq

/-- How a redirection opens its file. -/
inductive Mode
  | read
  | create
  | overwrite
  | append
  | both
  | createAll
  | appendAll
  deriving DecidableEq

/-- What comes behind the commands of a clause: the end, those of the next clause, or further
patterns. -/
inductive Clausing
  | ended
  | through
  | tested
  deriving DecidableEq

mutual

inductive Part
  | literal (text : String) (quoted : Bool)
  /-- A parameter, or an element of a list of values, and what is made of it. -/
  | parameter (name : String) (index : List (List Part)) (form : Form)
      (words : List (List Part)) (quoted : Bool)
  | output (commands : Option Command) (quoted : Bool)
  | number (text : List Part) (quoted : Bool)
  | quotes
  /-- The front of a setting: what is set, and whether the old value is kept before the new one. -/
  | setting (name : String) (index : List (List Part)) (append : Bool)
  | items (words : List (List Part))
  /-- The name of a file that holds the output of commands. -/
  | channel (commands : Option Command)

/-- A condition between double brackets. -/
inductive Test
  | word (word : List Part)
  | unary (operator : String) (word : List Part)
  | binary (operator : String) (left right : List Part)
  | negated (test : Test)
  | both (left right : Test)
  | either (left right : Test)

inductive Redirection
  | file (descriptor : Nat) (mode : Mode) (path : List Part)
  | copy (descriptor : Nat) (source : List Part)
  | document (descriptor : Nat) (number : Nat)
  | text (descriptor : Nat) (word : List Part)

inductive Command
  | simple (line : Nat) (settings words : List (List Part)) (redirections : List Redirection)
  | pipeline (commands : List Command)
  | negated (command : Command)
  | ifDone (first second : Command)
  | ifFailed (first second : Command)
  | sequence (commands : List Command)
  | background (line : Nat) (command : Command)
  | redirected (line : Nat) (command : Command) (redirections : List Redirection)
  | subshell (line : Nat) (command : Command)
  | branch (test yes : Command) (no : Option Command)
  | loop (whileDone : Bool) (test body : Command)
  | each (line : Nat) (name : String) (words : List (List Part)) (body : Command)
  | choice (line : Nat) (word : List Part)
      (clauses : List (List (List Part) × Option Command × Clausing))
  | definition (name : String) (body : Command)
  | condition (line : Nat) (test : Test)
  | calculation (line : Nat) (text : List Part)
  | counted (line : Nat) (first test next : List Part) (body : Command)

end

abbrev Word := List Part

end CatalogSeed.Script
