import CatalogSeed.Utility.Awk.Format
import CatalogSeed.Utility.Awk.Splitting
import CatalogSeed.Utility.Awk.Tree
import CatalogSeed.Utility.Conversation

/-!
What a program over records knows while it runs: the record and its fields, variables, tables, and
the files it reads and writes.
-/

namespace CatalogSeed.Utility.Awk

/-- What a name stands for. -/
inductive Cell
  | value (value : Value)
  | table (number : Nat)

abbrev Table := List (String × Value)

/-- A file or a command that is read from or written to. -/
structure Channel where
  command : Bool
  name : String
  deriving DecidableEq

structure State where
  job : Job
  /-- What became of the commands that have yet to be asked for. -/
  replies : List Reply
  globals : List (String × Cell)
  locals : List (String × Cell)
  tables : List (Nat × Table)
  record : Value
  fields : List Value
  /-- What is left of the input file that is read; none between files. -/
  input : Option (List Char)
  /-- The number of the next word that may name an input file. -/
  nextWord : Nat
  /-- Whether a word named an input file. -/
  named : Bool
  readers : List (Channel × List Char)
  writers : List (Channel × String)
  /-- The rules whose range of records is open. -/
  opened : List Nat
  pieces : List Piece
  /-- What is kept back of the output. -/
  held : List Piece
  tree : FileTree
  readsInput : Bool
  status : Nat

/-- Why a program does not go on with the next statement. -/
inductive Stop
  | nextRecord
  | nextFile
  | leaveLoop
  | nextTurn
  | answer (value : Value)
  | exit
  | fault (message : String)
  | ask (request : Request)

abbrev Action := ExceptT Stop (StateM State)

namespace Action

def global (name : String) : Action Value :=
  return match (← get).globals.lookup name with
    | some (.value value) => value
    | _ => .unset

/-- Stops with a complaint that tells how far the input was read. -/
def fail {α : Type} (message : String) : Action α := do
  let shown (name : String) : Action String :=
    return (← global name).toText ""
  throw (.fault ("run time error: " ++ message ++ "\n\tFILENAME=\"" ++ (← shown "FILENAME") ++
    "\" FNR=" ++ (← shown "FNR") ++ " NR=" ++ (← shown "NR")))

def setGlobal (name : String) (value : Value) : Action Unit :=
  modify fun state => { state with
    globals := (name, .value value) :: state.globals.filter (·.1 ≠ name) }

def textOf (value : Value) : Action String := do
  match value with
  | .number n => return numberText ((← global "CONVFMT").toText "") n
  | value => return value.toText ""

def globalText (name : String) : Action String := do
  textOf (← global name)

/-- Reads an expression to search for. -/
def regex (text : String) : Action Regex :=
  match regexOf text with
  | .ok regex => return regex
  | .error message => fail ("regular expression compile failed (" ++ message ++ ")\n" ++ text)

def separator (text : String) (lines : Bool) : Action Separator :=
  match Separator.ofText text lines with
  | .ok separator => return separator
  | .error message => fail ("regular expression compile failed (" ++ message ++ ")\n" ++ text)

/-- Makes a text the record, and parts it into fields. -/
def setRecord (text : String) : Action Unit := do
  let lines := (← globalText "RS") = ""
  let parts := splitText (← separator (← globalText "FS") lines) text
  modify fun state => { state with
    record := .ofInput text, fields := parts.map Value.ofInput }

/-- Makes fields the record. -/
def setFields (fields : List Value) : Action Unit := do
  let texts ← fields.mapM textOf
  let text := (← globalText "OFS").intercalate texts
  modify fun state => { state with fields, record := .ofInput text }

/-- The number of a field; one below zero is refused. -/
def fieldNumber (value : Value) : Action Nat := do
  let number := cutOff value.toNumber
  if number < 0 then fail ("negative field index $" ++ toString number)
  else return number.toNat

def field (number : Nat) : Action Value := do
  let state ← get
  return match number with
    | 0 => state.record
    | place + 1 => (state.fields[place]?).getD .unset

/-- Fills fields up with empty ones. -/
def resized (fields : List Value) (count : Nat) : List Value :=
  fields.take count ++ List.replicate (count - fields.length) (.text "")

def setField (number : Nat) (value : Value) : Action Unit := do
  match number with
  | 0 => setRecord (← textOf value)
  | place + 1 =>
      let fields := (← get).fields
      setFields ((resized fields (max fields.length number)).set place value)

def name (name : String) : Action Value := do
  let state ← get
  if name = "NF" then return .ofNat state.fields.length
  else return match (state.locals.lookup name).or (state.globals.lookup name) with
    | some (.value value) => value
    | _ => .unset

def setName (name : String) (value : Value) : Action Unit := do
  if name = "NF" then
    setFields (resized (← get).fields (cutOff value.toNumber).toNat)
  else if ((← get).locals.lookup name).isSome then
    modify fun state => { state with
      locals := (name, .value value) :: state.locals.filter (·.1 ≠ name) }
  else setGlobal name value

/-- The table that a name stands for; a name without a value gets a new one. -/
def table (name : String) : Action Nat := do
  let state ← get
  match (state.locals.lookup name).or (state.globals.lookup name) with
  | some (.table number) => return number
  | _ =>
      let number := state.tables.length
      let entry := (name, Cell.table number)
      set { state with tables := (number, []) :: state.tables }
      if (state.locals.lookup name).isSome then
        modify fun state => { state with
          locals := entry :: state.locals.filter (·.1 ≠ name) }
      else
        modify fun state => { state with
          globals := entry :: state.globals.filter (·.1 ≠ name) }
      return number

def entries (number : Nat) : Action Table :=
  return ((← get).tables.lookup number).getD []

def setEntries (number : Nat) (entries : Table) : Action Unit :=
  modify fun state => { state with
    tables := (number, entries) :: state.tables.filter (·.1 ≠ number) }

/-- The element for a key, which is there from now on. -/
def element (number : Nat) (key : String) : Action Value := do
  let known ← entries number
  match known.lookup key with
  | some value => return value
  | none =>
      setEntries number ((key, .unset) :: known)
      return .unset

def setElement (number : Nat) (key : String) (value : Value) : Action Unit := do
  let known ← entries number
  if (known.lookup key).isSome then
    setEntries number (known.map fun entry => if entry.1 = key then (key, value) else entry)
  else setEntries number ((key, value) :: known)

end Action

/-- The place of a key among the buckets of a table. -/
def bucket (key : String) : Nat :=
  let hash : UInt32 := key.toList.foldl (fun hash c =>
    (hash ^^^ UInt32.ofNat c.toNat) * 16777619) 2166136261
  hash.toNat % 64

/-- The keys of a table in the order in which they are gone through: by buckets, and in each the
last one first. -/
def keysOf (table : Table) : List String :=
  (table.map Prod.fst).mergeSort fun a b => bucket a ≤ bucket b

end CatalogSeed.Utility.Awk
