import CatalogSeed.Files.Rearranging
import CatalogSeed.Text.Octets
import CatalogSeed.Text.ShellQuoted

/-!
The programs that every system has. One is a function from what it is given to what it writes, its
status and the files it leaves; texts are octets.
-/

namespace CatalogSeed.Utility

/-- What the standard input is. -/
inductive InputKind
  | stream
  | file
  | directory
  deriving DecidableEq

structure Job where
  utility : String
  /-- What it was called by. -/
  name : String
  arguments : List String
  input : List Char
  inputKind : InputKind
  /-- The nodes that the input and the output are, where these are files. -/
  inputFile : Option Nat
  outputFile : Option Nat
  /-- How much may be written, where it could be without end. -/
  room : Nat
  tree : FileTree
  environment : List (String × String)

/-- What a program writes to its standard output or, marked so, to its error output. -/
structure Piece where
  toErrors : Bool
  text : String

/-- What a program leaves; `taken` tells how many octets of its input it has read, and `duration` how
long it takes in nanoseconds, if it ends at all. -/
structure Result where
  pieces : List Piece
  status : Nat
  tree : FileTree
  taken : Nat
  duration : Option Nat

/-- A program on its way; the state is the result so far. -/
abbrev Task := StateM Result

namespace Task

def print (text : String) : Task Unit :=
  modify fun result => { result with pieces := result.pieces ++ [⟨false, text⟩] }

def setStatus (status : Nat) : Task Unit :=
  modify fun result => { result with status }

def tree : Task FileTree :=
  return (← get).tree

def setTree (tree : FileTree) : Task Unit :=
  modify fun result => { result with tree }

end Task

namespace Job

/-- The result of a program that does these things. -/
def perform (job : Job) (readsInput : Bool) (task : Task Unit) : Result :=
  let taken := if readsInput then job.input.length else 0
  (task.run ⟨[], 0, job.tree, taken, some 0⟩).2

/-- Says something in the name of the program. -/
def warn (job : Job) (message : String) : Task Unit :=
  modify fun result =>
    { result with pieces := result.pieces ++ [⟨true, job.name ++ ": " ++ message ++ "\n"⟩] }

/-- Says what went wrong, and goes on. -/
def complain (job : Job) (message : String) : Task Unit := do
  job.warn message
  Task.setStatus 1

/-- The result of a program that has written pieces; it changes no files. -/
def written (job : Job) (pieces : List Piece) (status : Nat) (readsInput : Bool) : Result :=
  ⟨pieces, status, job.tree, if readsInput then job.input.length else 0, some 0⟩

def done (job : Job) (output : String) (status : Nat) : Result :=
  job.written [⟨false, output⟩] status false

def output (job : Job) (text : String) : Result := job.done text 0

/-- A complaint in the name of the program. -/
def complaint (job : Job) (message : String) : Piece :=
  ⟨true, job.name ++ ": " ++ message ++ "\n"⟩

def fail (job : Job) (status : Nat) (message : String) : Result :=
  job.written [job.complaint message] status false

/-- The complaint about a wrong call, with the pointer to more help. -/
def usage (job : Job) (status : Nat) (message : String) : Result :=
  job.fail status
    (message ++ "\nTry '" ++ job.name ++ " --help' for more information.")

/-- Puts the name of the program in front of the pointer to more help as well. -/
def withName (job : Job) (result : Result) : Result :=
  let hint := "\nTry '"
  { result with pieces := result.pieces.map fun piece =>
      { piece with text := ("\n" ++ job.name ++ ": Try '").intercalate (piece.text.splitOn hint) } }

def missingOperand (job : Job) : Result :=
  job.usage 1 "missing operand"

end Job

/-- The words for an error, without its number. -/
def reason (error : FileError) : String :=
  (error.message.splitOn " (os error").headD ""

def decimal (n : Nat) : String :=
  String.ofList (Nat.toDigits 10 n)

/-- The last name of a path. -/
def baseName (path : String) : String :=
  match (path.toList.reverse.dropWhile (· = '/')) with
  | [] => if path = "" then "" else "/"
  | backwards => String.ofList (backwards.takeWhile (· ≠ '/')).reverse

/-- A word between quotes, as complaints show it. -/
def quoted (word : String) : String := ShellQuoted.plain word

/-- The name of a file between quotes. -/
def named (word : String) : String := ShellQuoted.always word

/-- The name of a file in front of a colon. -/
def shown (word : String) : String := ShellQuoted.asNeeded word

/-- The options and operands of a call. Options are letters behind a hyphen or names behind two;
`valued` are the letters that take a value. -/
structure Call where
  options : List (String × String)
  operands : List String
  unknown : Option String
  missing : Option String

namespace Call

def has (call : Call) (names : List String) : Bool :=
  call.options.any fun (name, _) => names.contains name

def value? (call : Call) (names : List String) : Option String :=
  ((call.options.filter fun (name, _) => names.contains name).getLast?).map Prod.snd

def values (call : Call) (names : List String) : List String :=
  (call.options.filter fun (name, _) => names.contains name).map Prod.snd

/-- The operands; the standard input stands in for missing ones. -/
def files (call : Call) : List String :=
  if call.operands = [] then ["-"] else call.operands

/-- Takes the letters of one word apart; the value of a letter is the rest of the word or the next
word. -/
def letters (plain valued : String) :
    List Char → List String → Call → Call × List String
  | [], words, call => (call, words)
  | letter :: rest, words, call =>
      let name := letter.toString
      if valued.contains letter then
        match rest, words with
        | [], [] => ({ call with missing := call.missing.or (some (quoted name)) }, [])
        | [], word :: words =>
            ({ call with options := call.options ++ [(name, word)] }, words)
        | _, words =>
            ({ call with options := call.options ++ [(name, String.ofList rest)] }, words)
      else if plain.contains letter then
        letters plain valued rest words { call with options := call.options ++ [(name, "")] }
      else ({ call with unknown := call.unknown.or (some name) }, words)

/-- Reads a call. Options may stand behind operands unless `strict`; `long` are the names, each
with its letter and whether it takes a value. -/
def read (plain valued : String) (long : List (String × String × Bool)) (strict : Bool) :
    Nat → List String → Call → Call
  | 0, _, call => call
  | _ + 1, [], call => call
  | fuel + 1, word :: words, call =>
      match word.toList with
      | ['-', '-'] => { call with operands := call.operands ++ words }
      | '-' :: '-' :: name =>
          let (name, value) := match name.span (· ≠ '=') with
            | (name, _ :: value) => (String.ofList name, some (String.ofList value))
            | (name, []) => (String.ofList name, none)
          let exact := long.find? fun (other, _, _) => other = name
          let begun := long.filter fun (other, _, _) => other.startsWith name
          match exact.or (if begun.length = 1 then begun.head? else none) with
          | none => { call with unknown := call.unknown.or (some word) }
          | some (full, letter, takes) =>
              match takes, value, words with
              | true, none, next :: words =>
                  read plain valued long strict fuel words
                    { call with options := call.options ++ [(letter, next)] }
              | true, none, [] =>
                  { call with missing := call.missing.or (some (quoted ("--" ++ full))) }
              | _, value, words =>
                  read plain valued long strict fuel words
                    { call with options := call.options ++ [(letter, value.getD "")] }
      | '-' :: first :: rest =>
          let (call, words) := letters plain valued (first :: rest) words call
          if call.unknown.isSome then call
          else read plain valued long strict fuel words call
      | _ =>
          if strict then { call with operands := call.operands ++ word :: words }
          else read plain valued long strict fuel words
            { call with operands := call.operands ++ [word] }

end Call

namespace Job

/-- The call of a program, or the complaint about an option that it does not know. -/
def call (job : Job) (plain valued : String) (long : List (String × String × Bool))
    (strict : Bool) (status : Nat) : Except Result Call :=
  let call := Call.read plain valued long strict (job.arguments.length + 1) job.arguments
    ⟨[], [], none, none⟩
  match call.unknown, call.missing with
  | some option, _ =>
      if option.startsWith "--" then
        .error (job.usage status ("unrecognized option " ++ quoted option))
      else .error (job.usage status ("invalid option -- " ++ quoted option))
  | none, some option =>
      if option.startsWith "'--" then
        .error (job.usage status ("option " ++ option ++ " requires an argument"))
      else .error (job.usage status ("option requires an argument -- " ++ option))
  | none, none => .ok call

/-- The result of a call whose options are only these letters. -/
def withOptions (job : Job) (plain : String) (result : Call → Result) : Result :=
  match job.call plain "" [] false 1 with
  | .error refused => refused
  | .ok call => result call

/-- Whether a name stands for the standard input. -/
def isInput (name : String) : Bool :=
  ["-", "/dev/stdin", "/dev/fd/0", "/proc/self/fd/0"].contains name

/-- How much of the input is gone when so much of it was wanted: from a stream, whole blocks are
taken. -/
def taken (job : Job) (block wanted : Nat) : Nat :=
  if job.inputKind = .file then wanted
  else min job.input.length ((wanted + block - 1) / block * block)

/-- The content of a file, or of the standard input for a hyphen; of a file without end, so many
octets. -/
def readUpTo (job : Job) (most : Nat) (name : String) : Except FileError (List Char) :=
  if isInput name then (if job.inputKind = .directory then .error .isDirectory else .ok job.input)
  else (job.tree.readUpTo most (Octets.toText name)).map fun content =>
    (Octets.ofBytes content).toList

def readFile (job : Job) (name : String) : Except FileError (List Char) :=
  job.readUpTo FileTree.mostZeros name

/-- Whether a file is the one that the output goes to. -/
def isOutput (job : Job) (name : String) : Bool :=
  let file? : Option Nat :=
    if isInput name then job.inputFile
    else match job.tree.resolve (Octets.toText name) with
      | .ok (location, _) => job.tree.number? location
      | .error _ => none
  job.outputFile.isSome && file? = job.outputFile

end Job

end CatalogSeed.Utility
