import CatalogSeed.Utility.Awk.Grammar
import CatalogSeed.Utility.Awk.Running

/-!
Calls of programs over records: the options, the program, and the words behind it.
-/

namespace CatalogSeed.Utility

namespace Awk

/-- What is said about a call without a program. -/
def usage : String := "\n".intercalate [
  "Usage: mawk [Options] [Program] [file ...]",
  "",
  "Program:",
  "    The -f option value is the name of a file containing program text.",
  "    If no -f option is given, a \"--\" ends option processing; the following",
  "    parameters are the program text.",
  "",
  "Options:",
  "    -f program-file  Program  text is read from file instead of from the",
  "                     command-line.  Multiple -f options are accepted.",
  "    -F value         sets the field separator, FS, to value.",
  "    -v var=value     assigns value to program variable var.",
  "    --               unambiguous end of options.",
  "",
  "    Implementation-specific options are prefixed with \"-W\".  They can be",
  "    abbreviated:",
  "",
  "    -W version       show version information and exit.",
  "    -W compat        pre-POSIX 2001.",
  "    -W dump          show assembler-like listing of program and exit.",
  "    -W help          show this message and exit.",
  "    -W interactive   set unbuffered output, line-buffered input.",
  "    -W exec file     use file as program as well as last option.",
  "    -W posix         stricter POSIX checking.",
  "    -W random=number set initial random seed.",
  "    -W sprintf=number adjust size of sprintf buffer.",
  "    -W usage         show this message and exit.", ""]

/-- The settings that a call begins with: the files with program text, the separator of fields,
and the values of names. -/
structure Call where
  sources : List String
  settings : List (String × String)
  operands : List String

/-- Reads the options of a call. -/
def readCall : Nat → List String → Call → Except String Call
  | 0, _, call => .ok call
  | fuel + 1, words, call =>
      match words with
      | [] => .ok call
      | "--" :: words => .ok { call with operands := words }
      | word :: words =>
          match word.toList with
          | '-' :: letter :: value =>
              if !(['f', 'F', 'v', 'W'].contains letter) then
                .error ("not an option: " ++ word)
              else
                let (value, rest) := match value, words with
                  | [], value :: rest => (some value, rest)
                  | [], [] => (none, [])
                  | value, rest => (some (String.ofList value), rest)
                match letter, value with
                | _, none => .error ("option requires an argument -- " ++ letter.toString)
                | 'f', some value =>
                    readCall fuel rest { call with sources := call.sources ++ [value] }
                | 'F', some value =>
                    readCall fuel rest
                      { call with settings := call.settings ++ [("FS", value)] }
                | 'v', some value =>
                    match assignmentOf? value with
                    | some (name, _) =>
                        let given := String.ofList (value.toList.drop (name.length + 1))
                        readCall fuel rest
                          { call with settings := call.settings ++ [(name, given)] }
                    | none => .error ("improper assignment: -v " ++ value)
                | _, some _ => readCall fuel rest call
          | _ => .ok { call with operands := word :: words }

/-- The state that a program begins in. -/
def startState (job : Job) (replies : List Reply) (operands : List String) : State :=
  let words := job.name :: operands
  let text (name value : String) : String × Cell := (name, .value (.text value))
  let number (name : String) (value : Nat) : String × Cell := (name, .value (.ofNat value))
  { job, replies
    globals := [number "NR" 0, number "FNR" 0, text "FILENAME" "", text "FS" " ", text "OFS" " ",
      text "ORS" "\n", text "RS" "\n", text "SUBSEP" "\x1c", text "CONVFMT" "%.6g",
      text "OFMT" "%.6g", number "RSTART" 0, ("RLENGTH", .value (.number (-1))),
      number "ARGC" words.length, ("ARGV", .table 0), ("ENVIRON", .table 1)]
    locals := []
    tables := [(0, words.zipIdx.map fun (word, place) => (decimal place, Value.ofInput word)),
      (1, job.environment.map fun (name, value) => (name, Value.ofInput value))]
    record := .unset
    fields := []
    input := none
    nextWord := 1
    named := false
    readers := []
    writers := []
    opened := []
    pieces := []
    held := []
    tree := job.tree
    readsInput := false
    status := 0 }

/-- How deeply calls and expressions may be nested. -/
def deepest : Nat := 20000

/-- Whether a rule is for the record that was read. A range is open from its first record to its
last one. -/
def isFor (program : Program) (index : Nat) (pattern : Pattern) : Action Bool := do
  let holds (test : Expression) : Action Bool :=
    return (← evaluate program deepest test).isTrue
  match pattern with
  | .start | .finish => return false
  | .always => return true
  | .when test => holds test
  | .between first last =>
      let isOpen := (← get).opened.contains index
      if !isOpen && !(← holds first) then return false
      else
        let ends ← holds last
        modify fun state =>
          let others := state.opened.filter (· ≠ index)
          { state with opened := if ends then others else index :: others }
        return true

def act (program : Program) (rule : Rule) : Action Unit :=
  execute program deepest (rule.action.getD (.print false [] none))

/-- Does what the rules say about one record. -/
def treat (program : Program) (text : String) : Action Unit := do
  modify fun state => { state with locals := [] }
  Action.setRecord text
  tryCatch (do
      for (rule, index) in program.rules.zipIdx do
        if ← isFor program index rule.pattern then act program rule)
    fun
      | .nextRecord => return
      | .nextFile => modify fun state => { state with input := none }
      | stop => throw stop

/-- Reads all records. -/
def treatAll (program : Program) : Nat → Action Unit
  | 0 => return
  | turns + 1 => do
      match ← Action.nextRecord mostTurns with
      | none => return
      | some text =>
          treat program text
          treatAll program turns

/-- Runs a program from its first rules to its last ones. -/
def runProgram (program : Program) (settings : List (String × String)) : Action Unit := do
  for (name, value) in settings do
    Action.setName name (.ofInput (String.ofList (unescape value.toList)))
  let isStart (rule : Rule) : Bool := match rule.pattern with
    | .start => true
    | _ => false
  let isFinish (rule : Rule) : Bool := match rule.pattern with
    | .finish => true
    | _ => false
  let orExit (action : Action Unit) : Action Unit := tryCatch action fun
    | .exit => return
    | stop => throw stop
  orExit do
    for rule in program.rules.filter isStart do
      act program rule
    if program.rules.any fun rule => !isStart rule then treatAll program mostTurns
  modify fun state => { state with locals := [] }
  orExit do
    for rule in program.rules.filter isFinish do
      act program rule

/-- Runs a call as far as the replies to its commands go. -/
def progress (job : Job) (replies : List Reply) : Progress :=
  match readCall (job.arguments.length + 1) job.arguments ⟨[], [], []⟩ with
  | .error message => failed message
  | .ok call =>
      let sources := call.sources.mapM fun name => match job.readFile name with
        | .ok content => Except.ok content
        | .error error =>
            Except.error ("cannot open \"" ++ name ++ "\" (" ++ reason error ++ ")")
      match sources, call.operands with
      | .error message, _ => failed message
      | .ok [], [] => .done (job.written [⟨true, usage⟩] 2 false)
      | .ok [], text :: operands => run text.toList call.settings operands
      | .ok texts, operands => run (texts.flatten) call.settings operands
where
  failed (message : String) : Progress := .done (job.fail 2 message)
  run (text : List Char) (settings : List (String × String)) (operands : List String) :
      Progress :=
    match parseProgram text with
    | .error message => failed message
    | .ok program =>
        let work : Action Unit := do
          runProgram program settings
          Action.saveAll
        let (outcome, state) := work.run (startState job replies operands)
        let result (pieces : List Piece) (status : Nat) : Result :=
          { job.written pieces.reverse status state.readsInput with tree := state.tree }
        match outcome with
        | .error (.ask request) => .asks request (result state.pieces state.status)
        | .error (.fault message) =>
            .done (result (state.held ++ job.complaint message :: state.pieces) 2)
        | _ => .done (result (state.held ++ state.pieces) state.status)

/-- Runs a call under the last part of its name. -/
def converse (job : Job) (replies : List Reply) : Progress :=
  progress { job with name := baseName job.name } replies

end Awk

end CatalogSeed.Utility
