import CatalogSeed.Utility.Awk.State
import CatalogSeed.Utility.Awk.Token

/-!
The records that a program over records reads, and the texts that it writes.
-/

namespace CatalogSeed.Utility.Awk

/-- A word that gives a value to a name. -/
def assignmentOf? (word : String) : Option (String × String) :=
  match word.toList.span (· ≠ '=') with
  | (c :: name, _ :: value) =>
      if isNameStart c && name.all fun d => isNameStart d || d.isDigit then
        some (String.ofList (c :: name), String.ofList (unescape value))
      else none
  | _ => none

namespace Action

/-- Opens the next input file among the words, and gives their assignments; false if there is no
input any more. -/
def openNext : Nat → Action Bool
  | 0 => return false
  | fuel + 1 => do
      let state ← get
      let count := cutOff (← global "ARGC").toNumber
      if count ≤ state.nextWord then
        if state.named then return false
        else
          set { state with input := some state.job.input, named := true, readsInput := true }
          return true
      else
        let words ← entries (← table "ARGV")
        let word ← textOf ((words.lookup (decimal state.nextWord)).getD .unset)
        modify fun state => { state with nextWord := state.nextWord + 1 }
        if word = "" then openNext fuel
        else match assignmentOf? word with
          | some (name, value) =>
              setName name (.ofInput value)
              openNext fuel
          | none =>
              let job := state.job
              match job.readFile word with
              | .ok content =>
                  setGlobal "FILENAME" (.text word)
                  setGlobal "FNR" (.number 0)
                  modify fun state => { state with
                    input := some content, named := true
                    readsInput := state.readsInput || Job.isInput word }
                  return true
              | .error .isDirectory => throw (.fault "read error (Is a directory)")
              | .error error =>
                  throw (.fault ("cannot open \"" ++ word ++ "\" (" ++ reason error ++ ")"))

/-- The first record of a text, and the rest. -/
def recordOf (text : List Char) : Action (Option (String × List Char)) := do
  match takeRecord? (← globalText "RS") text with
  | .ok (some (record, rest)) => return some (String.ofList record, rest)
  | .ok none => return none
  | .error message => fail ("regular expression compile failed (" ++ message ++ ")")

/-- The next record of the input; it is counted. -/
def nextRecord : Nat → Action (Option String)
  | 0 => return none
  | fuel + 1 => do
      match (← get).input with
      | none => if ← openNext (fuel + 1) then nextRecord fuel else return none
      | some text =>
          match ← recordOf text with
          | none =>
              modify fun state => { state with input := none }
              nextRecord fuel
          | some (record, rest) =>
              modify fun state => { state with input := some rest }
              for name in ["NR", "FNR"] do
                setGlobal name (.number ((← global name).toNumber + 1))
              return some record

def emit (toErrors : Bool) (text : String) : Action Unit :=
  modify fun state =>
    let piece : Piece := ⟨toErrors, text⟩
    if toErrors then { state with pieces := piece :: state.pieces }
    else { state with held := piece :: state.held }

/-- Writes what was kept back. -/
def flush : Action Unit :=
  modify fun state => { state with pieces := state.held ++ state.pieces, held := [] }

/-- What becomes of a command. -/
def ask (command : String) (input : Option String) (captures : Bool) : Action Reply := do
  flush
  let state ← get
  match state.replies with
  | reply :: replies =>
      set { state with replies, tree := reply.tree }
      return reply
  | [] => throw (.ask ⟨["/bin/sh", "-c", command], input, captures, none⟩)

/-- The next record of a file or a command that is read on its own; an error if it cannot be
read. -/
def nextRecordOf (channel : Channel) : Action (Except Unit (Option String)) := do
  let state ← get
  let job := { state.job with tree := state.tree }
  let text ← match state.readers.lookup channel with
    | some text => pure (some text)
    | none =>
        if channel.command then some <$> Reply.output <$> ask channel.name none true
        else pure (job.readFile channel.name).toOption
  match text with
  | none => return .error ()
  | some text =>
      let found ← recordOf text
      let rest := (found.map Prod.snd).getD []
      modify fun state => { state with
        readers := (channel, rest) :: state.readers.filter (·.1 ≠ channel)
        readsInput := state.readsInput || !channel.command && Job.isInput channel.name }
      return .ok (found.map Prod.fst)

/-- Writes to a file that is opened when it is first written to. -/
def writeFile (appends : Bool) (file text : String) : Action Unit := do
  if file = "/dev/stdout" ∨ file = "-" then emit false text
  else if file = "/dev/stderr" then emit true text
  else
    let state ← get
    let channel : Channel := ⟨false, file⟩
    match state.writers.lookup channel with
    | some before =>
        set { state with
          writers := (channel, before ++ text) :: state.writers.filter (·.1 ≠ channel) }
    | none =>
        let path := Octets.toText file
        let before := if appends then (state.tree.read path).toOption.getD [] else []
        match state.tree.write path before with
        | (.ok _, tree) =>
            let entry := (channel, Octets.ofBytes before ++ text)
            set { state with tree, writers := entry :: state.writers }
        | (.error error, _) =>
            throw (.fault ("cannot open \"" ++ file ++ "\" for output (" ++ reason error ++ ")"))

/-- Writes to a command that is run when it is closed. -/
def writeCommand (command text : String) : Action Unit :=
  modify fun state =>
    let channel : Channel := ⟨true, command⟩
    let before := (state.writers.lookup channel).getD ""
    { state with
      writers := (channel, before ++ text) :: state.writers.filter (·.1 ≠ channel) }

/-- Puts what was written to a file into it, or gives it to its command. -/
def save (channel : Channel) (text : String) : Action Nat := do
  if channel.command then return (← ask channel.name (some text) false).status
  else
    let path := Octets.toText channel.name
    modify fun state => { state with tree := (state.tree.write path (Octets.toBytes text)).2 }
    return 0

def saveAll : Action Unit := do
  flush
  for (channel, text) in (← get).writers do
    let _ ← save channel text

/-- Closes a file or a command; the next use of it begins anew. -/
def close (name : String) : Action Value := do
  let state ← get
  let known := (state.readers.map Prod.fst ++ state.writers.map Prod.fst).any (·.name = name)
  let mut status := 0
  for (channel, text) in state.writers.filter (·.1.name = name) do
    status ← save channel text
  modify fun state => { state with
    writers := state.writers.filter (·.1.name ≠ name)
    readers := state.readers.filter (·.1.name ≠ name) }
  return .number (if known then status.toFloat else -1)

end Action

end CatalogSeed.Utility.Awk
