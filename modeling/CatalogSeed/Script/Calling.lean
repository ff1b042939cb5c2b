import CatalogSeed.Script.Extended.Signal
import CatalogSeed.Script.Launch

/-!
What the first word of a command leads to, and doing it: functions, the shell's own commands, and
programs.
-/

namespace CatalogSeed.Script

/-- What the first word of a command leads to. -/
inductive Found
  | nothing
  | description (sentence : Bool)
  | function (name : String) (body : Command)
  | builtin (special : Bool)
  /-- A name that should be one of the shell's own commands. -/
  | notBuiltin
  /-- An option that is none. -/
  | misused (option : String)
  | program

namespace Engine

/-- How many functions may call one another. -/
def mostCalls (dialect : Dialect) : Nat :=
  if dialect = .extended then 4000 else 1000

/-- Calls a function. With too many calls within one another, a plain shell complains and an
extended one runs out of memory. -/
def call (engine : Engine) (name : String) (body : Command) (words : List String) : Run Unit := do
  let shell ← get
  let most := mostCalls shell.dialect
  if most ≤ shell.calling.length then
    if shell.dialect = .extended then Run.stop (.killed 11)
    else Run.fail ("Maximum function recursion depth (" ++ decimal most ++ ") reached")
  let restore (before after : Shell) : Shell :=
    { after with
      arguments := before.arguments
      calls := before.calls
      calling := before.calling
      loops := before.loops
      optionOffset := before.optionOffset
      line := if after.dialect = .extended then before.line else after.line }
  Run.restoring restore do
    modify fun shell => { shell with
      arguments := words, calls := shell.calls + 1, calling := name :: shell.calling, loops := 0
      locals := [] :: shell.locals }
    try
      engine.run body
      Builtin.restoreLocals
    catch
      | .returned => Builtin.restoreLocals
      | reason =>
          Builtin.restoreLocals
          throw reason

/-- Ends loops or turns to their next round. -/
def leave (stop : Nat → Stop) (words : List String) : Run Unit := do
  let shell ← get
  let levels ← match shell.dialect, words with
    | .extended, words => do
        if shell.loops = 0 then
          Run.warn "only meaningful in a \x60for', \x60while', or \x60until' loop"
          return
        match number? false (words.headD "1") with
        | some number =>
            if number ≤ 0 then
              Run.warn (words.headD "" ++ ": loop count out of range")
              Run.status 1
              Run.stop (.broken shell.loops)
            pure number.toNat
        | none => do
            Run.warn (words.headD "" ++ ": numeric argument required")
            Run.status 128
            Run.stop .exit
    | .plain, [] => pure 1
    | .plain, word :: _ => Run.count word
  if levels = 0 then Run.fail ("Illegal number: " ++ words.headD "")
  else
    let levels := min levels shell.loops
    if levels ≠ 0 then Run.stop (stop levels)

/-- Runs the text of a file that was named. -/
def runSource (engine : Engine) (place : String) (content : List UInt8) : Run Unit := do
  Run.status 0
  let restore (before shell : Shell) : Shell := { shell with
    tested := before.tested
    place := before.place
    sources := before.sources
    line := before.line
    command := before.command }
  Run.restoring restore do
    modify fun shell => { shell with tested := false, sources := shell.sources + 1 }
    if ← Run.isExtended then
      modify fun shell => { shell with place, command := none }
    try engine.runScript "" (Octets.ofBytes content)
    catch
      | .returned => return
      | reason => throw reason

/-- Looks for a file with commands. -/
def findSource? (name : String) : Run (Option String) := do
  let tree := (← get).world.tree
  if name.contains '/' then return some name
  else
    let isFile (path : String) : Bool := (tree.read (Octets.toText path)).isOk
    let found := (← Builtin.searchPath).findSome? fun directory =>
      if isFile (directory ++ name) then some (directory ++ name) else none
    return found.or (if (← Run.isExtended) && isFile name then some name else none)

/-- Runs the commands of a file. -/
def source (engine : Engine) (words : List String) : Run Unit := do
  let extended ← Run.isExtended
  let words ← if extended then
      pure (← Extended.options "" words).2
    else pure words
  match words with
  | [] => if extended then Extended.misused "filename argument required" else return
  | name :: arguments =>
      match ← findSource? name with
      | none =>
          if extended then
            Run.report (name ++ ": No such file or directory")
            Run.status 1
          else Run.fail (name ++ ": not found")
      | some path =>
          let shell ← get
          let input? := (descriptorOf? path).bind fun descriptor => shell.channels.lookup descriptor
          let left? := input?.bind fun number => shell.world.left number
          let content : Except FileError (List UInt8) := match left? with
            | some left => .ok left
            | none => shell.world.tree.read (Octets.toText path)
          match content with
          | .error error =>
              if error = .isDirectory ∧ extended then
                Run.warn (path ++ ": is a directory")
                Run.status 1
              else refuseFile false path error
          | .ok content =>
              if extended && arguments ≠ [] then
                Run.restoring (fun before shell => { shell with arguments := before.arguments }) do
                  modify fun shell => { shell with arguments }
                  engine.runSource path content
              else engine.runSource path content

/-- Runs words as the text of commands. -/
def evaluate (engine : Engine) (status : Nat) (words : List String) : Run Unit := do
  let shell ← get
  let extended := shell.dialect = .extended
  let words ← if extended then
      pure (← Extended.options "" words).2
    else pure words
  let text := " ".intercalate words
  if text.toList.all isSpace then return
  Run.status status
  if extended then
    let restore (before shell : Shell) : Shell :=
      { shell with command := before.command, depth := before.depth }
    Run.restoring restore do
      modify fun shell => { shell with command := none, depth := shell.depth + 1 }
      engine.runPassage ⟨"eval: ", shell.line, text.toList⟩
  else engine.runScript "eval: " text

/-- The status that a command ends something with. -/
def givenStatus (status : Nat) (words : List String) : Run Nat := do
  match words with
  | [] => return status
  | word :: _ => return (← Run.count word) % 256

/-- Ends the shell. -/
def exit (status : Nat) (words : List String) : Run Unit := do
  if ← Run.isExtended then
    match words, number? false (words.headD "") with
    | [], _ => Run.status status
    | word :: _, none =>
        Run.warn (word ++ ": numeric argument required")
        Run.status 2
    | [_], some number => Run.status (number % 256).toNat
    | _, some _ =>
        Run.warn "too many arguments"
        Run.status 1
        Run.stop .error
  else Run.status (← givenStatus status words)
  Run.stop .exit

/-- Ends a function, or the commands of a file. -/
def leaveFunction (status : Nat) (words : List String) : Run Unit := do
  let shell ← get
  if shell.dialect = .extended then
    if shell.calling = [] ∧ shell.sources = 0 then
      Run.warn "can only \x60return' from a function or sourced script"
      Run.status 2
      Run.stop .error
    match words, number? false (words.headD "") with
    | [], _ => Run.status status
    | word :: _, none =>
        Run.warn (word ++ ": numeric argument required")
        Run.status 2
    | [_], some number => Run.status (number % 256).toNat
    | _, some _ =>
        Run.warn "too many arguments"
        Run.status 1
        Run.stop .error
  else
    match words with
    | [] => Run.status status
    | word :: _ => Run.status (← Run.count word)
  Run.stop .returned

/-- Goes on as a program. -/
def replace (engine : Engine) (words : List String) : Run Unit := do
  let extended ← Run.isExtended
  let words ← if extended then
      pure (← Extended.options "cla:" words).2
    else pure words
  match words with
  | [] => return
  | name :: words =>
      modify fun shell => { shell with traps := [] }
      if extended then
        match ← findProgram false name words with
        | .ok program => engine.runChild program
        | .error error =>
            let absent := error = FileError.notFound
            if !name.contains '/' then Run.warn (name ++ ": not found")
            else
              if absent then Run.report (name ++ ": " ++ Utility.reason error)
              else
                let isDirectory := match (← get).world.tree.resolve (Octets.toText name) with
                  | .ok (_, .directory) => true
                  | _ => false
                Run.warn (name ++ ": cannot execute: " ++
                  if isDirectory then "Is a directory" else Utility.reason error)
            Run.status (if absent then 127 else 126)
      else engine.launch name words
      Run.stop .exit

/-- A command that the shell knows itself; the lists of values that it is to set come beside the
words. -/
def builtin? (engine : Engine) (extended : Bool) (status : Nat) (name : String)
    (words : List String) (settings : List Setting) : Option (Run Unit) :=
  match name with
  | "eval" => some (engine.evaluate status words)
  | "." => some (engine.source words)
  | "exit" => some (exit status words)
  | "return" => some (leaveFunction status words)
  | "break" => some (leave .broken words)
  | "continue" => some (leave .continued words)
  | "exec" => some (engine.replace words)
  | _ =>
      if extended then
        if name = "source" then some (engine.source words)
        else (Extended.command? name settings).map fun command => command words
      else (Builtin.command? name).map fun command => command words

def isBuiltin (shell : Shell) (name : String) : Bool :=
  match shell.dialect with
  | .plain => Builtin.names.contains name
  | .extended => Extended.names.contains name

/-- Finds what the words of a command lead to. A prefix takes functions out of consideration, and
the strictness from special commands. -/
def find (shell : Shell) : Bool → List String → Found × List String
  | _, [] => (.nothing, [])
  | prefixed, name :: words =>
      match if prefixed then none else shell.functions.lookup name with
      | some body => (.function name body, name :: words)
      | none =>
          if name = "command" then
            match words with
            | "-v" :: words => (.description false, name :: words)
            | "-V" :: words => (.description true, name :: words)
            | "-p" :: words => find shell true words
            | "--" :: words => find shell true words
            | word :: rest =>
                if word.startsWith "-" && word ≠ "-" then
                  (.misused (String.ofList (word.toList.take 2)), [name])
                else find shell true (word :: rest)
            | [] => (.nothing, [])
          else if name = "builtin" ∧ shell.dialect = .extended then
            match words with
            | [] => (.nothing, [])
            | word :: _ =>
                if isBuiltin shell word then find shell true words
                else (.notBuiltin, name :: words)
          else if isBuiltin shell name then
            let special := !prefixed && shell.dialect = .plain && specialCommands.contains name
            (.builtin special, name :: words)
          else (.program, name :: words)

/-- Runs a command of the shell itself. Where it is not special, an error only gives a status. -/
def runBuiltin (special : Bool) (name : String) (action : Run Unit) : Run Unit := do
  let before := (← get).command
  let finish : Run Unit := do
    Run.flush
    modify fun shell => { shell with command := before }
  modify fun shell => { shell with command := some name }
  try
    action
    finish
  catch
    | .error =>
        finish
        if special then Run.stop .error
    | reason =>
        finish
        throw reason

/-- Does what the words of a command say. -/
def perform (engine : Engine) (found : Found) (status : Nat) (fields : List String)
    (settings : List Setting) : Run Unit := do
  let extended ← Run.isExtended
  match found, fields with
  | .nothing, _ => Run.status (← get).captured
  | .description sentence, _ :: names =>
      Run.status 0
      runBuiltin false "command" do
        if extended then Extended.describe sentence names
        else if let name :: _ := names then Builtin.describe sentence name
  | .misused option, name :: _ =>
      runBuiltin false name (if extended then Extended.misused (option ++ ": invalid option")
        else Run.fail ("Illegal option " ++ option))
  | .notBuiltin, name :: word :: _ =>
      runBuiltin false name (Extended.complain (word ++ ": not a shell builtin"))
  | .function name body, _ :: words => engine.call name body words
  | .builtin special, name :: words =>
      match engine.builtin? extended status name words settings with
      | some action =>
          Run.status 0
          runBuiltin special name action
      | none => engine.launch name words
  | .program, name :: words => engine.launch name words
  | _, _ => return

end Engine

end CatalogSeed.Script
