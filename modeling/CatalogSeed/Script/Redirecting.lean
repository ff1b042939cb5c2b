import CatalogSeed.Script.Engine

/-!
Redirections: opening files, and pointing descriptors at them for as long as a command runs.
-/

namespace CatalogSeed.Script.Engine

def point (descriptor number : Nat) : Run Unit :=
  modify fun shell => { shell with
    channels := (descriptor, number) :: shell.channels.filter (·.1 ≠ descriptor) }

/-- The descriptor that a path under `/dev` stands for. -/
def descriptorOf? (path : String) : Option Nat :=
  match path with
  | "/dev/stdin" => some 0
  | "/dev/stdout" => some 1
  | "/dev/stderr" => some 2
  | _ =>
      let front := if path.startsWith "/dev/fd/" then 8
        else if path.startsWith "/proc/self/fd/" then 14 else 0
      if front = 0 then none else (String.ofList (path.toList.drop front)).toNat?

/-- Complains that a file cannot be opened. -/
def refuseFile {α : Type} (creating : Bool) (path : String) (error : FileError) : Run α := do
  let missing := error = .notFound || error = .notDirectory
  match (← get).dialect with
  | .plain =>
      let why := if missing then (if creating then "Directory nonexistent" else "No such file")
        else Utility.reason error
      Run.fail ("cannot " ++ (if creating then "create " else "open ") ++ path ++ ": " ++ why)
  | .extended =>
      let why := if creating && error = .alreadyThere then "cannot overwrite existing file"
        else Utility.reason error
      Run.report (path ++ ": " ++ why)
      Run.status 1
      Run.stop .error

/-- The stream that reads what a location holds. -/
def sourceAt (tree : FileTree) (location : List String) : Stream :=
  match tree.item? location, tree.number? location with
  | some .directory, _ => .directory
  | some (.file _), some node | some (.pipe _), some node => .file node 0 .reading
  | some (.device .zeros), _ | some (.device .full), _ => .zeros
  | _, _ => .nothing

/-- What can be done with a file that is opened so. -/
def accessOf : Mode → Access
  | .read => .reading
  | .create | .overwrite | .createAll => .writing
  | .append | .appendAll => .appending
  | .both => .both

/-- Opens a file, and gives the number of its stream. -/
def openFile (mode : Mode) (path : String) : Run Nat := do
  let shell ← get
  let tree := shell.world.tree
  let name := Octets.toText path
  let opened (stream : Stream) : Run Nat := do
    let (number, world) := (← get).world.openStream stream
    modify fun shell => { shell with world }
    return number
  let openWriting (keep : Bool) : Run Nat := do
    match tree.openForWriting name with
    | .error error => refuseFile true path error
    | .ok (_, some (.device .full)) => opened .full
    | .ok (_, some (.device .zeros)) => opened .zeros
    | .ok (_, some (.device _)) => opened .nothing
    | .ok (location, item) =>
        let creates := mode = Mode.create || mode = Mode.createAll
        let hidden := item.isNone && (tree.resolveSelf name).isOk
        let plain := (item.map Item.isPlain).getD false
        if creates && (plain || hidden) && shell.options.contains 'C' then
          refuseFile true path .alreadyThere
        else
          unless keep && item.isSome do
            Run.changeWorld fun world => { world with tree := (world.tree.write name []).2 }
          let node := ((← get).world.tree.number? location).getD 0
          opened (.file node 0 (accessOf mode))
  match descriptorOf? path with
  | some descriptor =>
      match shell.channels.lookup descriptor with
      | some number => return number
      | none => refuseFile (mode ≠ .read) path .notFound
  | none =>
      match mode with
      | .read =>
          match tree.resolve name with
          | .ok (_, .device .terminal) => refuseFile false path .noDevice
          | .ok (location, _) => opened (sourceAt tree location)
          | .error error => refuseFile false path error
      | .append | .appendAll | .both => openWriting true
      | .create | .overwrite | .createAll => openWriting false

/-- The one text that names what a redirection leads to. -/
def targetText (engine : Engine) (word : Word) : Run String := do
  if ← Run.isExtended then
    match ← expandWords engine.capture [word] with
    | [text] => return text
    | _ =>
        Run.report (Word.text word ++ ": ambiguous redirect")
        Run.status 1
        Run.stop .error
  else expandText engine.capture word

/-- Opens a text for reading. -/
def openText (text : String) : Run Nat := do
  let (number, world) := (← get).world.openStream (.source (Octets.toBytes text))
  modify fun shell => { shell with world }
  return number

/-- Whether a text is the number of a channel. -/
def isChannel (extended : Bool) (text : String) : Bool :=
  text.all Char.isDigit && (text.length = 1 || extended && text ≠ "")

/-- What a redirection leads to, if a text says so. A plain shell takes a text that can be no
channel for a mistake in the script. -/
def target (engine : Engine) : Redirection → Run String
  | .file _ _ word => engine.targetText word
  | .copy _ word => do
      let text ← engine.targetText word
      if !(← Run.isExtended) && text ≠ "-" && !isChannel false text then
        modify fun shell => { shell with line := shell.reading }
        Run.fail "Syntax error: Bad fd number"
      return text
  | .document _ _ | .text _ _ => return ""

/-- Puts one redirection into force. -/
def redirect (engine : Engine) (text : String) : Redirection → Run Unit
  | .file descriptor mode _ => do
      let number ← openFile mode text
      point descriptor number
      if mode = .createAll ∨ mode = .appendAll then point 2 number
  | .copy descriptor _ => do
      let extended ← Run.isExtended
      if text = "-" then
        modify fun shell =>
          { shell with channels := shell.channels.filter (·.1 ≠ descriptor) }
      else if isChannel extended text then
        match ← Run.streamOf? (text.toNat?.getD 0) with
        | some number => point descriptor number
        | none =>
            let message := text ++ ": Bad file descriptor"
            if extended then
              Run.report message
              Run.status 1
              Run.stop .error
            else Run.fail message
      else
        Run.report (text ++ ": ambiguous redirect")
        Run.status 1
        Run.stop .error
  | .document descriptor number => do
      let body := ((← get).documents.lookup number).getD []
      let text := pieceText (← Filling.pieces ⟨engine.capture, false, .nowhere⟩ false body)
      point descriptor (← openText text)
  | .text descriptor word => do
      let text ← expandText engine.capture word
      point descriptor (← openText (text ++ "\n"))

/-- Puts redirections into force; if one fails, the earlier ones are taken back. A plain shell first
finds out where all of them lead to. -/
def redirectAll (engine : Engine) (redirections : List Redirection) : Run Bool := do
  let before := (← get).channels
  let target (redirection : Redirection) : Run (Redirection × String) :=
    return (redirection, ← engine.target redirection)
  let known ← if ← Run.isExtended then pure none
    else pure (some (← redirections.mapM target))
  try
    match known with
    | some known =>
        for (redirection, text) in known do
          engine.redirect text redirection
    | none =>
        for redirection in redirections do
          engine.redirect (← engine.target redirection) redirection
    return true
  catch
    | .error =>
        modify fun shell => { shell with channels := before }
        return false
    | reason => throw reason

/-- Does something with redirections in force. -/
def redirected (engine : Engine) (redirections : List Redirection) (action refused : Run Unit) :
    Run Unit := do
  if redirections.isEmpty then action
  else
    let before := (← get).channels
    if ← engine.redirectAll redirections then
      Run.restoring (fun _ shell => { shell with channels := before }) action
    else refused

end CatalogSeed.Script.Engine
