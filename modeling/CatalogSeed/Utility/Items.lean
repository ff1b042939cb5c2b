import CatalogSeed.Files.Permission
import CatalogSeed.Files.Rearranging
import CatalogSeed.Utility.Lines

/-!
Utilities that create and remove files and directories.
-/

namespace CatalogSeed.Utility

/-- A path below another one. -/
def below (path name : String) : String :=
  if path.endsWith "/" then path ++ name else path ++ "/" ++ name

/-- What kind of item this is, in words. -/
def kindName : Item → String
  | .directory => "directory"
  | .file [] => "regular empty file"
  | .file _ | .utility _ => "regular file"
  | .link _ => "symbolic link"
  | .device _ => "character special file"
  | .pipe _ => "fifo"

/-- The place of a name itself, which can be taken away there. -/
def ownPlace (tree : FileTree) (text : String) : Except FileError (List String × Item) := do
  let path ← Path.parse text
  match ← tree.place path with
  | none => tree.resolve text
  | some location =>
      match tree.item? location with
      | none => .error .notFound
      | some .directory => .ok (location, .directory)
      | some item => if path.slashAtEnd then .error .notDirectory else .ok (location, item)

namespace Job

/-- Does something with the tree that can fail. -/
def attempt (job : Job) (doing : String) (change : FileTree → Except FileError FileTree) :
    Task Bool := do
  match change (← Task.tree) with
  | .ok tree =>
      Task.setTree tree
      return true
  | .error error =>
      job.complain (doing ++ ": " ++ reason error)
      return false

/-- Creates those of these directories that are missing, the outer ones first. -/
def createAll (job : Job) (say : Bool) : List String → Task Bool
  | [] => return true
  | path :: inner => do
      let tree ← Task.tree
      let text := Octets.toText path
      let doing := "cannot create directory " ++ quoted path
      match tree.resolve text with
      | .ok (_, .directory) => job.createAll say inner
      | .error .endless =>
          if inner = [] then
            job.complain ("cannot stat " ++ named path ++ ": " ++ reason .endless)
          else job.complain (doing ++ ": " ++ reason .endless)
          return false
      | _ =>
          match tree.createDirectory text with
          | .ok tree =>
              Task.setTree tree
              if say then Task.print (job.name ++ ": created directory " ++ quoted path ++ "\n")
              job.createAll say inner
          | .error error =>
              let hidden := (tree.resolve text).toOption.isNone
              let error :=
                if error = .alreadyThere ∧ inner ≠ [] ∧ !hidden then .notDirectory else error
              job.complain (doing ++ ": " ++ reason error)
              return false

/-- The changes that the mode option asks for. -/
def modeChanges (job : Job) (call : Call) : Except Result (Option (List Permission.Change)) :=
  match call.value? ["m"] with
  | none => .ok none
  | some text =>
      match Permission.changes? text with
      | some changes => .ok (some changes)
      | none => .error (job.fail 1 ("invalid mode " ++ quoted text))

end Job

/-- Gives what a path leads to the mode that was asked for. -/
def allow (path : String) (changes : Option (List Permission.Change)) (start : Nat) :
    Task Unit := do
  if let some changes := changes then
    let tree ← Task.tree
    let change (node : Node) : Node :=
      let directory := node.item = .directory
      { node with mode := Permission.changed directory tree.mask changes start }
    Task.setTree (tree.changeAt (Octets.toText path) change)

def mkdir (job : Job) : Result :=
  let long := [("parents", "p", false), ("verbose", "v", false), ("mode", "m", true)]
  match job.call "pvZ" "m" long false 1 with
  | .error result => result
  | .ok call =>
      if call.operands = [] then job.missingOperand
      else match job.modeChanges call with
      | .error result => result
      | .ok changes => job.perform false do
        let say := call.has ["v"]
        for path in call.operands do
          let before := (← Task.tree).isDirectory (Octets.toText path)
          let made ← if call.has ["p"] ∧ path ≠ "" then
              let outer := (Path.ancestors path.length path).filter (· ≠ "")
              job.createAll say outer.reverse
            else do
              let made ← job.attempt ("cannot create directory " ++ quoted path) fun tree =>
                tree.createDirectory (Octets.toText path)
              if made && say then
                Task.print (job.name ++ ": created directory " ++ quoted path ++ "\n")
              pure made
          if made && !before then allow path changes 0o777

/-- Makes a new item where nothing is. -/
def createItem (path : String) (item : Item) (mode : Nat) (tree : FileTree) :
    Except FileError FileTree := do
  match ← tree.place (← Path.parse (Octets.toText path)) with
  | none => .error .alreadyThere
  | some location =>
      if (tree.item? location).isSome then .error .alreadyThere
      else .ok (tree.create location item mode)

def mkfifo (job : Job) : Result :=
  match job.call "Z" "m" [("mode", "m", true)] false 1 with
  | .error result => result
  | .ok call =>
      if call.operands = [] then job.missingOperand
      else match job.modeChanges call with
      | .error result => result
      | .ok changes => job.perform false do
        for path in call.operands do
          if ← job.attempt ("cannot create fifo " ++ named path) (createItem path (.pipe []) 0o666)
          then allow path changes 0o666

/-- Letters for the name of a new file, told by a number. -/
def freshLetters : Nat → Nat → List Char
  | 0, _ => []
  | count + 1, number =>
      let letters := "k3QzN7xVbT0hJwR5mYcLd2sGfA9uEp8K".toList
      letters.getD (number % 32) 'x' :: freshLetters count (number * 1103515245 / 7 + 12345)

def mktemp (job : Job) : Result :=
  let long := [("directory", "d", false), ("quiet", "q", false), ("dry-run", "u", false),
    ("tmpdir", "p", true), ("suffix", "suffix", true)]
  match job.call "dqut" "p" long false 1 with
  | .error result => result
  | .ok call =>
      match call.operands with
      | _ :: extra :: _ =>
          job.usage 1 (if extra = "" then "too many templates" else "too many templates")
      | operands =>
          let template := operands.headD "tmp.XXXXXXXXXX"
          let ending := (call.value? ["suffix"]).getD ""
          let place := ((call.value? ["p"]).filter (· ≠ "")).getD
            ((job.environment.lookup "TMPDIR").getD "/tmp")
          let inside := operands = [] || call.has ["p", "t"]
          let template := if inside then below place template else template
          let backwards := template.toList.reverse
          let behind := if call.has ["suffix"] then [] else backwards.takeWhile (· ≠ 'X')
          let marks := (backwards.drop behind.length).takeWhile (· = 'X')
          let front := (backwards.drop (behind.length + marks.length)).reverse
          if marks.length < 3 then
            job.fail 1 ("too few X's in template " ++ quoted (operands.headD template))
          else
            let kind := if call.has ["d"] then "directory" else "file"
            let path := String.ofList
              (front ++ freshLetters marks.length job.tree.made ++ behind.reverse) ++ ending
            let made := if call.has ["d"] then createItem path .directory 0o700 job.tree
              else createItem path (.file []) 0o600 job.tree
            match made with
            | .error error =>
                if call.has ["q"] then job.done "" 1
                else job.fail 1 ("failed to create " ++ kind ++ " via template " ++
                  quoted (template ++ ending) ++ ": " ++ reason error)
            | .ok tree =>
                { job.output (path ++ "\n") with
                  tree := if call.has ["u"] then
                    { job.tree with
                      made := job.tree.made + 1
                      numbered := fun name member =>
                        Nat.lt_succ_of_lt (job.tree.numbered name member) }
                    else tree }

namespace Job

/-- Removes empty directories, the inner ones first. -/
def removeEmpty (job : Job) (call : Call) : List String → Task Unit
  | [] => return
  | path :: outer => do
      let tree ← Task.tree
      let text := Octets.toText path
      if call.has ["v"] then
        Task.print (job.name ++ ": removing directory, " ++ named path ++ "\n")
      let refuse (why : String) : Task Unit :=
        job.complain ("failed to remove " ++ named path ++ ": " ++ why)
      match ownPlace tree text with
      | .error error =>
          refuse (if error = .notDirectory ∧ tree.isDirectory text then
            "Symbolic link not followed" else reason error)
      | .ok (location, .directory) =>
          if baseName path = "." then refuse "Invalid argument"
          else if tree.children location ≠ [] then
            unless call.has ["ignore"] do refuse "Directory not empty"
          else
            Task.setTree (tree.remove location)
            job.removeEmpty call outer
      | .ok _ => refuse "Not a directory"

end Job

def rmdir (job : Job) : Result :=
  let long := [("parents", "p", false), ("verbose", "v", false),
    ("ignore-fail-on-non-empty", "ignore", false)]
  match job.call "pv" "" long false 1 with
  | .error result => result
  | .ok call =>
      if call.operands = [] then job.missingOperand
      else job.perform false do
        for path in call.operands do
          let outer := (Path.ancestors path.length path).filter (· ≠ "")
          job.removeEmpty call (if call.has ["p"] then outer else [path])

/-- What is still to be read of the input, for answers to questions. -/
abbrev Asking := StateT (List String) Task

/-- Asks a question, and tells whether it was answered with yes. -/
def Job.ask (job : Job) (question : String) : Asking Bool := do
  StateT.lift (modify fun result =>
    { result with pieces := result.pieces ++ [⟨true, job.name ++ ": " ++ question ++ "? "⟩] })
  let answers ← get
  set answers.tail
  return ["y", "Y"].any fun yes => (answers.headD "").startsWith yes

/-- Removes an item with what is below it, and tells whether it is gone. -/
def Job.removeTree (job : Job) (asks tells : Bool) :
    Nat → String → List String → Asking Bool
  | 0, _, _ => return false
  | fuel + 1, path, location => do
      let tree ← StateT.lift Task.tree
      let item := (tree.item? location).getD (.file [])
      let inside := tree.children location
      if asks && item = .directory && inside ≠ [] then
        unless ← job.ask ("descend into directory " ++ named path) do
          return false
      let mut empty := true
      for name in inside do
        let gone ← job.removeTree asks tells fuel (below path (Octets.ofText name))
          (location ++ [name])
        empty := empty && gone
      if !empty then return false
      if asks then
        unless ← job.ask ("remove " ++ kindName item ++ " " ++ named path) do
          return false
      StateT.lift do
        Task.setTree ((← Task.tree).remove location)
        if tells then
          let kind := if item = .directory then "directory " else ""
          Task.print ("removed " ++ kind ++ named path ++ "\n")
      return true

def rm (job : Job) : Result :=
  let long := [("force", "f", false), ("recursive", "r", false), ("verbose", "v", false),
    ("dir", "d", false), ("interactive", "i", false), ("preserve-root", "preserve", false),
    ("no-preserve-root", "any", false), ("one-file-system", "one", false)]
  match job.call "rRfvdiI" "" long false 1 with
  | .error result => result
  | .ok call =>
      let recursive := call.has ["r", "R"]
      let last := (call.options.filter fun (name, _) => name = "i" || name = "f").getLast?
      let asks := last.map Prod.fst = some "i"
      let forced := call.has ["f"]
      let refuse (path why : String) : Asking Unit :=
        StateT.lift (job.complain ("cannot remove " ++ named path ++ ": " ++ why))
      let removeOne (path : String) : Asking Unit := do
        let tree ← StateT.lift Task.tree
        let text := Octets.toText path
        match tree.resolveSelf text with
        | .error error =>
            unless forced && (error = .notFound || error = .notDirectory) do
              refuse path (reason error)
        | .ok (location, item) =>
            let directory := item = .directory
            let full := tree.children location ≠ []
            if directory && recursive && [".", ".."].contains (baseName path) then
              StateT.lift (job.complain
                ("refusing to remove '.' or '..' directory: skipping " ++ named path))
            else if recursive && location = [] then
              StateT.lift do
                job.complain "it is dangerous to operate recursively on '/'"
                job.complain "use --no-preserve-root to override this failsafe"
            else if directory && !recursive && !call.has ["d"] then
              refuse path "Is a directory"
            else if directory && !recursive && full then refuse path "Directory not empty"
            else match ownPlace tree text with
            | .ok _ =>
                let _ ← job.removeTree asks (call.has ["v"]) Path.longestPath path location
            | .error error =>
                for name in tree.children location do
                  let _ ← job.removeTree asks (call.has ["v"]) Path.longestPath
                    (below path (Octets.ofText name)) (location ++ [name])
                refuse path (reason error)
      if call.operands = [] then
        if forced then job.output "" else job.missingOperand
      else job.perform asks do
        let _ ← (call.operands.forM removeOne).run (bareLines job.input)

/-- The operands of a call that takes so many. -/
def Job.exactly (job : Job) (count : Nat) (result : List String → Result) : Result :=
  job.withOptions "" fun call =>
    match call.operands, call.operands.drop count with
    | [], _ => job.missingOperand
    | _, extra :: _ => job.usage 1 ("extra operand " ++ quoted extra)
    | operands, [] =>
        if operands.length < count then
          job.usage 1 ("missing operand after " ++ quoted (operands.headD ""))
        else result operands

def unlink (job : Job) : Result :=
  job.exactly 1 fun operands => job.perform false do
    let path := operands.headD ""
    let _ ← job.attempt ("cannot unlink " ++ named path) fun tree => do
      match ← ownPlace tree (Octets.toText path) with
      | (_, .directory) => .error .isDirectory
      | (location, _) => .ok (tree.remove location)

/-- Gives what stands at a place one more name, where there is none. -/
def addLink (origin : List String) (target : String) (tree : FileTree) :
    Except FileError FileTree := do
  let path ← Path.parse (Octets.toText target)
  match ← tree.place path, tree.number? origin with
  | some location, some number =>
      if (tree.item? location).isSome then .error .alreadyThere
      else if path.slashAtEnd then .error .notFound
      else .ok (tree.addName location number)
  | none, _ => .error .alreadyThere
  | _, none => .error .notFound

def link (job : Job) : Result :=
  job.exactly 2 fun operands => job.perform false do
    let source := operands.headD ""
    let target := operands.getLastD ""
    let doing := "cannot create link " ++ named target ++ " to " ++ named source
    let _ ← job.attempt doing fun tree => do
      let (origin, item) ← ownPlace tree (Octets.toText source)
      if item = .directory then .error .notAllowed else addLink origin target tree

/-- Writes what is read to files too. -/
def tee (job : Job) : Result :=
  let long := [("append", "a", false), ("ignore-interrupts", "i", false)]
  match job.call "aip" "" long false 1 with
  | .error result => result
  | .ok call => job.perform true do
      for path in call.operands do
        let tree ← Task.tree
        let text := Octets.toText path
        let before := if call.has ["a"] then (tree.read text).toOption.getD [] else []
        match tree.write text (before ++ Octets.toBytes (String.ofList job.input)) with
        | (.ok (), tree) => Task.setTree tree
        | (.error error, _) => job.complain (shown path ++ ": " ++ reason error)
      Task.print (String.ofList job.input)

/-- The size that a text asks for, where there was another one before. -/
def sizeAsked? (text : String) (before : Nat) : Option Nat :=
  let (sign, body) := match text.toList with
    | c :: rest => if "+-<>/%".toList.contains c then (some c, rest) else (none, c :: rest)
    | [] => (none, [])
  match Count.parse? (String.ofList body), sign with
  | some ⟨none, size⟩, none => some size
  | some ⟨none, size⟩, some '+' => some (before + size)
  | some ⟨none, size⟩, some '-' => some (before - size)
  | some ⟨none, size⟩, some '<' => some (min before size)
  | some ⟨none, size⟩, some '>' => some (max before size)
  | some ⟨none, size⟩, some '/' => if size = 0 then none else some (before / size * size)
  | some ⟨none, size⟩, some _ =>
      if size = 0 then none else some ((before + size - 1) / size * size)
  | _, _ => none

def truncate (job : Job) : Result :=
  let long := [("size", "s", true), ("no-create", "c", false), ("reference", "r", true),
    ("io-blocks", "o", false)]
  match job.call "co" "sr" long false 1 with
  | .error result => result
  | .ok call =>
      let reference := call.value? ["r"]
      let sizeOf (path : String) : Except FileError Nat :=
        (job.tree.resolve (Octets.toText path)).map fun (_, item) => item.size
      match call.value? ["s"], reference.map sizeOf with
      | none, none =>
          job.usage 1 "you must specify either '--size' or '--reference'"
      | size, given =>
          let wanted (before : Nat) : Option Nat :=
            let before := match given with
              | some (.ok other) => other
              | _ => before
            match size with
            | some size => sizeAsked? size before
            | none => some before
          match given, wanted 0 with
          | some (.error error), _ =>
              job.fail 1 ("cannot stat " ++ named (reference.getD "") ++ ": " ++ reason error)
          | _, none => job.fail 1 ("Invalid number: " ++ quoted (size.getD ""))
          | _, some _ =>
              if call.operands = [] then job.usage 1 "missing file operand"
              else job.perform false do
                for path in call.operands do
                  let tree ← Task.tree
                  let text := Octets.toText path
                  let content := (tree.read text).toOption.getD []
                  let new := (wanted content.length).getD 0
                  let filled := content.take new ++ List.replicate (new - content.length) 0
                  unless call.has ["c"] && !(tree.resolve text).isOk do
                    match tree.write text filled with
                    | (.ok (), tree) => Task.setTree tree
                    | (.error error, _) =>
                        job.complain ("cannot open " ++ named path ++ " for writing: " ++
                          reason error)

end CatalogSeed.Utility
