import CatalogSeed.Utility.Conversation
import CatalogSeed.Utility.Finding.Grammar

/-!
Looking for files below directories, and doing things with those that are found.
-/

namespace CatalogSeed.Utility

namespace Finding

/-- Why a search does not go on: it was told to, or a program has to be run. -/
inductive Stop
  | quit
  | ask (request : Request)

/-- A program with files that it will be run for together. -/
structure Batch where
  command : Command
  directory : Option (List String)
  paths : List String

structure Search where
  job : Job
  replies : List Reply
  tree : FileTree
  /-- What was written, the last piece first. -/
  pieces : List Piece
  status : Nat
  pruned : Bool
  batches : List Batch
  input : List Char
  asked : Bool

abbrev Action := ExceptT Stop (StateM Search)

def emit (toErrors : Bool) (text : String) : Action Unit :=
  modify fun search => { search with pieces := ⟨toErrors, text⟩ :: search.pieces }

def complain (message : String) : Action Unit := do
  emit true ((← get).job.name ++ ": " ++ message ++ "\n")
  modify fun search => { search with status := 1 }

/-- What becomes of a program. -/
def ask (request : Request) : Action Reply := do
  let search ← get
  match search.replies with
  | reply :: replies =>
      set { search with replies, tree := reply.tree }
      return reply
  | [] => throw (.ask request)

/-- Whether a program went well. -/
def run (words : List String) (directory : Option (List String)) : Action Bool := do
  let reply ← ask ⟨words, none, false, directory⟩
  let say (message : String) : Action Unit := do
    emit true ((← get).job.name ++ ": " ++ message ++ "\n")
  match reply.missing, reply.signal with
  | some error, _ =>
      say (Utility.named (words.headD "") ++ ": " ++ reason error)
      return false
  | none, some signal =>
      say (words.headD "" ++ " terminated by signal " ++ decimal signal)
      return false
  | none, none => return reply.status = 0

/-- Writes to the output or to a file. -/
def write (file : Option String) (text : String) : Action Unit := do
  match file with
  | none => emit false text
  | some "/dev/stdout" => emit false text
  | some "/dev/stderr" => emit true text
  | some file =>
      modify fun search =>
        let path := Octets.toText file
        let before := (search.tree.read path).toOption.getD []
        { search with tree := (search.tree.write path (before ++ Octets.toBytes text)).2 }

/-- Asks whether a program should be run. -/
def mayRun (command : Command) (found : Found) : Action Bool := do
  if !command.asks then return true
  emit true ("< " ++ command.words.headD "" ++ " ... " ++ found.path ++ " > ? ")
  let search ← get
  let (line, rest) := search.input.span (· ≠ '\n')
  set { search with input := rest.drop 1, asked := true }
  return line.head? = some 'y' || line.head? = some 'Y'

/-- Takes a file away, and a directory if nothing is in it. -/
def delete (found : Found) : Action Bool := do
  if found.path = "." then return true
  let search ← get
  let inside := search.tree.children found.location
  if found.location = [] ∨ found.node.item = .directory ∧ inside ≠ [] then
    complain ("cannot delete " ++ Utility.named found.path ++ ": " ++ reason .notEmpty)
    return false
  else
    modify fun search => { search with tree := search.tree.remove found.location }
    return true

/-- Whether a condition holds, with what is done on the way. -/
def holds (found : Found) : Condition → Action Bool
  | .test condition => return condition (← get).tree found
  | .prune => do
      modify fun search => { search with pruned := true }
      return true
  | .quit => throw .quit
  | .delete => delete found
  | .write file text => do
      write file (text (← get).tree found)
      return true
  | .run command => do
      let directory := if command.inPlace then some found.location.dropLast else none
      let path := if !command.inPlace then found.path
        else if found.location = [] then "/"
        else "./" ++ baseName found.path
      if command.together then
        modify fun search =>
          let same (batch : Batch) : Bool :=
            batch.command = command && batch.directory = directory
          { search with batches :=
              if search.batches.any same then
                search.batches.map fun batch =>
                  if same batch then { batch with paths := batch.paths ++ [path] } else batch
              else search.batches ++ [⟨command, directory, [path]⟩] }
        return true
      else if ← mayRun command found then
        run (command.words.map fun word =>
          path.intercalate (word.splitOn "\x7b\x7d")) directory
      else return false
  | .both left right => do
      if ← holds found left then holds found right else return false
  | .either left right => do
      if ← holds found left then return true else holds found right
  | .second left right => do
      let _ ← holds found left
      holds found right
  | .negate condition => return !(← holds found condition)

/-- What a path leads to, behind a link if links are followed and it leads somewhere. -/
def look (tree : FileTree) (follows : Bool) (start path : String) (depth : Nat) :
    Except FileError Found :=
  let itself := Shown.at? tree false path
  let shown := if follows then
      match Shown.at? tree true path with
      | .error .notFound => itself
      | shown => shown
    else itself
  shown.map fun shown => { toShown := shown, start, depth }

/-- Goes through what lies at a path and below it; `outer` are the directories on the way. -/
def visit (condition : Condition) (reader : Reader) (start : String) :
    Nat → Nat → String → List (Nat × String) → Action Unit
  | 0, _, _, _ => return
  | fuel + 1, depth, path, outer => do
      let follows := reader.following = .always || reader.following = .first && depth = 0
      match look (← get).tree follows start path depth with
      | .error error => complain (Utility.named path ++ ": " ++ reason error)
      | .ok found =>
          let directory := found.node.item = .directory
          match outer.find? fun entry => directory && entry.1 = found.number with
          | some (_, other) =>
              complain ("File system loop detected; " ++ Utility.named path ++
                " is part of the same file system loop as " ++ Utility.named other ++ ".")
          | none =>
              let test : Action Unit := do
                if reader.least ≤ depth then
                  let _ ← holds found condition
              unless reader.deepFirst do test
              let pruned := (← get).pruned && !reader.deepFirst
              modify fun search => { search with pruned := false }
              let deeper := directory && !pruned && reader.most.all (depth < ·)
              let tree := (← get).tree
              if deeper && (tree.item? found.location).isNone then
                complain (Utility.named path ++ ": " ++ reason .notFound)
              else if deeper then
                for name in tree.children found.location do
                  visit condition reader start fuel (depth + 1) (below path (Octets.ofText name))
                    ((found.number, path) :: outer)
              if reader.deepFirst then test

/-- The part of a call in front of the paths: which links are followed. -/
def leading : List String → Following → Except String (Following × List String)
  | "-L" :: rest, _ => leading rest .always
  | "-H" :: rest, _ => leading rest .first
  | "-P" :: rest, _ => leading rest .never
  | "--" :: rest, following => .ok (following, rest)
  | "-D" :: _ :: rest, following => leading rest following
  | ["-D"], _ => .error "Missing argument after the -D option."
  | word :: rest, following =>
      match word.toList with
      | ['-', 'O'] => .error "The -O option must be immediately followed by a decimal integer"
      | '-' :: 'O' :: level =>
          if level.all Char.isDigit then leading rest following
          else .error "Please specify a decimal number immediately after -O"
      | _ => .ok (following, word :: rest)
  | [], following => .ok (following, [])

/-- Whether a word begins the conditions. -/
def isCondition (word : String) : Bool :=
  match word.toList with
  | '-' :: _ :: _ | ['('] | ['!'] => true
  | _ => false

/-- Does all of a search. -/
def search (condition : Condition) (reader : Reader) (paths : List String) : Action Unit := do
  for warning in reader.warnings do
    emit true ((← get).job.name ++ ": " ++ warning ++ "\n")
  try
    for path in paths do
      visit condition reader path Path.longestPath 0 path []
  catch
    | .quit => pure ()
    | stop => throw stop
  for batch in (← get).batches do
    unless ← run (batch.command.words ++ batch.paths) batch.directory do
      modify fun search => { search with status := 1 }

/-- Empties the files that will be written to; the first that cannot be is told. -/
def emptyFiles (tree : FileTree) (files : List String) : Except String FileTree :=
  (files.filter fun file => !file.startsWith "/dev/std").foldlM (fun tree file =>
    match tree.write (Octets.toText file) [] with
    | (.ok (), tree) => .ok tree
    | (.error error, _) => .error (Utility.named file ++ ": " ++ reason error)) tree

end Finding

open Finding in
/-- Looks for files, as far as the replies to the programs that are run go. -/
def find (job : Job) (replies : List Reply) : Progress :=
  let read : Except String (Condition × Finding.Reader × List String × FileTree) := do
    let (following, words) ← leading job.arguments .never
    let (paths, words) := words.span (!isCondition ·)
    let (condition, reader) ← parse job.tree following words
    let tree ← emptyFiles job.tree reader.files
    return (condition, reader, if paths = [] then ["."] else paths, tree)
  match read with
  | .error message => .done (job.fail 1 message)
  | .ok (condition, reader, paths, tree) =>
      let start : Search :=
        { job, replies, tree, pieces := [], status := 0, pruned := false, batches := []
          input := job.input, asked := false }
      let (outcome, after) := (search condition reader paths).run start
      let taken := if after.asked then job.input.length - after.input.length else 0
      let result : Result := ⟨after.pieces.reverse, after.status, after.tree, taken, some 0⟩
      match outcome with
      | .error (.ask request) => .asks request result
      | _ => .done result

end CatalogSeed.Utility
