import CatalogSeed.Utility.Items
import CatalogSeed.Utility.Lines

/-!
Utilities that work on paths, list directories, or tell who and where one is.
-/

namespace CatalogSeed.Utility

/-- A name without an ending, unless nothing else would be left. -/
def dropEnding (ending name : String) : String :=
  if ending ≠ "" ∧ name ≠ ending ∧ name.endsWith ending then
    String.ofList (name.toList.take (name.length - ending.length))
  else name

def basename (job : Job) : Result :=
  match job.call "az" "s" [("multiple", "a", false), ("suffix", "s", true), ("zero", "z", false)]
      true 1 with
  | .error result => result
  | .ok call =>
      let many := call.has ["a", "s"]
      let finish := if call.has ["z"] then "\x00" else "\n"
      match call.operands with
      | [] => job.missingOperand
      | first :: rest =>
          if many then
            let ending := (call.value? ["s"]).getD ""
            job.output (String.join (call.operands.map fun path =>
              dropEnding ending (baseName path) ++ finish))
          else match rest with
            | [] => job.output (baseName first ++ finish)
            | [ending] => job.output (dropEnding ending (baseName first) ++ finish)
            | _ :: extra :: _ => job.usage 1 ("extra operand " ++ quoted extra)

/-- What stands before the last name of a path. -/
def dirName (path : String) : String :=
  let backwards := path.toList.reverse.dropWhile (· = '/')
  let front := (backwards.dropWhile (· ≠ '/')).dropWhile (· = '/')
  if front ≠ [] then String.ofList front.reverse
  else if path.startsWith "/" && (backwards = [] || backwards.contains '/') then "/"
  else "."

def dirname (job : Job) : Result :=
  match job.call "z" "" [("zero", "z", false)] false 1 with
  | .error result => result
  | .ok call =>
      if call.operands = [] then job.missingOperand
      else job.output (joinLines (call.operands.map dirName))

/-- The path of a location from the root. -/
def pathOf (location : List String) : String :=
  Octets.ofText ("/" ++ "/".intercalate location)

/-- The path of what a name leads to. Its last part may be missing, unless `strict`. -/
def wholePath (tree : FileTree) (strict : Bool) (name : String) : Except FileError String := do
  let path ← Path.parse (Octets.toText name)
  let location ← tree.locate true { path with slashAtEnd := false }
  match tree.item? location with
  | some .directory => .ok (pathOf location)
  | some _ => if path.slashAtEnd then .error .notDirectory else .ok (pathOf location)
  | none => if strict then .error .notFound else .ok (pathOf location)

/-- Follows names and links as far as there is something, and takes the rest as it is. -/
def farthest (tree : FileTree) : Nat → List String → List String → List String
  | 0, location, names => location ++ names
  | _ + 1, location, [] => location
  | fuel + 1, location, name :: rest =>
      if name = "." then farthest tree fuel location rest
      else if name = ".." then farthest tree fuel location.dropLast rest
      else match tree.item? (location ++ [name]) with
        | some (.link target) =>
            match Path.parse target with
            | .ok path =>
                farthest tree fuel (if path.absolute then [] else location) (path.names ++ rest)
            | .error _ => farthest tree fuel (location ++ [name]) rest
        | _ => farthest tree fuel (location ++ [name]) rest

/-- A path without points and double slashes, whether or not anything is there; links are followed
if this is wanted. -/
def purePath (tree : FileTree) (links : Bool) (name : String) : String :=
  match Path.parse (Octets.toText name) with
  | .error _ => pathOf tree.workingDirectory
  | .ok path =>
      let start := tree.startOf path
      if links then pathOf (farthest tree (Path.longestPath + name.length) start path.names)
      else
        let walk (names : List String) (name : String) : List String :=
          if name = "." then names else if name = ".." then names.dropLast else names ++ [name]
        pathOf (path.names.foldl walk start)

/-- The way from one path to another. -/
def pathFrom (base path : String) : String :=
  let parts (path : String) : List String := (path.splitOn "/").filter (· ≠ "")
  let (base, path) := (parts base, parts path)
  let common := ((base.zip path).takeWhile fun (a, b) => a = b).length
  let names := List.replicate (base.length - common) ".." ++ path.drop common
  if names = [] then "." else "/".intercalate names

def realpath (job : Job) : Result :=
  let long := [("canonicalize-existing", "e", false), ("canonicalize-missing", "m", false),
    ("logical", "L", false), ("physical", "P", false), ("quiet", "q", false),
    ("relative-to", "to", true), ("relative-base", "base", true), ("strip", "s", false),
    ("no-symlinks", "s", false), ("zero", "z", false)]
  match job.call "emqsLPz" "" long false 1 with
  | .error result => result
  | .ok call =>
      let tree := job.tree
      let finish := if call.has ["z"] then "\x00" else "\n"
      let found (name : String) : Except FileError String :=
        if name = "" then .error .notFound
        else if call.has ["s"] then .ok (purePath tree false name)
        else if call.has ["m"] then .ok (purePath tree true name)
        else wholePath tree (call.has ["e"]) name
      let isBelow (base path : String) : Bool :=
        path = base || path.startsWith (if base = "/" then "/" else base ++ "/")
      let shownPath (path : String) : String :=
        let base := (call.value? ["base"]).bind fun base => (found base).toOption
        let target := ((call.value? ["to"]).bind fun name => (found name).toOption).or base
        match target, base with
        | some target, some base =>
            if isBelow base path ∧ isBelow base target then pathFrom target path else path
        | some target, none => pathFrom target path
        | none, _ => path
      if call.operands = [] then job.missingOperand
      else job.perform false do
        for name in call.operands do
          match found name with
          | .ok path => Task.print (shownPath path ++ finish)
          | .error error =>
              if call.has ["q"] then Task.setStatus 1
              else job.complain (shown name ++ ": " ++ reason error)

/-- Shows where links lead, or whole paths. -/
def readlink (job : Job) : Result :=
  let long := [("canonicalize", "f", false), ("canonicalize-existing", "e", false),
    ("canonicalize-missing", "m", false), ("no-newline", "n", false), ("quiet", "q", false),
    ("silent", "q", false), ("verbose", "v", false), ("zero", "z", false)]
  match job.call "efmnqsvz" "" long false 1 with
  | .error result => result
  | .ok call =>
      let finish := if call.has ["z"] then "\x00"
        else if call.has ["n"] && call.operands.length = 1 then "" else "\n"
      if call.operands = [] then job.missingOperand
      else job.perform false do
        for name in call.operands do
          let found : Except String String :=
            if name = "" then .error (reason .notFound)
            else if call.has ["m"] then .ok (purePath job.tree true name)
            else if call.has ["e", "f"] then
              (wholePath job.tree (call.has ["e"]) name).mapError reason
            else match job.tree.resolveSelf (Octets.toText name) with
              | .ok (_, .link target) => .ok (Octets.ofText target)
              | .ok _ => .error "Invalid argument"
              | .error error => .error (reason error)
          match found with
          | .ok path => Task.print (path ++ finish)
          | .error why =>
              Task.setStatus 1
              if call.has ["v"] then job.complain (shown name ++ ": " ++ why)

def isProgram (tree : FileTree) (path : String) : Bool :=
  match tree.nodeAt (Octets.toText path) with
  | .ok node => node.item.isPlain && node.isRunnable
  | _ => false

def which (job : Job) : Result :=
  match job.call "as" "" [] true 2 with
  | .error result => result
  | .ok call =>
      let search := (job.environment.lookup "PATH").getD ""
      let paths (name : String) : List String :=
        let all := if name.contains '/' then [name]
          else (search.splitOn ":").map fun directory =>
            if directory = "" then "./" ++ name else directory ++ "/" ++ name
        let found := all.filter (isProgram job.tree)
        if call.has ["a"] then found else found.take 1
      let found := call.operands.map paths
      let status := if found.any List.isEmpty || found.isEmpty then 1 else 0
      job.done (joinLines found.flatten) status

def cmp (job : Job) : Result :=
  match job.call "sl" "" [("silent", "s", false), ("quiet", "s", false)] false 2 with
  | .error result => job.withName result
  | .ok call =>
      match call.operands with
      | [] =>
          job.withName (job.usage 2 ("missing operand after " ++ quoted job.name))
      | first :: others =>
          let second := others.headD "-"
          match job.readFile first, job.readFile second with
          | .error error, _ => job.fail 2 (first ++ ": " ++ reason error)
          | _, .error error => job.fail 2 (second ++ ": " ++ reason error)
          | .ok one, .ok two =>
              let same := ((one.zip two).takeWhile fun (a, b) => a = b).length
              if one = two then job.output ""
              else if call.has ["s"] then job.done "" 1
              else if same = one.length ∨ same = two.length then
                let short := if same = one.length then first else second
                if same = 0 then job.fail 1 ("EOF on " ++ short ++ " which is empty")
                else
                  let lines := (one.take same).count '\n'
                  let place := if (one.take same).getLast? = some '\n' then
                      ", line " ++ decimal lines
                    else ", in line " ++ decimal (lines + 1)
                  job.fail 1 ("EOF on " ++ short ++ " after byte " ++ decimal same ++ place)
              else
                let line := (one.take same).count '\n' + 1
                job.done (first ++ " " ++ second ++ " differ: char " ++ decimal (same + 1) ++
                  ", line " ++ decimal line ++ "\n") 1

def printenv (job : Job) : Result :=
  let line (entry : String × String) : String := entry.1 ++ "=" ++ entry.2
  match job.arguments with
  | [] => job.output (joinLines (job.environment.map line))
  | names =>
      let values := names.map fun name => job.environment.lookup name
      job.done (joinLines (values.filterMap id)) (if values.all Option.isSome then 0 else 1)

def userIds (job : Job) : Result :=
  match job.call "ugGnrza" "" [("user", "u", false), ("group", "g", false), ("name", "n", false)]
      false 1 with
  | .error result => result
  | .ok call =>
      match call.operands.find? (· ≠ "root") with
      | some name => job.fail 1 (quoted name ++ ": no such user")
      | none =>
          if call.has ["u", "g", "G"] then
            job.output (if call.has ["n"] then "root\n" else "0\n")
          else job.output "uid=0(root) gid=0(root) groups=0(root)\n"

def uname (job : Job) : Result :=
  match job.call "asnrvmpio" "" [("kernel-name", "s", false), ("machine", "m", false)] false 1 with
  | .error result => result
  | .ok call =>
      let machine := if call.has ["m"] then ["x86_64"] else []
      let system := if call.has ["s"] || call.options.isEmpty then ["Linux"] else []
      let whole := if call.has ["o"] then ["GNU/Linux"] else []
      job.output (" ".intercalate (system ++ machine ++ whole) ++ "\n")

end CatalogSeed.Utility
