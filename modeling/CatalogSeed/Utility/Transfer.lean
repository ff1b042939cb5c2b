import CatalogSeed.Utility.Items

/-!
Utilities that copy, move and link files and directories.
-/

namespace CatalogSeed.Utility

/-- The sources and the target of a call, and whether the target is a directory that takes
them. -/
def Job.targets (job : Job) (call : Call) :
    Except Result (List String × String × Bool) :=
  match call.value? ["t"], call.operands.reverse with
  | none, [] => .error (job.usage 1 "missing file operand")
  | some _, [] => .error (job.usage 1 "missing file operand")
  | some directory, _ => .ok (call.operands, directory, true)
  | none, [source] =>
      .error (job.usage 1 ("missing destination file operand after " ++ named source))
  | none, target :: sources =>
      let text := Octets.toText target
      let inside := job.tree.isDirectory text && !call.has ["T"]
      if call.has ["T"] ∧ 1 < sources.length then
        .error (job.usage 1 ("extra operand " ++ named target))
      else if inside || sources.length = 1 then .ok (sources.reverse, target, inside)
      else
        let why := match job.tree.resolve text with
          | .error error => reason error
          | .ok _ => "Not a directory"
        .error (job.fail 1 ("target " ++ named target ++ ": " ++ why))

/-- Where an item goes, and what is there; a name with a slash behind it has to be a directory. A
link that leads nowhere is what it is. -/
def destination (tree : FileTree) (last : Bool) (target : String) (directory : Bool) :
    Except FileError (List String × Option Item) := do
  let path ← Path.parse (Octets.toText target)
  match tree.lookUp last (Octets.toText target) with
  | .ok (location, item) => .ok (location, some item)
  | .error .notFound =>
      if path.slashAtEnd && !directory then
        let _ ← tree.parentOf path
        .error .notDirectory
      else match ← tree.place path with
        | some location => .ok (location, tree.item? location)
        | none => .error .notFound
  | .error error => .error error

def transferOptions : List (String × String × Bool) :=
  [("recursive", "r", false), ("archive", "a", false), ("force", "f", false),
    ("no-clobber", "n", false), ("update", "u", false), ("verbose", "v", false),
    ("interactive", "i", false), ("dereference", "L", false), ("no-dereference", "P", false),
    ("parents", "parents", false), ("symbolic-link", "s", false), ("link", "l", false),
    ("preserve", "p", false), ("backup", "b", false), ("suffix", "S", true),
    ("remove-destination", "remove", false), ("attributes-only", "bare", false),
    ("no-target-directory", "T", false), ("target-directory", "t", true)]

/-- How copies are made: whether links are followed, what of the source the copy keeps, and what
becomes of what was there before. -/
structure Copier where
  job : Job
  follows : Bool
  recursive : Bool
  exact : Bool
  mode : Option (List Permission.Change)
  tells : Bool
  skips : Bool
  updates : Bool
  asks : Bool
  symbolic : Bool
  hard : Bool
  backup : Option String

namespace Copier

/-- Puts aside what is there, and tells under which name. -/
def putAside (copier : Copier) (target : String) (location : List String) :
    Task (Option String) := do
  match copier.backup, location.getLast? with
  | some ending, some name =>
      let aside := location.dropLast ++ [name ++ Octets.toText ending]
      Task.setTree ((← Task.tree).move location aside)
      return some (target ++ ending)
  | _, _ => return none

/-- Says what is copied to where. -/
def announce (copier : Copier) (source target : String) (aside : Option String) : Task Unit := do
  if copier.tells then
    let behind := match aside with
      | some aside => " (backup: " ++ named aside ++ ")"
      | none => ""
    Task.print (named source ++ " -> " ++ named target ++ behind ++ "\n")

/-- Gives the copy what it keeps of the source. -/
def finish (copier : Copier) (location : List String) (source : Node) : Task Unit := do
  let tree ← Task.tree
  if let some number := tree.number? location then
    let change (node : Node) : Node :=
      let node := if copier.exact then
          { node with
            mode := source.mode, user := source.user, group := source.group
            changed := source.changed, used := source.used }
        else node
      match copier.mode with
      | some changes => { node with mode := Permission.changed false 0 changes 0 }
      | none => node
    Task.setTree (tree.change number change)

/-- The item that a copy of a file is. -/
def contentOf (copier : Copier) (source : String) : Item → Item
  | .utility name => .utility name
  | _ => .file (Octets.toBytes (String.ofList ((copier.job.readFile source).toOption.getD [])))

/-- Makes the copy of something that is no directory. -/
def place (copier : Copier) (source target : String) (origin location : List String)
    (node : Node) (there : Option Item) : Task Unit := do
  let tree ← Task.tree
  let mode := without 0o6000 (node.mode &&& 0o777)
  if copier.hard then
    match tree.number? origin with
    | some number => Task.setTree (tree.addName location number)
    | none => return
  else if copier.symbolic then
    Task.setTree ((tree.remove location).create location (.link (Octets.toText source)) 0o777)
  else match node.item with
    | .link text =>
        Task.setTree ((tree.remove location).create location (.link text) 0o777)
        copier.finish location { node with mode := 0o777 }
    | item =>
        let copied := copier.contentOf source item
        match there, copied, tree.number? location with
        | some (.device _), .file content, _ =>
            let (written, tree) := tree.write (Octets.toText target) content
            Task.setTree tree
            if let .error error := written then
              copier.job.complain ("error writing " ++ named target ++ ": " ++ reason error)
        | some (.device _), _, _ => return
        | some _, _, some number =>
            Task.setTree (tree.change number fun node =>
              { node with item := copied, changed := tree.now })
            copier.finish location node
        | _, _, _ =>
            Task.setTree (tree.create location copied mode)
            copier.finish location node
where
  without (taken bits : Nat) : Nat := Permission.without bits taken

/-- Copies one item, with what is below it, to a target. -/
def copy (copier : Copier) : Nat → String → String → Asking Unit
  | 0, _, _ => return
  | fuel + 1, source, target => do
      let tree ← Task.tree
      let job := copier.job
      match tree.lookUp copier.follows (Octets.toText source) with
      | .error error => job.complain ("cannot stat " ++ named source ++ ": " ++ reason error)
      | .ok (origin, item) =>
          let directory := item = .directory
          let some node := tree.node? origin | return
          let last := item.isPlain && copier.backup.isNone && !copier.symbolic && !copier.hard
          if directory && !copier.recursive then
            let front := if job.utility = "install" then "" else "-r not specified; "
            job.complain (front ++ "omitting directory " ++ named source)
          else match destination tree last target directory with
            | .error .endless =>
                job.complain ("cannot stat " ++ named target ++ ": " ++ reason .endless)
            | .error error =>
                job.complain ("cannot create " ++ (if directory then "directory "
                  else if copier.hard then "hard link "
                  else if copier.symbolic then "symbolic link "
                  else "regular file ") ++ named target ++ ": " ++ reason error)
            | .ok (location, there) =>
                let one := (tree.number? location).isSome &&
                  tree.number? location = tree.number? origin
                let newer := match tree.node? location with
                  | some other => node.changed ≤ other.changed
                  | none => false
                if one then
                  job.complain (named source ++ " and " ++ named target ++ " are the same file")
                else if there.isSome && copier.skips then return
                else if there.isSome && copier.updates && newer then return
                else if there = some .directory && !directory then
                  job.complain ("cannot overwrite directory " ++ named target ++
                    " with non-directory")
                else if there.isSome && there ≠ some .directory && directory then
                  job.complain ("cannot overwrite non-directory " ++ named target ++
                    " with directory " ++ named source)
                else if last && there.map kindName = some "symbolic link" then
                  job.complain ("not writing through dangling symlink " ++ named target)
                else
                  if there.isSome && copier.asks && !directory then
                    unless ← job.ask ("overwrite " ++ named target) do
                      return
                  if directory then
                    if there.isNone then
                      copier.announce source target none
                      Task.setTree (tree.create location .directory (node.mode &&& 0o1777))
                    for name in tree.children origin do
                      let inner := Octets.ofText name
                      if origin ++ [name] = location then
                        job.complain ("cannot copy a directory, " ++ named source ++
                          ", into itself, " ++ named target)
                      else copier.copy fuel (below source inner) (below target inner)
                    if origin.isPrefixOf location && !(tree.children origin).any fun name =>
                        origin ++ [name] = location then
                      job.complain ("cannot copy a directory, " ++ named source ++
                        ", into itself, " ++ named target)
                    copier.finish location node
                  else if copier.hard && there.isSome then
                    job.complain ("cannot create hard link " ++ named target ++ " to " ++
                      named source ++ ": File exists")
                  else
                    let aside ← if there.isSome then copier.putAside target location
                      else pure none
                    let there := if aside.isSome then none else there
                    copier.announce source target aside
                    copier.place source target origin location node there

end Copier

/-- The ending of the names under which things are put aside. -/
def backupEnding (call : Call) : Option String :=
  if call.has ["b", "S"] then some ((call.value? ["S"]).getD "~") else none

/-- The directories above a path, the outer ones first. -/
def outerPaths (path : String) : List String :=
  (((Path.ancestors path.length path).drop 1).filter (· ≠ "")).reverse

def cp (job : Job) : Result :=
  match job.call "rRafpvnuTdLPHislbxZ" "tS" transferOptions false 1 with
  | .error result => result
  | .ok call =>
      let recursive := call.has ["r", "R", "a"]
      let links := (call.options.filter fun (name, _) => "LPHad".toList.any (·.toString = name))
      let follows := match links.getLast?.map Prod.fst with
        | some "L" => true
        | some "H" => !recursive
        | some _ => false
        | none => !recursive
      let copier : Copier := ⟨job, follows, recursive, call.has ["a", "p"], none, call.has ["v"],
        call.has ["n"], call.has ["u"], call.has ["i"], call.has ["s"], call.has ["l"],
        backupEnding call⟩
      match job.targets call with
      | .error result => result
      | .ok (sources, target, inside) => job.perform copier.asks do
          let copyOne (source : String) : Asking Unit := do
            if call.has ["parents"] then
              let target := below target source
              for outer in outerPaths target do
                unless (← Task.tree).isDirectory (Octets.toText outer) do
                  if let .ok tree := (← Task.tree).createDirectory (Octets.toText outer) then
                    Task.setTree tree
              copier.copy Path.longestPath source target
            else
              let target := if inside then below target (baseName source) else target
              copier.copy Path.longestPath source target
          let _ ← (sources.forM copyOne).run (bareLines job.input)

/-- Moves one item to a target. -/
def Job.moveTo (job : Job) (call : Call) (source target : String) : Asking Unit := do
  let tree ← Task.tree
  let both := named source ++ " to " ++ named target
  match ownPlace tree (Octets.toText source) with
  | .error error => job.complain ("cannot stat " ++ named source ++ ": " ++ reason error)
  | .ok (origin, item) =>
      let directory := item = .directory
      match destination tree false target directory with
      | .error error => job.complain ("cannot move " ++ both ++ ": " ++ reason error)
      | .ok (location, there) =>
          let one := (tree.number? location).isSome &&
            (tree.number? location = tree.number? origin ||
              (tree.resolve (Octets.toText source)).toOption.map Prod.fst = some location)
          let newer := match tree.node? origin, tree.node? location with
            | some node, some other => node.changed ≤ other.changed
            | _, _ => false
          if one then
            job.complain (named source ++ " and " ++ named target ++ " are the same file")
          else if there.isSome && (call.has ["n"] || (call.has ["u"] && newer)) then return
          else if origin.isPrefixOf location then
            job.complain ("cannot move " ++ named source ++ " to a subdirectory of itself, " ++
              named target)
          else if there = some .directory && !directory then
            job.complain ("cannot overwrite directory " ++ named target ++ " with non-directory")
          else if there.isSome && there ≠ some .directory && directory then
            job.complain ("cannot overwrite non-directory " ++ named target ++
              " with directory " ++ named source)
          else if tree.children location ≠ [] then
            job.complain ("cannot overwrite " ++ named target ++ ": Directory not empty")
          else
            if there.isSome && call.has ["i"] then
              unless ← job.ask ("overwrite " ++ named target) do
                return
            let aside := match there, backupEnding call, location.getLast? with
              | some _, some ending, some name =>
                  some (location.dropLast ++ [name ++ Octets.toText ending], target ++ ending)
              | _, _, _ => none
            let cleared := match aside with
              | some (place, _) => tree.move location place
              | none => tree
            Task.setTree (cleared.move origin location)
            if call.has ["v"] then
              let behind := match aside with
                | some (_, path) => " (backup: " ++ named path ++ ")"
                | none => ""
              Task.print ("renamed " ++ named source ++ " -> " ++ named target ++ behind ++ "\n")

def mv (job : Job) : Result :=
  match job.call "fvnuTib" "tS" transferOptions false 1 with
  | .error result => result
  | .ok call =>
      match job.targets call with
      | .error result => result
      | .ok (sources, target, inside) => job.perform (call.has ["i"]) do
          let moveOne (source : String) : Asking Unit :=
            job.moveTo call source (if inside then below target (baseName source) else target)
          let _ ← (sources.forM moveOne).run (bareLines job.input)

/-- Gives one file a further name, or makes a link to it. -/
def Job.linkTo (job : Job) (call : Call) (source target : String) : Task Unit := do
  let tree ← Task.tree
  let symbolic := call.has ["s"]
  let doing := "failed to create " ++ (if symbolic then "symbolic" else "hard") ++ " link " ++
    named target
  let origin := tree.lookUp (call.has ["L"]) (Octets.toText source)
  match origin, destination tree false target true with
  | .error error, place =>
      if !symbolic then
        job.complain ("failed to access " ++ named source ++ ": " ++ reason error)
      else finish tree symbolic doing [] place
  | .ok (origin, item), place =>
      if item = .directory ∧ !symbolic then
        job.complain (shown source ++ ": hard link not allowed for directory")
      else finish tree symbolic doing origin place
where
  finish (tree : FileTree) (symbolic : Bool) (doing : String) (origin : List String)
      (place : Except FileError (List String × Option Item)) : Task Unit := do
    match place with
    | .error error => job.complain (doing ++ ": " ++ reason error)
    | .ok (location, there) =>
        let ending := backupEnding call
        let replaces := call.has ["f"] || ending.isSome
        let one := there.isSome && tree.number? location = tree.number? origin
        if one && replaces then
          job.complain (named source ++ " and " ++ named target ++ " are the same file")
        else if there = some .directory ∧ replaces then
          job.complain (named target ++ ": cannot overwrite directory")
        else if there.isSome && !replaces then job.complain (doing ++ ": File exists")
        else if target.endsWith "/" then job.complain (doing ++ ": " ++ reason .notFound)
        else if symbolic ∧ source = "" then job.complain (doing ++ " -> '': " ++ reason .notFound)
        else
          let tree := match there, ending, location.getLast? with
            | some _, some ending, some name =>
                tree.move location (location.dropLast ++ [name ++ Octets.toText ending])
            | some _, _, _ => tree.remove location
            | none, _, _ => tree
          match symbolic, tree.number? origin with
          | true, _ => Task.setTree (tree.create location (.link (textFrom location)) 0o777)
          | false, some number => Task.setTree (tree.addName location number)
          | false, none => return
          if call.has ["v"] then
            Task.print (named target ++ (if symbolic then " -> " else " => ") ++
              named (Octets.ofText (textFrom location)) ++ "\n")
  /-- What the link says: the source, or the way to it from where the link is. -/
  textFrom (location : List String) : String :=
    let tree := job.tree
    match call.has ["r"], tree.locate true <$> Path.parse (Octets.toText source) with
    | true, .ok (.ok origin) =>
        let base := location.dropLast
        let common := ((base.zip origin).takeWhile fun (a, b) => a = b).length
        let names := List.replicate (base.length - common) ".." ++ origin.drop common
        if names = [] then "." else "/".intercalate names
    | _, _ => Octets.toText source

def ln (job : Job) : Result :=
  let long := [("symbolic", "s", false), ("force", "f", false), ("verbose", "v", false),
    ("no-dereference", "n", false), ("no-target-directory", "T", false),
    ("relative", "r", false), ("logical", "L", false), ("physical", "P", false),
    ("backup", "b", false), ("interactive", "i", false), ("suffix", "S", true),
    ("target-directory", "t", true)]
  match job.call "sfnvTrLPbdFi" "tS" long false 1 with
  | .error result => result
  | .ok call =>
      let isLink (path : String) : Bool :=
        match job.tree.resolveSelf (Octets.toText path) with
        | .ok (_, .link _) => true
        | _ => false
      let last := call.operands.getLastD ""
      let call := if call.has ["n"] ∧ isLink last then
          { call with options := ("T", "") :: call.options }
        else call
      match if call.operands.length = 1 ∧ !call.has ["t"] then .ok (call.operands, ".", true)
        else job.targets call with
      | .error result => result
      | .ok (sources, target, inside) => job.perform false do
          for source in sources do
            let single := call.operands.length = 1 && !call.has ["t"]
            let target := if single then "./" ++ baseName source
              else if inside then below target (baseName source)
              else target
            job.linkTo call source target

/-- Copies files with a mode, or creates directories. -/
def install (job : Job) : Result :=
  let long := [("mode", "m", true), ("directory", "d", false), ("verbose", "v", false),
    ("owner", "o", true), ("group", "g", true), ("preserve-timestamps", "p", false),
    ("compare", "C", false), ("strip", "strip", false), ("backup", "b", false),
    ("suffix", "S", true), ("no-target-directory", "T", false), ("target-directory", "t", true)]
  match job.call "bcCdDpsTvZ" "mogtS" long false 1 with
  | .error result => result
  | .ok call =>
      let who (letter kind : String) : Option Result := (call.value? [letter]).bind fun name =>
        if name = "root" ∨ (name ≠ "" ∧ name.all Char.isDigit) then none
        else some (job.fail 1 ("invalid " ++ kind ++ " " ++ quoted name))
      match job.modeChanges call, (who "o" "user").or (who "g" "group") with
      | .error result, _ => result
      | _, some result => result
      | .ok changes, none =>
          let changes := changes.getD ((Permission.changes? "755").getD [])
          let createAll (paths : List String) : Task Unit := do
            for path in paths do
              let tree ← Task.tree
              unless tree.isDirectory (Octets.toText path) do
                let made ← job.attempt ("cannot create directory " ++ named path) fun tree =>
                  tree.createDirectory (Octets.toText path)
                if made && call.has ["v"] then
                  Task.print (job.name ++ ": creating directory " ++ quoted path ++ "\n")
          if call.has ["d"] then
            if call.operands = [] then job.missingOperand
            else job.perform false do
              for path in call.operands do
                createAll (outerPaths path ++ [path])
                allow path (some changes) 0
          else
            let into := call.has ["D"] && call.has ["t"]
            match job.targets call with
            | .error result => result
            | .ok (sources, target, inside) => job.perform false do
                if into then createAll (outerPaths target ++ [target])
                let copier : Copier := ⟨job, true, false, call.has ["p"], some changes,
                  call.has ["v"], false, false, false, false, false, backupEnding call⟩
                let copyOne (source : String) : Asking Unit := do
                  let target := if inside then below target (baseName source) else target
                  if call.has ["D"] then createAll (outerPaths target)
                  let tree ← Task.tree
                  match destination tree false target false with
                  | .ok (location, some item) =>
                      let same := (tree.resolve (Octets.toText source)).toOption.map Prod.fst =
                        some location
                      if item ≠ .directory ∧ copier.backup.isNone ∧ !same then
                        if (job.readFile source).isOk then
                          Task.setTree (tree.remove location)
                          if call.has ["v"] then Task.print ("removed " ++ named target ++ "\n")
                  | _ => pure ()
                  copier.copy 1 source target
                let _ ← (sources.forM copyOne).run []

end CatalogSeed.Utility
