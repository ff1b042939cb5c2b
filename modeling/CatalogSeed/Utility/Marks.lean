import CatalogSeed.Files.Owner
import CatalogSeed.Utility.Items
import CatalogSeed.Utility.MomentText

/-!
Utilities that change what is known of files besides their content: what is permitted, whose they
are, and when they were changed.
-/

namespace CatalogSeed.Utility

/-- A number in so many octal digits. -/
def octal (width n : Nat) : String :=
  let digits := Nat.toDigits 8 n
  String.ofList (List.replicate (width - digits.length) '0' ++ digits)

/-- An item with all that is below it, each with the path to it. -/
def wholeBranch (tree : FileTree) : Nat → String → List String → List (String × List String)
  | 0, _, _ => []
  | fuel + 1, path, location =>
      (path, location) :: (tree.children location).flatMap fun name =>
        wholeBranch tree fuel (below path (Octets.ofText name)) (location ++ [name])

/-- What a call with paths is about: the places, and the complaints about those that are not
there. -/
def Job.places (job : Job) (call : Call) (dangling : String) (paths : List String) :
    Task (List (String × List String)) := do
  let mut found : List (String × List String) := []
  for path in paths do
    let tree ← Task.tree
    let text := Octets.toText path
    match tree.lookUp (!call.has ["h"]) text with
    | .error error =>
        if call.has ["f"] then Task.setStatus 1
        else if (tree.resolveSelf text).isOk && error = .notFound then
          job.complain (dangling.replace "@" (named path))
        else job.complain ("cannot access " ++ named path ++ ": " ++ reason error)
    | .ok (location, _) =>
        if call.has ["R"] then
          let all := wholeBranch tree Path.longestPath path location
          let isLink (place : String × List String) : Bool :=
            match tree.item? place.2 with
            | some (.link _) => true
            | _ => false
          found := found ++ all.filter (!isLink ·)
        else found := found ++ [(path, location)]
  return found

/-- Takes words that change modes but look like options apart from the others. -/
def partModes (arguments : List String) : List String × List String :=
  let (before, behind) := arguments.span (· ≠ "--")
  let isMode (word : String) : Bool := match word.toList with
    | '-' :: c :: _ => "rwxXstugo01234567,+=".toList.contains c
    | _ => false
  (before.filter isMode, before.filter (!isMode ·) ++ behind)

def chmod (job : Job) : Result :=
  let long := [("recursive", "R", false), ("verbose", "v", false), ("changes", "c", false),
    ("silent", "f", false), ("quiet", "f", false), ("reference", "reference", true)]
  let (dashed, arguments) := partModes job.arguments
  match ({ job with arguments } : Job).call "Rvcf" "" long false 1 with
  | .error result => result
  | .ok call =>
      let reference := call.value? ["reference"]
      let given := dashed ≠ [] || reference.isSome
      let mode := if dashed ≠ [] then ",".intercalate dashed else call.operands.headD ""
      let paths := if given then call.operands else call.operands.drop 1
      let changes : Except Result (List Permission.Change) := match reference with
        | some path =>
            match job.tree.nodeAt (Octets.toText path) with
            | .ok node => .ok [⟨'=', Permission.allBits, Permission.allBits, .bits node.mode⟩]
            | .error error =>
                .error (job.fail 1 ("failed to get attributes of " ++ named path ++ ": " ++
                  reason error))
        | none =>
            match Permission.changes? mode with
            | some changes => .ok changes
            | none => .error (job.usage 1 ("invalid mode: " ++ quoted mode))
      if !given && call.operands = [] then job.missingOperand
      else if paths = [] then
        job.usage 1 ("missing operand after " ++ quoted mode)
      else match changes with
      | .error result => result
      | .ok changes => job.perform false do
          for (path, location) in
              ← job.places call "cannot operate on dangling symlink @" paths do
            let tree ← Task.tree
            if let some number := tree.number? location then
              if let some node := tree.node? location then
                let directory := node.item = .directory
                let new := Permission.changed directory tree.mask changes node.mode
                Task.setTree (tree.change number fun node => { node with mode := new })
                let inWords (mode : Nat) : String :=
                  octal 4 mode ++ " (" ++ Permission.letters mode ++ ")"
                if call.has ["v"] && new = node.mode then
                  Task.print ("mode of " ++ named path ++ " retained as " ++ inWords new ++ "\n")
                if call.has ["v", "c"] && new ≠ node.mode then
                  Task.print ("mode of " ++ named path ++ " changed from " ++ inWords node.mode ++
                    " to " ++ inWords new ++ "\n")
                let naive := Permission.changed directory 0 changes node.mode
                if dashed ≠ [] && naive ≠ new then
                  job.complain (shown path ++ ": new permissions are " ++
                    Permission.letters new ++ ", not " ++ Permission.letters naive)

/-- Whose files are to be: a user and a group, as far as they are given. -/
def owners (job : Job) (groupOnly : Bool) (text : String) :
    Except String (Option Nat × Option Nat) :=
  let (user, group) := match text.toList.span fun c => c ≠ ':' with
    | (user, _ :: group) => (String.ofList user, some (String.ofList group))
    | (user, []) => (String.ofList user, none)
  let groupOf (name : String) : Option Nat := job.tree.idOf? FileTree.groupTable name
  if groupOnly then
    match groupOf text with
    | some group => .ok (none, some group)
    | none => .error ("invalid group: " ++ quoted text)
  else
    let userId := job.tree.idOf? FileTree.userTable user
    let ownGroup := ((job.tree.tableOf FileTree.userTable).find? fun row => row.head? = some user).bind
      fun row => (row.getD 3 "").toNat?
    if user ≠ "" ∧ userId.isNone then .error ("invalid user: " ++ quoted text)
    else match group with
      | none => .ok (userId, none)
      | some "" =>
          if user ≠ "" ∧ ownGroup.isNone then .error ("invalid spec: " ++ quoted text)
          else .ok (userId, ownGroup)
      | some name =>
          match groupOf name with
          | some group => .ok (userId, some group)
          | none => .error ("invalid group: " ++ quoted text)

/-- Gives files to a user or a group. -/
def changeOwner (job : Job) (groupOnly : Bool) : Result :=
  let long := [("recursive", "R", false), ("verbose", "v", false), ("changes", "c", false),
    ("silent", "f", false), ("quiet", "f", false), ("no-dereference", "h", false),
    ("dereference", "deref", false), ("reference", "reference", true), ("from", "from", true)]
  match job.call "RvcfhHLP" "" long false 1 with
  | .error result => result
  | .ok call =>
      let reference := call.value? ["reference"]
      let text := call.operands.headD ""
      let paths := if reference.isSome then call.operands else call.operands.drop 1
      let wanted : Except String (Option Nat × Option Nat) := match reference with
        | some path =>
            match job.tree.nodeAt (Octets.toText path) with
            | .ok node => .ok (if groupOnly then none else some node.user, some node.group)
            | .error error =>
                .error ("failed to get attributes of " ++ named path ++ ": " ++ reason error)
        | none => owners job groupOnly text
      if call.operands = [] then job.missingOperand
      else if paths = [] then job.usage 1 ("missing operand after " ++ quoted text)
      else match wanted with
      | .error message => job.fail 1 message
      | .ok (user, group) => job.perform false do
          for (path, location) in
              ← job.places call "cannot dereference @: No such file or directory" paths do
            let tree ← Task.tree
            if let some number := tree.number? location then
              if let some node := tree.node? location then
                let new := { node with
                  user := user.getD node.user, group := group.getD node.group }
                Task.setTree (tree.change number fun _ => new)
                let inWords (node : Node) : String :=
                  let users := if user.isSome then tree.userName node.user else ""
                  let groups := if group.isSome then tree.groupName node.group else ""
                  users ++ (if user.isSome && group.isSome then ":" else "") ++ groups
                let subject := if user.isNone then "group" else "ownership"
                if call.has ["v"] && new = node then
                  Task.print (subject ++ " of " ++ named path ++ " retained as " ++ inWords new ++
                    "\n")
                if call.has ["v", "c"] && new ≠ node then
                  Task.print ("changed " ++ subject ++ " of " ++ named path ++ " from " ++
                    inWords node ++ " to " ++ inWords new ++ "\n")

/-- The moment that digits tell: the month, the day, the hour and the minute, perhaps with the year
in front and seconds behind a point. -/
def stampOf? (now : Int) (text : String) : Option Int :=
  let (digits, behind) := text.toList.span Char.isDigit
  let seconds := match behind with
    | [] => some 0
    | '.' :: more =>
        if more.length = 2 ∧ more.all Char.isDigit then some (MomentText.valueOf more) else none
    | _ => none
  let thisYear := (Moment.ofNanoseconds now).year
  let front := digits.take (digits.length - 8)
  let rest := digits.drop (digits.length - 8)
  let year := if front = [] then thisYear else MomentText.yearOf front
  let part (index : Nat) : Nat := MomentText.valueOf ((rest.drop (2 * index)).take 2)
  match seconds, [8, 10, 12].contains digits.length with
  | some seconds, true =>
      let told : MomentText.Told := {
        date := some (year, part 0, part 1), time := some (part 2, part 3, seconds, 0) }
      if 24 ≤ part 2 ∨ 60 ≤ part 3 ∨ 60 < seconds then none else told.moment? now
  | _, _ => none

def touch (job : Job) : Result :=
  let long := [("no-create", "c", false), ("date", "d", true), ("reference", "r", true),
    ("no-dereference", "h", false), ("time", "time", true)]
  match job.call "camfh" "dtr" long false 1 with
  | .error result => result
  | .ok call =>
      let now := job.tree.now
      let reference : Except Result (Option Node) := match call.value? ["r"] with
        | none => .ok none
        | some path =>
            match job.tree.nodeAt (Octets.toText path) with
            | .ok node => .ok (some node)
            | .error error =>
                .error (job.fail 1 ("failed to get attributes of " ++ named path ++ ": " ++
                  reason error))
      let told (start : Int) : Except Result Int :=
        match call.value? ["d"], call.value? ["t"] with
        | some text, _ =>
            match MomentText.parse? start text with
            | some moment => .ok moment
            | none => .error (job.fail 1 ("invalid date format " ++ quoted text))
        | none, some text =>
            match stampOf? now text with
            | some moment => .ok moment
            | none => .error (job.fail 1 ("invalid date format " ++ quoted text))
        | none, none => .ok start
      let times : Except Result (Int × Int) := do
        match ← reference with
        | some node => return (← told node.changed, ← told node.used)
        | none =>
            let moment ← told now
            return (moment, moment)
      match times with
      | .error result => result
      | .ok (changed, used) =>
          let kind := (call.value? ["time"]).getD ""
          let onlyUsed := call.has ["a"] || ["access", "atime", "use"].contains kind
          let onlyChanged := call.has ["m"] || ["modify", "mtime"].contains kind
          let mark (node : Node) : Node := { node with
            changed := if onlyUsed && !onlyChanged then node.changed else changed
            used := if onlyChanged && !onlyUsed then node.used else used }
          if call.operands = [] then job.usage 1 "missing file operand"
          else job.perform false do
            for path in call.operands do
              let tree ← Task.tree
              let text := Octets.toText path
              let refuse (error : FileError) : Task Unit :=
                job.complain ((if path.endsWith "/" then "setting times of "
                  else "cannot touch ") ++ named path ++ ": " ++ reason error)
              let found := (tree.lookUp (!call.has ["h"]) text).map Prod.fst
              let place : Except FileError (List String) ← match found with
                | .ok location => pure (.ok location)
                | .error error =>
                    if call.has ["c", "h"] ∨ error ≠ .notFound ∨ path.endsWith "/" then
                      pure (.error error)
                    else match tree.write text [] with
                      | (.ok (), tree) =>
                          Task.setTree tree
                          pure ((tree.resolve text).map Prod.fst)
                      | (.error error, _) => pure (.error error)
              match place with
              | .error error => unless call.has ["c"] do refuse error
              | .ok location =>
                  let tree ← Task.tree
                  if let some number := tree.number? location then
                    Task.setTree (tree.change number mark)

end CatalogSeed.Utility
