import CatalogSeed.Script.Pattern
import CatalogSeed.Utility.Order
import CatalogSeed.Utility.Status

/-!
Listing files, and what is in directories.
-/

namespace CatalogSeed.Utility

namespace Listing

/-- What of a file stands in front of its name, where more than names is wanted. -/
structure Row where
  inode : String
  blocks : String
  mode : String
  links : String
  owner : String
  group : String
  size : String
  moment : String
  name : String

/-- When a file was changed: with the time of day if that was not long ago. -/
def momentText (call : Call) (now moment : Int) : String :=
  let style := (call.value? ["style"]).getD (if call.has ["full"] then "full-iso" else "locale")
  let recent := Moment.isRecent now moment
  let format := match style with
    | "full-iso" => "%F %T.%N %z"
    | "long-iso" => "%F %R"
    | "iso" => if recent then "%m-%d %H:%M" else "%F "
    | _ =>
        if style.startsWith "+" then String.ofList (style.toList.drop 1)
        else if recent then "%b %e %H:%M"
        else "%b %e  %Y"
  Moment.render moment format

/-- The mark behind a name that tells what kind of file this is. -/
def markOf (call : Call) (node : Node) : String :=
  match node.item with
  | .directory => if call.has ["p", "F", "type"] then "/" else ""
  | .link _ => if call.has ["F", "type"] then "@" else ""
  | .pipe _ => if call.has ["F", "type"] then "|" else ""
  | .file _ | .utility _ => if call.has ["F"] && node.isRunnable then "*" else ""
  | .device _ => ""

/-- A name as it is shown. -/
def nameText (call : Call) (name : String) : String :=
  if call.has ["Q"] then
    "\"" ++ String.ofList (name.toList.flatMap fun c =>
      if c = '"' ∨ c = '\\' then ['\\', c]
      else if ShellQuoted.isPrintable c then [c]
      else ShellQuoted.escaped c) ++ "\""
  else if call.has ["b"] then
    String.ofList (name.toList.flatMap fun c =>
      if c = ' ' ∨ c = '\\' then ['\\', c]
      else if ShellQuoted.isPrintable c then [c]
      else ShellQuoted.escaped c)
  else if call.has ["q"] then
    String.ofList (name.toList.map fun c => if ShellQuoted.isPrintable c then c else '?')
  else name

def isLong (call : Call) : Bool :=
  call.has ["l", "n", "g", "o", "full"] || ["long", "verbose"].any fun format =>
    call.value? ["format"] = some format

/-- Whether links are followed. -/
def follows (call : Call) : Bool :=
  call.has ["L"]

def rowOf (call : Call) (tree : FileTree) (shown : Shown) (name : String) : Row :=
  let node := shown.node
  let size := match node.item with
    | .device device => decimal device.numbers.1 ++ ", " ++ decimal device.numbers.2
    | item => if call.has ["h"] then Amount.human 1024 item.size else decimal item.size
  let blocks := if call.has ["h"] then Amount.human 1024 (512 * shown.blocks) else decimal (shown.blocks / 2)
  let numeric := call.has ["n"]
  let target := match shown.target? with
    | some target =>
        let behind := tree.walk true FileTree.mostLinks shown.location.dropLast
          (((Path.parse (Octets.toText target)).toOption.map Path.steps).getD [])
        let mark := match behind.toOption.bind tree.node? with
          | some node => markOf call node
          | none => ""
        " -> " ++ nameText call target ++ mark
    | none => ""
  let long := isLong call
  let mark := if long && shown.target?.isSome then "" else markOf call node
  { inode := decimal (shown.number + 131073)
    blocks
    mode := shown.letters
    links := decimal (tree.linkCount shown.location)
    owner := if numeric then decimal node.user else tree.userName node.user
    group := if numeric then decimal node.group else tree.groupName node.group
    size
    moment := momentText call tree.now (if call.has ["u"] then node.used else node.changed)
    name := nameText call name ++ mark ++ if long then target else "" }

/-- Rows as lines, the columns aligned. -/
def lines (call : Call) (rows : List Row) : List String :=
  let wide (part : Row → String) : Nat := (rows.map fun row => (part row).length).foldl max 0
  let right (part : Row → String) (row : Row) : String := fitted [] (wide part) (part row)
  let left (part : Row → String) (row : Row) : String := fitted ['-'] (wide part) (part row)
  let when (wanted : Bool) (text : String) : List String := if wanted then [text] else []
  rows.map fun row => " ".intercalate (
    when (call.has ["i"]) (right (·.inode) row) ++
    when (call.has ["s"]) (right (·.blocks) row) ++
    (if isLong call then
      [row.mode, right (·.links) row] ++
      when (!call.has ["g"]) (left (·.owner) row) ++
      when (!call.has ["o", "G"]) (left (·.group) row) ++
      [right (·.size) row, right (·.moment) row]
    else []) ++
    [row.name])

/-- Blanks between two columns; a tabulator stands for many. -/
def indent : Nat → Nat → Nat → String
  | 0, _, _ => ""
  | fuel + 1, start, stop =>
      if stop ≤ start then ""
      else if (start + 1) / 8 < stop / 8 then "\t" ++ indent fuel (start + 8 - start % 8) stop
      else " " ++ indent fuel (start + 1) stop

/-- Texts in as many columns as fit, filled downwards or across. -/
def columns (across : Bool) (width : Nat) (texts : List String) : List String :=
  let count := texts.length
  let shape (columns : Nat) : Nat × List Nat :=
    let rows := (count + columns - 1) / columns
    let column (index : Nat) : Nat := if across then index % columns else index / rows
    let widths := (List.range columns).map fun place =>
      let inside := texts.zipIdx.filter fun (_, index) => column index = place
      (inside.map fun (text, _) =>
        text.length + if place + 1 = columns then 0 else 2).foldl max 0
    (rows, widths)
  let fits (columns : Nat) : Bool := (shape columns).2.foldl (· + ·) 0 < width
  let most := max 1 (min count (width / 3))
  let best := ((List.range most).reverse.map (· + 1)).find? fits
  let size := best.getD 1
  let (rows, widths) := shape size
  (List.range rows).map fun row =>
    let places := (List.range size).map fun column =>
      if across then row * size + column else column * rows + row
    let chosen := (places.filter (· < count)).map fun index => texts.getD index ""
    let joined := chosen.zipIdx.foldl (fun (line, place) (text, column) =>
      let gap := if column = 0 then "" else
        indent width (place.1 + place.2) (place.1 + widths.getD (column - 1) 0)
      let start := if column = 0 then 0 else place.1 + widths.getD (column - 1) 0
      (line ++ gap ++ text, (start, text.length))) (("", ((0, 0) : Nat × Nat)))
    joined.1

/-- Texts behind one another with commas, in lines that are not too long. -/
def withCommas (width : Nat) (texts : List String) : List String :=
  let (done, line) := texts.foldl (fun (done, line) text =>
    if line = "" then (done, text)
    else if (line ++ ", " ++ text).length + 1 ≤ width then (done, line ++ ", " ++ text)
    else (done ++ [line ++ ","], text)) (([] : List String), "")
  if line = "" then done else done ++ [line]

/-- What of a call decides how names are laid out: the last of those options. -/
def layout (call : Call) : String :=
  let named := [("commas", "m"), ("across", "x"), ("horizontal", "x"), ("vertical", "C"),
    ("single-column", "1"), ("long", "l"), ("verbose", "l")]
  let found := call.options.filterMap fun (name, value) =>
    if ["1", "m", "C", "x", "l", "n", "g", "o", "full"].contains name then some name
    else if name = "format" then named.lookup value
    else none
  found.getLast?.getD "1"

def rendered (call : Call) (rows : List Row) : String :=
  let width := ((call.value? ["w"]).bind String.toNat?).getD 80
  let texts := lines call rows
  let finish := if call.has ["zero"] then "\x00" else "\n"
  let lines := match layout call with
    | "m" => withCommas width texts
    | "C" => columns false width texts
    | "x" => columns true width texts
    | _ => texts
  String.join (lines.map (· ++ finish))

/-- The part of a name behind its last point. -/
def ending (name : String) : String :=
  let (behind, front) := name.toList.reverse.span (· ≠ '.')
  if front = [] then "" else String.ofList ('.' :: behind.reverse)

/-- Files in the order that is wanted. -/
def sorted (call : Call) (files : List (String × Shown)) : List (String × Shown) :=
  let byName := files.mergeSort fun a b => a.1 ≤ b.1
  let choice := (call.options.filterMap fun (name, value) =>
    if ["t", "S", "X", "v", "U", "f"].contains name then some name
    else if name = "sort" then
      [("time", "t"), ("size", "S"), ("extension", "X"), ("version", "v"), ("none", "U"),
        ("name", "")].lookup value
    else none).getLast?.getD ""
  let moment (file : String × Shown) : Int :=
    if call.has ["u"] then file.2.node.used else file.2.node.changed
  let ordered := match choice with
    | "t" => byName.mergeSort fun a b => moment b ≤ moment a
    | "S" => byName.mergeSort fun a b => b.2.node.item.size ≤ a.2.node.item.size
    | "X" => byName.mergeSort fun a b => ending a.1 ≤ ending b.1
    | "v" => byName.mergeSort fun a b =>
        compareVersions (a.1.length + b.1.length + 2) a.1.toList b.1.toList ≠ .gt
    | _ => byName
  let ordered := if call.has ["r"] then ordered.reverse else ordered
  if call.has ["first"] then
    let (first, rest) := ordered.partition fun (_, shown) => shown.node.item = .directory
    first ++ rest
  else ordered

/-- Whether a name of a directory is listed. -/
def isListed (call : Call) (name : String) : Bool :=
  let fits (pattern : String) : Bool :=
    (Script.Pattern.ofWord true (pattern.toList.map fun c => ⟨c, false⟩)).fits name.toList
  let hidden := name.startsWith "." && !call.has ["a", "A", "f"]
  !hidden && !(call.values ["I", "hide"]).any fits && !(call.has ["B"] && name.endsWith "~")

/-- What a directory holds, as far as it is listed. -/
def inside (call : Call) (tree : FileTree) (location : List String) : List (String × Shown) :=
  let shownAt (name : String) (place : List String) : Option (String × Shown) :=
    match tree.node? place, tree.number? place with
    | some node, some number => some (name, ⟨name, place, node, number⟩)
    | _, _ => none
  let names := ((tree.children location).map fun name => (Octets.ofText name, name)).filter
    fun (name, _) => isListed call name
  let entries := names.filterMap fun (name, text) =>
    let followed := if follows call then
        (tree.walk true FileTree.mostLinks location [text]).toOption.filter fun place =>
          (tree.item? place).isSome
      else none
    shownAt name (followed.getD (location ++ [text]))
  let points := if call.has ["a", "f"] then
      [shownAt "." location, shownAt ".." location.dropLast].filterMap id
    else []
  sorted call (points ++ entries)

/-- A directory and those below it, each with the path to it. -/
def directoriesBelow (call : Call) (tree : FileTree) : Nat → String → List String →
    List (String × List String)
  | 0, path, location => [(path, location)]
  | fuel + 1, path, location =>
      let inner := (inside call tree location).filter fun (name, shown) =>
        shown.node.item = .directory && name ≠ "." && name ≠ ".."
      (path, location) :: inner.flatMap fun (name, shown) =>
        directoriesBelow call tree fuel (below path name) shown.location

/-- Shows files, and then what is in directories. -/
def whole (job : Job) (call : Call) : Result :=
  let tree := job.tree
  let long := isLong call
  let rowsOf (files : List (String × Shown)) : List Row :=
    files.map fun (name, shown) => rowOf call tree shown name
  job.perform false do
    let names := if call.operands = [] then ["."] else call.operands
    let mut plain : List (String × Shown) := []
    let mut directories : List (String × Shown) := []
    for name in names do
      let onCommand := follows call || call.has ["H"] ||
        (!long && !call.has ["d", "F"] && tree.isDirectory (Octets.toText name))
      let found : Except FileError Shown := match Shown.at? tree onCommand name with
        | .ok shown => .ok shown
        | .error error => if onCommand then Shown.at? tree false name else .error error
      match found with
      | .error error =>
          job.warn ("cannot access " ++ named name ++ ": " ++ reason error)
          Task.setStatus 2
      | .ok shown =>
          if shown.node.item = .directory ∧ !call.has ["d"] then
            directories := directories ++ [(name, shown)]
          else plain := plain ++ [(name, shown)]
    if plain ≠ [] then Task.print (rendered call (rowsOf (sorted call plain)))
    let top := (sorted call directories).map fun (name, shown) => (name, shown.location)
    let all := if call.has ["R"] then
        top.flatMap fun (name, location) =>
          directoriesBelow call tree Path.longestPath name location
      else top
    let headed := 1 < names.length || call.has ["R"]
    for ((name, location), index) in all.zipIdx do
      if index ≠ 0 ∨ plain ≠ [] then Task.print "\n"
      if headed then Task.print (name ++ ":\n")
      let files := inside call tree location
      if long || call.has ["s"] then
        let blocks := (files.map fun (_, shown) => shown.blocks).foldl (· + ·) 0
        Task.print ("total " ++
          (if call.has ["h"] then Amount.human 1024 (512 * blocks) else decimal (blocks / 2)) ++ "\n")
      Task.print (rendered call (rowsOf files))

end Listing

/-- Complains about a word that is none of those an option knows. -/
def Job.checkWord (job : Job) (call : Call) (letter option : String) (known : List String)
    (hint : String) : Option Result :=
  ((call.values [letter]).find? fun word => !known.contains word).map fun word =>
    job.usage 1 ("invalid argument " ++ quoted word ++ " for " ++ quoted option ++
      "\nValid arguments are:\n" ++ hint)

def ls (job : Job) : Result :=
  let long := [("all", "a", false), ("almost-all", "A", false), ("directory", "d", false),
    ("recursive", "R", false), ("reverse", "r", false), ("classify", "F", false),
    ("file-type", "type", false), ("format", "format", true), ("sort", "sort", true),
    ("time-style", "style", true), ("full-time", "full", false), ("human-readable", "h", false),
    ("inode", "i", false), ("size", "s", false), ("numeric-uid-gid", "n", false),
    ("no-group", "G", false), ("dereference", "L", false), ("ignore", "I", true),
    ("hide", "hide", true), ("width", "w", true), ("quote-name", "Q", false),
    ("escape", "b", false), ("literal", "N", false), ("hide-control-chars", "q", false),
    ("group-directories-first", "first", false), ("ignore-backups", "B", false),
    ("color", "color", false), ("zero", "zero", false), ("time", "time", true)]
  let usual := if job.utility = "dir" then ["-C", "-b"]
    else if job.utility = "vdir" then ["-l", "-b"] else []
  match ({ job with arguments := usual ++ job.arguments } : Job).call
      "1aAdlrRpFhtSnqUcuigosCxmLNkGHfQBXvb" "wIT" long false 2 with
  | .error result => result
  | .ok call =>
      let wrong := (job.checkWord call "format" "--format"
        ["verbose", "long", "commas", "horizontal", "across", "vertical", "single-column"]
        ("  - 'verbose', 'long'\n  - 'commas'\n  - 'horizontal', 'across'\n  - 'vertical'\n" ++
          "  - 'single-column'")).or
        (job.checkWord call "sort" "--sort"
          ["none", "name", "size", "time", "version", "extension", "width"]
          ("  - 'none'\n  - 'time'\n  - 'size'\n  - 'extension'\n  - 'version'\n" ++
            "  - 'width'"))
      wrong.getD (Listing.whole job call)

end CatalogSeed.Utility
