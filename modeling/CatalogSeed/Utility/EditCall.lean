import CatalogSeed.Utility.Edit
import CatalogSeed.Utility.Names
import CatalogSeed.Utility.Transfer

/-!
Calls of the stream editor: its options, the scripts they name, and the files that are read or
edited in place.
-/

namespace CatalogSeed.Utility

/-- What the stream editor says about how it is called. -/
def editUsage (name : String) : String := "\n".intercalate [
  "Usage: " ++ name ++ " [OPTION]... \x7bscript-only-if-no-other-script\x7d [input-file]...",
  "",
  "  -n, --quiet, --silent",
  "                 suppress automatic printing of pattern space",
  "      --debug",
  "                 annotate program execution",
  "  -e script, --expression=script",
  "                 add the script to the commands to be executed",
  "  -f script-file, --file=script-file",
  "                 add the contents of script-file to the commands to be executed",
  "  --follow-symlinks",
  "                 follow symlinks when processing in place",
  "  -i[SUFFIX], --in-place[=SUFFIX]",
  "                 edit files in place (makes backup if SUFFIX supplied)",
  "  -l N, --line-length=N",
  "                 specify the desired line-wrap length for the \x60l' command",
  "  --posix",
  "                 disable all GNU extensions.",
  "  -E, -r, --regexp-extended",
  "                 use extended regular expressions in the script",
  "                 (for portability use POSIX -E).",
  "  -s, --separate",
  "                 consider files as separate rather than as a single,",
  "                 continuous long stream.",
  "      --sandbox",
  "                 operate in sandbox mode (disable e/r/w commands).",
  "  -u, --unbuffered",
  "                 load minimal amounts of data from the input files and flush",
  "                 the output buffers more often",
  "  -z, --null-data",
  "                 separate lines by NUL characters",
  "      --help     display this help and exit",
  "      --version  output version information and exit",
  "",
  "If no -e, --expression, -f, or --file option is given, then the first",
  "non-option argument is taken as the sed script to interpret.  All",
  "remaining arguments are names of input files; if no input files are",
  "specified, then the standard input is read.", "", ""]

namespace Edit

def options : List (String × String × Bool) :=
  [("quiet", "n", false), ("silent", "n", false), ("expression", "e", true),
    ("file", "f", true), ("regexp-extended", "E", false), ("separate", "s", false),
    ("in-place", "i", false), ("unbuffered", "u", false), ("null-data", "z", false),
    ("posix", "posix", false), ("debug", "debug", false)]

/-- Where a text that was joined from expressions goes wrong: the expression, counted from one,
and the characters read of it. -/
def locate : Nat → List String → Nat → Nat × Nat
  | number, text :: rest, count =>
      if rest.isEmpty || count ≤ text.length then (number, count)
      else locate (number + 1) rest (count - text.length - 1)
  | number, [], count => (number, count)

/-- The letters in front of a suffix, which is the rest of a word with the letter `i`. -/
def partSuffix (arguments : List String) : List String × Option String :=
  arguments.foldl (fun (words, suffix) word =>
    match word.toList with
    | '-' :: first :: rest =>
        let letters := first :: rest
        let (front, behind) := letters.span fun c => "nErsuz".toList.contains c
        match behind with
        | 'i' :: ending =>
            (words ++ if front = [] then [] else [String.ofList ('-' :: front)],
              some (String.ofList ending))
        | _ =>
            if word.startsWith "--in-place" then
              (words, some (String.ofList (word.toList.drop 11)))
            else (words ++ [word], suffix)
    | _ => (words ++ [word], suffix)) (([] : List String), none)

/-- Splits a text at a mark. -/
def linesBy (mark : Char) (text : List Char) : List (List Char × Bool) :=
  let lines := text.splitOn mark
  let last := lines.getLast?.getD []
  lines.dropLast.map (·, true) ++ if last = [] then [] else [(last, false)]

end Edit

open Edit in
def sed (job : Job) : Result :=
  let (arguments, suffix) := partSuffix job.arguments
  let call := Call.read "nErsuz" "efl" options false (arguments.length + 1) arguments
    ⟨[], [], none, none⟩
  let wrong (message : String) : Result :=
    job.written [job.complaint message, ⟨true, editUsage job.name⟩] 1 false
  match call.unknown, call.missing with
  | some option, _ =>
      wrong ((if option.startsWith "--" then "unrecognized option " else "invalid option -- ") ++
        quoted option)
  | none, some option => wrong ("option requires an argument -- " ++ option)
  | none, none =>
      let given := call.options.filterMap fun (name, value) =>
        if name = "e" then some (Except.ok value)
        else if name = "f" then
          some (match job.readFile value with
            | .ok content =>
                Except.ok (String.ofList (if content.getLast? = some '\n' then content.dropLast
                  else content))
            | .error error => Except.error (value, error))
        else none
      let (texts, files) := match given, call.operands with
        | [], text :: files => ([Except.ok text], files)
        | given, files => (given, files)
      match texts.mapM id with
      | .error (path, error) =>
          job.fail 4 ("couldn't open file " ++ path ++ ": " ++ reason error)
      | .ok [] => job.written [⟨true, editUsage job.name⟩] 1 false
      | .ok expressions =>
          let text := ("\n".intercalate expressions).toList
          match EditScript.parse (call.has ["E", "r"]) text with
          | .error fault =>
              let (number, count) := locate 1 expressions fault.count
              job.fail 1 ("-e expression #" ++ decimal number ++ ", char " ++ decimal count ++
                ": " ++ fault.message)
          | .ok commands =>
              let labels := commands.filterMap fun command => match command.verb with
                | .label name => some name
                | _ => none
              let unknown := commands.findSome? fun command => match command.verb with
                | .jump _ name => if name = "" ∨ labels.contains name then none else some name
                | _ => none
              match unknown with
              | some name => job.fail 4 ("can't find label for jump to \x60" ++ name ++ "'")
              | none =>
                  edit commands call (if files = [] then ["-"] else files) suffix
                    (text.take 2 = "#n".toList && (text.drop 2).head?.all (· = '\n'))
where
  /-- Runs the commands over files, in place if there is a suffix for what was there before. -/
  edit (commands : List EditScript.Command) (call : Call) (files : List String)
      (suffix : Option String) (quietly : Bool) : Result :=
    let read (name : String) : List Char := (job.readFile name).toOption.getD []
    let mark := if call.has ["z"] then '\x00' else '\n'
    let script (name : String) : Edit.Script :=
      ⟨commands.toArray, call.has ["n"] || quietly, mark, read, name⟩
    job.perform (files.contains "-") do
      let mut good : List String := []
      for name in files do
        match job.readFile name with
        | .ok _ => good := good ++ [name]
        | .error .isDirectory =>
            job.warn (if suffix.isSome then "couldn't edit " ++ name ++ ": not a regular file"
              else "read error on " ++ name ++ ": Is a directory")
            Task.setStatus 4
        | .error error =>
            job.warn ("can't read " ++ name ++ ": " ++ reason error)
            Task.setStatus 2
      let targets := commands.filterMap fun command => match command.verb with
        | .file 'w' name | .file 'W' name => some (name, "")
        | .replace replacing => replacing.file.map (·, "")
        | _ => none
      let start := { start with files := targets }
      let save (name text : String) : Task Unit := do
        Task.setTree ((← Task.tree).write (Octets.toText name) (Octets.toBytes text)).2
      let settle (state : State) : Task Unit := do
        for (name, text) in state.files do
          if name = "/dev/stderr" then
            modify fun result => { result with pieces := result.pieces ++ [⟨true, text⟩] }
          else save name text
        if state.status ≠ 0 then Task.setStatus state.status
        if let some message := state.fault then job.complain message
      let replace (name text : String) : Task Unit := do
        let tree ← Task.tree
        match tree.resolveSelf (Octets.toText name), tree.nodeAt (Octets.toText name) with
        | .ok (location, _), .ok node =>
            let item := Item.file (Octets.toBytes text)
            Task.setTree ((tree.remove location).put location
              { node with item, changed := tree.now })
        | _, _ => save name text
      match suffix with
      | some suffix =>
          for name in good do
            let state := runLines (script name) (linesBy mark (read name)) start
            let kept := if suffix.contains '*' then
                below (dirName name) ((baseName name).intercalate (suffix.splitOn "*"))
              else name ++ suffix
            if suffix ≠ "" then
              let tree ← Task.tree
              match tree.resolveSelf (Octets.toText name),
                  destination tree false kept false with
              | .ok (location, _), .ok (place, _) =>
                  if let some number := tree.number? location then
                    Task.setTree (tree.addName place number)
              | _, _ => pure ()
            replace name (String.join state.written.reverse)
            settle { state with files := state.files }
      | none =>
          let parts := if call.has ["s"] then good.map fun name => (name, [name])
            else [(good.headD "-", good)]
          let mut state := start
          for (name, names) in parts do
            let lines := names.flatMap fun name => linesBy mark (read name)
            state := runLines (script name) lines state
          Task.print (String.join state.written.reverse)
          if files.getLast? = some "-" then
            let left := state.rest.foldl (fun sum (line, ended) =>
              sum + line.length + if ended then 1 else 0) 0
            let taken := job.taken 4096 (job.input.length - left)
            modify fun result => { result with taken }
          settle state

end CatalogSeed.Utility
