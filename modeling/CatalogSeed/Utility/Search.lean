import CatalogSeed.Script.Pattern
import CatalogSeed.Utility.Items
import CatalogSeed.Utility.Lines
import CatalogSeed.Utility.Regex

/-!
Searching lines for patterns.
-/

namespace CatalogSeed.Utility

namespace Search

/-- What a line is searched for: expressions, or texts as they stand. -/
structure Wish where
  patterns : List Regex
  ignoreCase : Bool
  wholeWords : Bool
  wholeLines : Bool

def literal (text : String) : Regex :=
  .inOrder (text.toList.map .one)

/-- Whether a match stands between things that are not part of words. -/
def isWord (subject : Regex.Subject) (first last : Nat) : Bool :=
  !subject.wordBefore first && !subject.wordBehind last

/-- The first match of a wish from a position on, the longest one there. -/
def find? (wish : Wish) (subject : Regex.Subject) : Nat → Nat → Option (Nat × Nat)
  | 0, _ => none
  | fuel + 1, start =>
      let ends := wish.patterns.flatMap fun regex =>
        (regex.ends subject ⟨start, []⟩).map Regex.Place.position
      let good := ends.filter fun stop =>
        (!wish.wholeLines || (start = 0 && stop = subject.chars.size)) &&
          (!wish.wholeWords || isWord subject start stop)
      match good.max? with
      | some stop => some (start, stop)
      | none =>
          if subject.chars.size ≤ start then none else find? wish subject fuel (start + 1)

def fits (wish : Wish) (line : List Char) : Bool :=
  let subject : Regex.Subject := ⟨line.toArray, wish.ignoreCase, false⟩
  (find? wish subject (line.length + 1) 0).isSome

/-- The texts of all matches in a line that are not empty. -/
def matchesFrom (wish : Wish) (line : List Char) : Nat → Nat → List String
  | 0, _ => []
  | fuel + 1, start =>
      let subject : Regex.Subject := ⟨line.toArray, wish.ignoreCase, false⟩
      match find? wish subject (line.length + 1 - start) start with
      | none => []
      | some (first, stop) =>
          if first = stop then
            if line.length ≤ first then [] else matchesFrom wish line fuel (first + 1)
          else String.ofList ((line.take stop).drop first) :: matchesFrom wish line fuel stop

/-- Which files below a directory are searched: whether links are followed, and what has to be so
for the names of files and of directories. -/
structure Descent where
  links : Bool
  file : String → Bool
  directory : String → Bool

/-- The files below a directory. -/
def filesBelow (tree : FileTree) (descent : Descent) : Nat → String → List String
  | 0, _ => []
  | fuel + 1, path =>
      match tree.resolve (Octets.toText path) with
      | .ok (location, .directory) =>
          (tree.children location).flatMap fun name =>
            let inner := Octets.ofText name
            match tree.item? (location ++ [name]) with
            | some .directory =>
                if descent.directory inner then filesBelow tree descent fuel (below path inner)
                else []
            | some (.link _) =>
                if descent.links && descent.file inner then
                  filesBelow tree descent fuel (below path inner)
                else []
            | some (.file _) => if descent.file inner then [below path inner] else []
            | _ => []
      | _ => [path]

/-- The lines that are shown, with the sign behind their number: a colon for a hit, a hyphen for a
line around one. Groups that do not touch are kept apart. -/
def withContext (before after : Nat) (hits : List (Nat × Bool × List Char)) :
    List (Option (Nat × Bool × List Char)) :=
  let near (number : Nat) : Bool := hits.any fun (other, hit, _) =>
    hit && number ≤ other + after && other ≤ number + before
  let kept := hits.filter fun (number, _, _) => near number
  let rec part : Option Nat → List (Nat × Bool × List Char) →
      List (Option (Nat × Bool × List Char))
    | _, [] => []
    | last, line :: rest =>
        let gap := match last with
          | some last => last + 1 < line.1 && (before ≠ 0 || after ≠ 0)
          | none => false
        (if gap then [none] else []) ++ some line :: part (some line.1) rest
  part none kept

end Search

def grepOptions : List (String × String × Bool) :=
  [("ignore-case", "i", false), ("invert-match", "v", false), ("count", "c", false),
    ("line-number", "n", false), ("files-with-matches", "l", false), ("quiet", "q", false),
    ("silent", "q", false), ("only-matching", "o", false), ("word-regexp", "w", false),
    ("line-regexp", "x", false), ("no-filename", "h", false), ("with-filename", "H", false),
    ("recursive", "r", false), ("regexp", "e", true), ("file", "f", true),
    ("max-count", "m", true), ("extended-regexp", "E", false), ("fixed-strings", "F", false),
    ("basic-regexp", "G", false), ("no-messages", "s", false),
    ("files-without-match", "L", false), ("after-context", "A", true),
    ("before-context", "B", true), ("context", "C", true), ("color", "color", false),
    ("colour", "color", false), ("text", "a", false), ("include", "include", true),
    ("exclude", "exclude", true), ("exclude-dir", "exclude-dir", true),
    ("byte-offset", "b", false), ("null", "Z", false), ("null-data", "z", false),
    ("dereference-recursive", "R", false), ("binary-files", "binary", true),
    ("line-buffered", "buffered", false), ("perl-regexp", "P", false)]

open Search in
def grep (job : Job) : Result :=
  let usage := "Usage: grep [OPTION]... PATTERNS [FILE]...\n" ++
    "Try 'grep --help' for more information.\n"
  let job := if job.utility = "grep" then job else { job with name := "grep" }
  let call := Call.read "EFGPiyvcnlLqsowxhHrRaIUzZbT" "efmABC" grepOptions false
    (job.arguments.length + 1) job.arguments ⟨[], [], none, none⟩
  let wrong (message : String) : Result :=
    job.written [job.complaint message, ⟨true, usage⟩] 2 false
  match call.unknown, call.missing with
  | some option, _ =>
      wrong ((if option.startsWith "--" then "unrecognized option " else "invalid option -- ") ++
        quoted option)
  | none, some option => wrong ("option requires an argument -- " ++ option)
  | none, none =>
      let given := call.values ["e"] ++ (call.values ["f"]).flatMap fun path =>
        ((job.readFile path).toOption.map bareLines).getD []
      let asked := call.has ["e", "f"]
      let unread := (call.values ["f"]).findSome? fun path => match job.readFile path with
        | .ok _ => none
        | .error error => some (path ++ ": " ++ reason error)
      if let some message := unread then job.fail 2 message
      else match if asked then some (given, call.operands)
          else call.operands.head?.map fun text => ([text], call.operands.drop 1) with
      | none => job.written [⟨true, usage⟩] 2 false
      | some (texts, files) =>
          let extended := call.has ["E", "P"] || job.utility = "egrep"
          let texts := texts.flatMap fun text => (text.splitOn "\n")
          let read (text : String) : Except String Regex :=
            if call.has ["F"] || job.utility = "fgrep" then .ok (literal text)
            else Regex.parse ⟨extended, true⟩ text.toList
          match texts.mapM read with
          | .error message =>
              job.fail 2 (if message.startsWith "Unmatched [" then "Invalid regular expression"
                else message)
          | .ok patterns =>
              let wish : Wish := ⟨patterns, call.has ["i", "y"], call.has ["w"], call.has ["x"]⟩
              let recursive := call.has ["r", "R"]
              let files := if files = [] then (if recursive then ["."] else ["-"]) else files
              let headed := call.has ["H"] || recursive || (1 < files.length && !call.has ["h"])
              let headed := headed && !call.has ["h"]
              let fitsAny (letter name : String) : Bool := (call.values [letter]).any fun pattern =>
                (Script.Pattern.ofWord true (pattern.toList.map fun c => ⟨c, false⟩)).fits
                  name.toList
              let chosen (name : String) : Bool :=
                (!call.has ["include"] || fitsAny "include" name) && !fitsAny "exclude" name
              let descent : Descent := ⟨call.has ["R"], chosen, (!fitsAny "exclude-dir" ·)⟩
              let files := if recursive then
                  files.flatMap (filesBelow job.tree descent Path.longestPath)
                else files
              let finish := if call.has ["z"] then "\x00" else "\n"
              let size (letters : List String) : Nat :=
                ((call.value? letters).bind String.toNat?).getD 0
              let most := (call.value? ["m"]).bind String.toNat?
              job.perform (files.contains "-") do
                Task.setStatus 1
                let mut any := false
                for file in files do
                  match job.readFile file with
                  | .error error =>
                      unless call.has ["s"] do job.warn (file ++ ": " ++ reason error)
                      unless call.has ["q"] && any do Task.setStatus 2
                  | .ok content =>
                      let label := if file = "-" then "(standard input)" else file
                      if job.isOutput file && !call.has ["q", "l", "L"] && most ≠ some 1 then
                        job.warn (label ++ ": input file is also the output")
                        Task.setStatus 2
                        continue
                      let front (sign : String) : String := if headed then label ++ sign else ""
                      let parts := if call.has ["z"] then content.splitOn '\x00' else []
                      let parts := if parts.getLast? = some [] then parts.dropLast else parts
                      let lines := if call.has ["z"] then parts else (linesOf content).map chop
                      let binary := content.contains '\x00' && !call.has ["a", "z"] &&
                        call.value? ["binary"] ≠ some "text"
                      let hits := lines.zipIdx 1 |>.map fun (line, number) =>
                        (number, fits wish line != call.has ["v"], line)
                      let hits := match most with
                        | some most =>
                            let stop := (hits.filter fun (_, hit, _) => hit)[most]?
                            match stop with
                            | some (number, _, _) =>
                                hits.map fun (other, hit, line) =>
                                  (other, hit && decide (other < number), line)
                            | none => hits
                        | none => hits
                      let found := hits.any fun (_, hit, _) => hit
                      any := any || found
                      if found && (call.has ["q"] || (← get).status = 1) then Task.setStatus 0
                      if call.has ["q"] then pure ()
                      else if call.has ["l"] then
                        if found then Task.print (label ++ "\n")
                      else if call.has ["L"] then
                        unless found do Task.print (label ++ "\n")
                      else if call.has ["c"] then
                        let count := (hits.filter fun (_, hit, _) => hit).length
                        Task.print (front ":" ++ decimal count ++ "\n")
                      else if binary then
                        if found then
                          Task.print (job.name ++ ": " ++ label ++ ": binary file matches\n")
                      else
                        let offsets := lines.foldl (fun offsets line =>
                          (offsets.headD 0 + line.length + 1) :: offsets) [0]
                        let offsets := offsets.reverse.toArray
                        let after := max (size ["A"]) (size ["C"])
                        let before := max (size ["B"]) (size ["C"])
                        for entry in withContext before after hits do
                          match entry with
                          | none => Task.print "--\n"
                          | some (number, hit, line) =>
                              let sign := if hit then ":" else "-"
                              let offset := offsets.getD (number - 1) 0
                              let head := front sign ++
                                (if call.has ["n"] then decimal number ++ sign else "") ++
                                (if call.has ["b"] then decimal offset ++ sign else "")
                              if call.has ["o"] then
                                if hit && !call.has ["v"] then
                                  for text in matchesFrom wish line (line.length + 1) 0 do
                                    Task.print (head ++ text ++ finish)
                              else Task.print (head ++ String.ofList line ++ finish)

end CatalogSeed.Utility
