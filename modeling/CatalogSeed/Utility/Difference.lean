import CatalogSeed.Utility.Moment
import CatalogSeed.Utility.Names

/-!
Differences between files: the longest common lines stay, and the lines between them are taken
away, added, or changed.
-/

namespace CatalogSeed.Utility

namespace Difference

/-- What becomes of a line on the way from the old text to the new one. -/
inductive Step
  | keep (line : List Char)
  | drop (line : List Char)
  | add (line : List Char)

/-- One row of the table of common lengths, from its right end: how many lines each part of the
new text has in common with the part of the old one that begins with a line. -/
def row (same : List Char → List Char → Bool) (line : List Char) :
    List (List Char) → List Nat → List Nat
  | other :: rest, below =>
      let right := row same line rest (below.drop 1)
      let best := if same line other then (below.drop 1).headD 0 + 1
        else max (below.headD 0) (right.headD 0)
      best :: right
  | [], _ => [0]

/-- The rows of the table for all parts of the old text, the whole one first. -/
def rows (same : List Char → List Char → Bool) (new : List (List Char)) :
    List (List Char) → List (List Nat)
  | [] => [List.replicate (new.length + 1) 0]
  | line :: rest =>
      let below := rows same new rest
      row same line new (below.headD []) :: below

/-- Follows the table from its beginning. -/
def steps (same : List Char → List Char → Bool) :
    Nat → List (List Char) → List (List Char) → List (List Nat) → List Step
  | 0, _, _, _ => []
  | _ + 1, [], new, _ => new.map .add
  | _ + 1, old, [], _ => old.map .drop
  | fuel + 1, line :: old, other :: new, table =>
      let here := table.headD []
      let below := (table.drop 1).headD []
      let shift (table : List (List Nat)) : List (List Nat) := table.map (·.drop 1)
      if same line other then .keep line :: steps same fuel old new (shift (table.drop 1))
      else if (here.drop 1).headD 0 ≤ below.headD 0 then
        .drop line :: steps same fuel old (other :: new) (table.drop 1)
      else .add other :: steps same fuel (line :: old) new (shift table)

/-- A change: where it stands in both texts, and its lines. -/
structure Change where
  oldStart : Nat
  newStart : Nat
  dropped : List (List Char)
  added : List (List Char)

/-- Gathers steps into changes; the last one is still open. -/
def changes : List Step → Nat → Nat → Option Change → List Change
  | [], _, _, current => current.toList
  | .keep _ :: rest, old, new, current => current.toList ++ changes rest (old + 1) (new + 1) none
  | .drop line :: rest, old, new, current =>
      let change := current.getD ⟨old, new, [], []⟩
      changes rest (old + 1) new (some { change with dropped := change.dropped ++ [line] })
  | .add line :: rest, old, new, current =>
      let change := current.getD ⟨old, new, [], []⟩
      changes rest old (new + 1) (some { change with added := change.added ++ [line] })

/-- A line behind a mark; a missing line end is told. -/
def marked (mark : String) (line : List Char) : String :=
  mark ++ String.ofList (chop line) ++ "\n" ++
    if hasEnd line then "" else "\\ No newline at end of file\n"

/-- The numbers of the first and the last line of a part. -/
def range (start count : Nat) : String :=
  if count = 0 then decimal start
  else if count = 1 then decimal (start + 1)
  else decimal (start + 1) ++ "," ++ decimal (start + count)

def Change.text (change : Change) : String :=
  let letter := if change.dropped = [] then "a" else if change.added = [] then "d" else "c"
  range change.oldStart change.dropped.length ++ letter ++
    range change.newStart change.added.length ++ "\n" ++
    String.join (change.dropped.map (marked "< ")) ++ (if letter = "c" then "---\n" else "") ++
    String.join (change.added.map (marked "> "))

/-- Changes that are near one another, together. -/
def hunks (context : Nat) : List Change → List Change → List (List Change)
  | [], [] => []
  | group, [] => [group]
  | [], change :: rest => hunks context [change] rest
  | group, change :: rest =>
      let near : Bool := match group.getLast? with
        | some last => change.oldStart - (last.oldStart + last.dropped.length) ≤ 2 * context
        | none => true
      if near then hunks context (group ++ [change]) rest
      else group :: hunks context [change] rest

/-- Changes with the lines around them. -/
def unified (old : List (List Char)) (context : Nat) (group : List Change) : String :=
  match group.head?, group.getLast? with
  | some first, some last =>
      let before := min context first.oldStart
      let start := first.oldStart - before
      let stop := min old.length (last.oldStart + last.dropped.length + context)
      let newStart := first.newStart - before
      let part (first last : Nat) : List (List Char) := (old.take last).drop first
      let (lines, place) := group.foldl (fun (lines, place) change =>
        (lines ++ (part place change.oldStart).map (marked " ") ++
          change.dropped.map (marked "-") ++ change.added.map (marked "+"),
          change.oldStart + change.dropped.length)) (([] : List String), start)
      let lines := lines ++ (part place stop).map (marked " ")
      let added := (group.map fun change => change.added.length).foldl (· + ·) 0
      let dropped := (group.map fun change => change.dropped.length).foldl (· + ·) 0
      let oldCount := stop - start
      let newCount := oldCount + added - dropped
      let place (start count : Nat) : String :=
        decimal (if count = 0 then start else start + 1) ++
          if count = 1 then "" else "," ++ decimal count
      "@@ -" ++ place start oldCount ++ " +" ++ place newStart newCount ++ " @@\n" ++
        String.join lines
  | _, _ => ""

/-- Changes with the lines around them, first in the old text and then in the new one. -/
def inContext (old new : List (List Char)) (context : Nat) (group : List Change) : String :=
  match group.head?, group.getLast? with
  | some first, some last =>
      let before := min context first.oldStart
      let part (lines : List (List Char)) (start stop : Nat) : List String :=
        ((lines.take stop).drop start).map (marked "  ")
      let side (lines : List (List Char)) (start : Change → Nat) (own : Change → List (List Char))
          (both : Change → Bool) (sign edge : String) : String :=
        let front := start first - before
        let stop := min lines.length (start last + (own last).length + context)
        let (body, place) := group.foldl (fun (body, place) change =>
          let mark := if both change then "! " else sign ++ " "
          (body ++ part lines place (start change) ++ (own change).map (marked mark),
            start change + (own change).length)) (([] : List String), front)
        let body := body ++ part lines place stop
        let range := if stop ≤ front + 1 then decimal stop
          else decimal (front + 1) ++ "," ++ decimal stop
        edge ++ " " ++ range ++ " " ++ edge ++ (if sign = "-" then "*" else "-") ++ "\n" ++
          if group.all fun change => (own change).isEmpty then "" else String.join body
      let both (change : Change) : Bool := !change.dropped.isEmpty && !change.added.isEmpty
      "***************\n" ++
        side old (·.oldStart) (·.dropped) both "-" "***" ++
        side new (·.newStart) (·.added) both "+" "---"
  | _, _ => ""

/-- A change as a command for a line editor. -/
def Change.command (change : Change) : String :=
  let letter := if change.dropped = [] then "a" else if change.added = [] then "d" else "c"
  range change.oldStart change.dropped.length ++ letter ++ "\n" ++
    if change.added = [] then ""
    else String.join (change.added.map fun line => String.ofList (chop line) ++ "\n") ++ ".\n"

/-- A change as counts of lines behind a letter. -/
def Change.counted (change : Change) : String :=
  let (dropped, added) := (change.dropped.length, change.added.length)
  (if dropped = 0 then ""
    else "d" ++ decimal (change.oldStart + 1) ++ " " ++ decimal dropped ++ "\n") ++
  if added = 0 then ""
  else "a" ++ decimal (change.oldStart + dropped) ++ " " ++ decimal added ++ "\n" ++
    String.join (change.added.map String.ofList)

/-- What two files are called and when they were changed. -/
structure Side where
  path : String
  changed : Int

/-- A line as far as it counts in a comparison. -/
def counted (call : Call) (line : List Char) : List Char :=
  let line := if call.has ["i"] then line.map Char.toLower else line
  if call.has ["w"] then (chop line).filter fun c => !isSpace c
  else if call.has ["b"] then
    (" ".intercalate (((chop line).splitOnP isSpace).filter (· ≠ []) |>.map String.ofList)).toList
  else line

/-- The differences of two texts as a call wants them, and the status. -/
def compared (call : Call) (left right : Side) (old new : List Char) : String × Nat :=
  let (old, new) := (linesOf old, linesOf new)
  let same (a b : List Char) : Bool := counted call a = counted call b
  let found := changes (steps same (old.length + new.length + 1) old new (rows same new old))
    0 0 none
  let isEmpty (line : List Char) : Bool := (chop line).isEmpty
  let found := if call.has ["B"] then
      found.filter fun change => !(change.dropped ++ change.added).all isEmpty
    else found
  let labels := call.values ["L"]
  let stamped (index : Nat) (side : Side) (format : String) : String :=
    labels.getD index (side.path ++ "\t" ++ Moment.render side.changed format)
  let context := ((call.value? ["U", "C"]).bind String.toNat?).getD 3
  if found.isEmpty then
    (if call.has ["s"] then "Files " ++ left.path ++ " and " ++ right.path ++ " are identical\n"
      else "", 0)
  else if call.has ["q"] then
    ("Files " ++ left.path ++ " and " ++ right.path ++ " differ\n", 1)
  else if call.has ["u", "U"] then
    let format := "%F %T.%N %z"
    ("--- " ++ stamped 0 left format ++ "\n+++ " ++ stamped 1 right format ++ "\n" ++
      String.join ((hunks context [] found).map (unified old context)), 1)
  else if call.has ["c", "C"] then
    let format := "%a %b %e %T %Y"
    ("*** " ++ stamped 0 left format ++ "\n--- " ++ stamped 1 right format ++ "\n" ++
      String.join ((hunks context [] found).map (inContext old new context)), 1)
  else if call.has ["e"] then (String.join (found.reverse.map Change.command), 1)
  else if call.has ["n"] then (String.join (found.map Change.counted), 1)
  else (String.join (found.map Change.text), 1)

/-- The time at which what a path leads to was changed. -/
def sideOf (job : Job) (path : String) : Side :=
  match job.tree.nodeAt (Octets.toText path) with
  | .ok node => ⟨path, if Job.isInput path then job.tree.now else node.changed⟩
  | .error _ => ⟨path, if path = "-" then job.tree.now else 0⟩

/-- Compares two files. -/
def files (job : Job) (call : Call) (left right : String) : List Piece × Nat :=
  match job.readFile left, job.readFile right with
  | .ok old, .ok new =>
      let (text, status) := compared call (sideOf job left) (sideOf job right) old new
      ([⟨false, text⟩], status)
  | old, new =>
      let complaint (path : String) (content : Except FileError (List Char)) : List Piece :=
        match content with
        | .error error => [job.complaint (path ++ ": " ++ reason error)]
        | .ok _ => []
      (complaint left old ++ complaint right new, 2)

/-- What a file is, in words. -/
def kindAt (tree : FileTree) (path : String) : String :=
  match tree.resolve (Octets.toText path) with
  | .ok (_, item) => kindName item
  | .error _ => ""

/-- Compares directories name by name. -/
def directories (job : Job) (call : Call) : Nat → String → String → List Piece × Nat
  | 0, _, _ => ([], 0)
  | fuel + 1, left, right =>
      let tree := job.tree
      let namesOf (path : String) : List String :=
        match tree.resolve (Octets.toText path) with
        | .ok (location, _) => (tree.children location).map Octets.ofText
        | .error _ => []
      let (here, there) := (namesOf left, namesOf right)
      let all := ((here ++ there).eraseDups).mergeSort fun a b => a ≤ b
      let options := job.arguments.filter fun word => word.startsWith "-" && word ≠ "-"
      let compareOne (name : String) : List Piece × Nat :=
        let (one, other) := (below left name, below right name)
        let say (text : String) : List Piece × Nat := ([⟨false, text ++ "\n"⟩], 1)
        let isDirectory (path : String) : Bool := tree.isDirectory (Octets.toText path)
        let alone := here.contains name != there.contains name
        if alone && !call.has ["N"] then
          say ("Only in " ++ (if here.contains name then left else right) ++ ": " ++ name)
        else if alone && (isDirectory one || isDirectory other) then
          if call.has ["r"] then directories job call fuel one other else ([], 0)
        else if alone then
          let read (path : String) : List Char := (job.readFile path).toOption.getD []
          let (text, status) :=
            compared call (sideOf job one) (sideOf job other) (read one) (read other)
          headed options one other ([⟨false, text⟩], status)
        else match isDirectory one, isDirectory other with
          | true, true =>
              if call.has ["r"] then directories job call fuel one other
              else ([⟨false, "Common subdirectories: " ++ one ++ " and " ++ other ++ "\n"⟩], 0)
          | false, false => headed options one other (files job call one other)
          | _, _ =>
              say ("File " ++ one ++ " is a " ++ kindAt tree one ++ " while file " ++ other ++
                " is a " ++ kindAt tree other)
      let results := all.map compareOne
      (results.flatMap Prod.fst, (results.map Prod.snd).foldl max 0)
where
  headed (options : List String) (one other : String) (result : List Piece × Nat) :
      List Piece × Nat :=
    if result.2 = 1 && !call.has ["q"] then
      let front := " ".intercalate ("diff" :: options ++ [one, other]) ++ "\n"
      (⟨false, front⟩ :: result.1, 1)
    else result

end Difference

open Difference in
def diff (job : Job) : Result :=
  let long := [("brief", "q", false), ("report-identical-files", "s", false),
    ("ignore-case", "i", false), ("ignore-all-space", "w", false),
    ("ignore-space-change", "b", false), ("unified", "u", false), ("recursive", "r", false),
    ("label", "L", true), ("text", "a", false), ("new-file", "N", false),
    ("ignore-blank-lines", "B", false), ("context", "c", false), ("ed", "e", false),
    ("rcs", "n", false), ("normal", "normal", false)]
  let words := job.arguments.map fun word => match word.toList with
    | '-' :: 'u' :: c :: rest =>
        if c.isDigit then "-U" ++ String.ofList (c :: rest) else word
    | _ => word
  match ({ job with arguments := words } : Job).call "aqsiwbBurNtTcen" "ULC" long false 2 with
  | .error result => job.withName result
  | .ok call =>
      let refuse (message : String) : Result := job.withName (job.usage 2 message)
      match call.operands with
      | [left, right] =>
          let isDirectory (path : String) : Bool :=
            job.tree.isDirectory (Octets.toText path) && !Job.isInput path
          let readsInput := left = "-" || right = "-"
          let (pieces, status) :=
            if isDirectory left && isDirectory right then
              directories job call Path.longestPath left right
            else
              let inside (path other : String) : String :=
                if isDirectory path && !Job.isInput other &&
                    (job.tree.resolve (Octets.toText other)).isOk then
                  below path (baseName other)
                else path
              if isDirectory left && !(job.tree.resolve (Octets.toText right)).isOk &&
                  right ≠ "-" then
                ([job.complaint (right ++ ": " ++ reason .notFound)], 2)
              else files job call (inside left right) (inside right left)
          job.written pieces status readsInput
      | [] => refuse ("missing operand after " ++ quoted job.name)
      | [path] => refuse ("missing operand after " ++ quoted path)
      | _ :: _ :: extra :: _ => refuse ("extra operand " ++ quoted extra)

end CatalogSeed.Utility
