import CatalogSeed.Utility.Amount
import CatalogSeed.Utility.Items

/-!
Parting a file into several ones of a size, or into so many.
-/

namespace CatalogSeed.Utility

namespace Splitting

/-- What a part of the file is. -/
inductive Measure
  | lines (count : Nat)
  | bytes (count : Nat)
  /-- Whole lines of so many bytes together. -/
  | lineBytes (count : Nat)
  /-- One of so many parts, or all of them: of bytes, of lines, or of lines in turn. -/
  | chunks (kind : Char) (wanted : Option Nat) (count : Nat)

/-- Names behind a common beginning. A size that is not `fixed` grows with their number. -/
structure Naming where
  digits : List Char
  size : Nat
  fixed : Bool
  first : Nat
  front : String
  finish : String

/-- The digits of a number, filled up to a size. -/
def digitsOf (digits : List Char) (size n : Nat) : List Char :=
  (List.range size).reverse.map fun place =>
    digits.getD (n / Nat.pow digits.length place % digits.length) '0'

/-- The part of a name that tells its number. Names that may grow begin with ever more of the last
digit. -/
def growing (digits : List Char) : Nat → Nat → Nat → List Char → List Char
  | 0, _, _, front => front
  | fuel + 1, size, n, front =>
      let count := (digits.length - 1) * Nat.pow digits.length (size - 1)
      if n < count then front ++ digitsOf digits size n
      else growing digits fuel (size + 1) (n - count) (front ++ digits.drop (digits.length - 1))

/-- The name of a part; none if there are no names left. -/
def Naming.name? (naming : Naming) (index : Nat) : Option String :=
  let n := naming.first + index
  let label := if naming.fixed then
      if Nat.pow naming.digits.length naming.size ≤ n then none
      else some (digitsOf naming.digits naming.size n)
    else some (growing naming.digits (n + 1) naming.size n [])
  label.map fun label => naming.front ++ String.ofList label ++ naming.finish

/-- Pieces of a length. -/
def pieces (size : Nat) : Nat → List Char → List (List Char)
  | 0, _ | _, [] => []
  | fuel + 1, text => text.take size :: pieces size fuel (text.drop size)

/-- The lines of a text with the marks behind them. -/
def linesWith (mark : Char) (text : List Char) : List (List Char) :=
  let parts := text.splitOn mark
  parts.dropLast.map (· ++ [mark]) ++ (parts.getLast?.getD []  :: []).filter (· ≠ [])

/-- Puts lines together as long as they take no more than so many bytes; longer ones are broken. -/
def packed (size : Nat) : List (List Char) → List Char → List (List Char)
  | [], part => if part = [] then [] else [part]
  | line :: rest, part =>
      if part.length + line.length ≤ size then packed size rest (part ++ line)
      else
        let done := if part = [] then [] else [part]
        let whole := pieces size line.length line
        done ++ whole.dropLast ++ packed size rest (whole.getLast?.getD [])

/-- Where each of so many chunks ends. -/
def chunkEnds (size count : Nat) : List Nat :=
  (List.range count).map fun index =>
    (index + 1) * (size / count) + min (index + 1) (size % count)

/-- Lines shared out among chunks that end at these places: a line goes to the chunk in which it
begins. -/
def shared : List Nat → Nat → List (List Char) → List (List Char)
  | [], _, _ => []
  | [_], _, lines => [lines.flatten]
  | stop :: stops, start, lines =>
      let (own, rest, next) := take stop start lines []
      own :: shared stops next rest
where
  take (stop start : Nat) : List (List Char) → List (List Char) →
      List Char × List (List Char) × Nat
    | [], own => (own.reverse.flatten, [], start)
    | line :: rest, own =>
        let here := start + (own.map List.length).foldl (· + ·) 0
        if stop ≤ here then (own.reverse.flatten, line :: rest, here)
        else take stop start rest (line :: own)

/-- The parts of a text. -/
def parts (measure : Measure) (mark : Char) (text : List Char) : List (List Char) :=
  let lines := linesWith mark text
  match measure with
  | .lines count => (grouped count lines.length lines).map List.flatten
  | .bytes count => pieces count text.length text
  | .lineBytes count => packed count lines []
  | .chunks 'l' _ count => shared (chunkEnds text.length count) 0 lines
  | .chunks 'r' _ count => (List.range count).map fun turn =>
      ((lines.zipIdx.filter fun (_, index) => index % count = turn).map Prod.fst).flatten
  | .chunks _ _ count =>
      let ends := chunkEnds text.length count
      (List.zip (0 :: ends) ends).map fun (start, stop) => (text.take stop).drop start
where
  grouped (count : Nat) : Nat → List (List Char) → List (List (List Char))
    | 0, _ | _, [] => []
    | fuel + 1, lines => lines.take count :: grouped count fuel (lines.drop count)

/-- Reads how many chunks there are to be, and which one is wanted. -/
def chunks (job : Job) (text : String) : Except Result Measure := do
  let (kind, words) := match text.splitOn "/" with
    | kind :: words => if kind = "l" ∨ kind = "r" then (kind.toList.headD 'b', words)
        else ('b', kind :: words)
    | [] => ('b', [])
  let number (word : String) : Option Nat := (Amount.parse? word).filter (0 < ·)
  let wrong (what word : String) : Except Result Measure :=
    .error (job.fail 1 ("invalid " ++ what ++ ": " ++ quoted word))
  match words with
  | [count] =>
      match number count with
      | some count => .ok (.chunks kind none count)
      | none => wrong "number of chunks" (if kind = 'b' then text else count)
  | [wanted, count] =>
      match number count with
      | none => wrong "number of chunks" count
      | some total =>
          match number wanted with
          | some wanted =>
              if wanted ≤ total then .ok (.chunks kind (some wanted) total)
              else wrong "chunk number" (decimal wanted)
          | none => wrong "chunk number" wanted
  | _ => wrong "number of chunks" text

/-- An old-style count of lines as an option of its own. -/
def spelledOut (arguments : List String) : List String :=
  arguments.flatMap fun word => match word.toList with
    | '-' :: digits =>
        if digits ≠ [] ∧ digits.all Char.isDigit then ["-l", String.ofList digits] else [word]
    | _ => [word]

/-- What a call wants the parts to be. -/
def measureOf (job : Job) (call : Call) : Except Result Measure := do
  let given := call.options.filter fun (name, _) => ["l", "b", "C", "n"].contains name
  match given with
  | [] => return .lines 1000
  | [(letter, text)] =>
      let size (what : String) (value? : Option Nat) : Except Result Nat :=
        match value?.filter (0 < ·) with
        | some size => .ok size
        | none => .error (job.fail 1 ("invalid number of " ++ what ++ ": " ++ quoted text))
      match letter with
      | "l" =>
          let value := if text.all Char.isDigit then text.toNat? else none
          return .lines (← size "lines" value)
      | "b" => return .bytes (← size "bytes" (Amount.parse? text))
      | "C" => return .lineBytes (← size "lines" (Amount.parse? text))
      | _ => chunks job text
  | _ => .error (job.usage 1 "cannot split in more than one way")

/-- How the parts are named. -/
def namingOf (job : Job) (call : Call) (measure : Measure) : Except Result Naming := do
  let kind := ((call.options.filter fun (name, _) => ["d", "x"].contains name).getLast?)
  let digits := match kind with
    | some ("d", _) => "0123456789".toList
    | some _ => "0123456789abcdef".toList
    | none => "abcdefghijklmnopqrstuvwxyz".toList
  let first? := kind.bind fun (name, text) =>
    if text = "" then none
    else some (if name = "d" then text.toNat?.getD 0
      else (text.toList.foldl (fun value c => 16 * value +
        (if c.isDigit then c.toNat - 48 else c.toNat - 87)) 0))
  let size ← match call.value? ["a"] with
    | none => pure 0
    | some text =>
        if text ≠ "" ∧ text.all Char.isDigit then pure (text.toNat?.getD 0)
        else .error (job.fail 1 ("invalid suffix length: " ++ quoted text))
  let first := first?.getD 0
  let needed (count : Nat) : Nat :=
    ((List.range 20).find? fun size => first + count ≤ Nat.pow digits.length size).getD 2
  let chunked := match measure with
    | .chunks _ _ count => some count
    | _ => none
  let front := (call.operands[1]?).getD "x"
  let finish := (call.value? ["additional"]).getD ""
  if finish.contains '/' then
    .error (job.usage 1 ("invalid suffix " ++ quoted finish ++ ", contains directory separator"))
  else match chunked, size with
  | some count, 0 => return ⟨digits, max 2 (needed count), true, first, front, finish⟩
  | _, 0 => return ⟨digits, 2, first?.isSome, first, front, finish⟩
  | some count, size =>
      if size < needed count then
        .error (job.fail 1 ("the suffix length needs to be at least " ++ decimal (needed count)))
      else return ⟨digits, size, true, first, front, finish⟩
  | none, size => return ⟨digits, size, true, first, front, finish⟩

end Splitting

open Splitting in
def split (job : Job) : Result :=
  let long := [("lines", "l", true), ("bytes", "b", true), ("line-bytes", "C", true),
    ("number", "n", true), ("suffix-length", "a", true), ("numeric-suffixes", "d", false),
    ("hex-suffixes", "x", false), ("additional-suffix", "additional", true),
    ("verbose", "verbose", false), ("elide-empty-files", "e", false), ("separator", "t", true),
    ("unbuffered", "u", false)]
  match { job with arguments := spelledOut job.arguments }.call "dxeu" "lbCnat" long false 1 with
  | .error result => result
  | .ok call =>
      let prepared : Except Result (Measure × Naming) := do
        let measure ← measureOf job call
        if let some word := call.operands[2]? then
          .error (job.usage 1 ("extra operand " ++ quoted word))
        return (measure, ← namingOf job call measure)
      match prepared with
      | .error result => result
      | .ok (measure, naming) =>
          let mark := match call.value? ["t"] with
            | some "\\0" => '\x00'
            | some text => text.toList.headD '\n'
            | none => '\n'
          let name := call.operands.headD "-"
          match job.readFile name with
          | .error .isDirectory => job.fail 1 (name ++ ": read error: Is a directory")
          | .error error =>
              job.fail 1 ("cannot open " ++ named name ++ " for reading: " ++ reason error)
          | .ok text =>
              let found := parts measure mark text
              match measure with
              | .chunks _ (some wanted) _ =>
                  job.written [⟨false, String.ofList (found.getD (wanted - 1) [])⟩] 0 (name = "-")
              | _ => job.perform (name = "-") do
                  let found := if call.has ["e"] then found.filter (· ≠ []) else found
                  for (part, index) in found.zipIdx do
                    if (← get).status = 0 then
                      match naming.name? index with
                      | none => job.complain "output file suffixes exhausted"
                      | some path =>
                          if call.has ["verbose"] then
                            Task.print ("creating file " ++ named path ++ "\n")
                          match (← Task.tree).write (Octets.toText path)
                              (part.map Octets.ofChar) with
                          | (.ok (), tree) => Task.setTree tree
                          | (.error error, _) => job.complain (shown path ++ ": " ++ reason error)

end CatalogSeed.Utility
