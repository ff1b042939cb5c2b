import CatalogSeed.Script.Channel
import CatalogSeed.Utility.Lines

/-!
Copying in blocks, and changing what is copied on the way.
-/

namespace CatalogSeed.Utility

namespace Blocks

/-- What is copied, where to, in which blocks, and how. A size that counts bytes is marked. -/
structure Plan where
  input : Option String
  output : Option String
  inputBlock : Nat
  outputBlock : Nat
  both : Option Nat
  lineBlock : Nat
  count : Option (Nat × Bool)
  skip : Nat × Bool
  seek : Nat × Bool
  conversions : List String
  inputFlags : List String
  outputFlags : List String
  status : String

def Plan.start : Plan :=
  ⟨none, none, 512, 512, none, 0, none, (0, false), (0, false), [], [], [], ""⟩

/-- A number, or several ones to be multiplied; it counts bytes where a `B` stands behind it. -/
def number? (text : String) : Option (Nat × Bool) := do
  let parts := text.splitOn "x"
  let last := (parts.getLast?.getD "").toList
  let bytes := last.length > 1 && last.getLast? = some 'B' &&
    ((last.dropLast.getLast?.map Char.isDigit).getD false)
  let parts := if bytes then parts.dropLast ++ [String.ofList last.dropLast] else parts
  let values ← parts.mapM fun part =>
    match part.toList.span Char.isDigit with
    | (digits, ['c']) => (String.ofList digits).toNat?
    | (digits, ['w']) => (String.ofList digits).toNat?.map (2 * ·)
    | _ => Amount.parse? part
  return (values.foldl (· * ·) 1, bytes)

def knownConversions : List String :=
  ["ascii", "ebcdic", "ibm", "block", "unblock", "lcase", "ucase", "sparse", "swab", "sync",
    "excl", "nocreat", "notrunc", "noerror", "fdatasync", "fsync"]

def knownFlags : List String :=
  ["append", "binary", "cio", "direct", "directory", "dsync", "noatime", "nocache", "noctty",
    "nofollow", "nolinks", "nonblock", "sync", "text", "fullblock", "count_bytes", "skip_bytes",
    "seek_bytes"]

/-- Reads one operand. -/
def operand (job : Job) (plan : Plan) (word : String) : Except Result Plan := do
  let (name, value) := match word.toList.span (· ≠ '=') with
    | (name, _ :: value) => (String.ofList name, some (String.ofList value))
    | (name, []) => (String.ofList name, none)
  let unknown : Except Result Plan :=
    .error (job.usage 1 ("unrecognized operand " ++ quoted word))
  match value with
  | none => unknown
  | some value =>
      let number : Except Result (Nat × Bool) := match number? value with
        | some number => .ok number
        | none => .error (job.fail 1 ("invalid number: " ++ quoted value))
      let size : Except Result Nat := do
        match ← number with
        | (0, _) => .error (job.fail 1 ("invalid number: " ++ quoted value))
        | (size, _) => .ok size
      let words (what : String) (known : List String) : Except Result (List String) :=
        let words := value.splitOn ","
        match words.find? fun word => !known.contains word with
        | some word => .error (job.usage 1 ("invalid " ++ what ++ ": " ++ quoted word))
        | none => .ok words
      match name with
      | "if" => return { plan with input := some value }
      | "of" => return { plan with output := some value }
      | "bs" => return { plan with both := some (← size) }
      | "ibs" => return { plan with inputBlock := ← size }
      | "obs" => return { plan with outputBlock := ← size }
      | "cbs" => return { plan with lineBlock := ← size }
      | "count" => return { plan with count := some (← number) }
      | "skip" | "iseek" => return { plan with skip := ← number }
      | "seek" | "oseek" => return { plan with seek := ← number }
      | "conv" =>
          return { plan with
            conversions := plan.conversions ++ (← words "conversion" knownConversions) }
      | "iflag" =>
          return { plan with inputFlags := plan.inputFlags ++ (← words "input flag" knownFlags) }
      | "oflag" =>
          return { plan with outputFlags := plan.outputFlags ++ (← words "output flag" knownFlags) }
      | "status" =>
          if ["none", "noxfer", "progress"].contains value then
            return { plan with status := value }
          else .error (job.usage 1 ("invalid status level: " ++ quoted value))
      | _ => unknown

/-- Exchanges every two neighbours. -/
def swapped : List Char → List Char
  | a :: b :: rest => b :: a :: swapped rest
  | rest => rest

/-- Lines as blocks of a size, filled up with blanks. -/
def blocked (size : Nat) (text : List Char) : List Char :=
  let lines := text.splitOn '\n'
  let lines := if lines.getLast? = some [] then lines.dropLast else lines
  lines.flatMap fun line => line.take size ++ List.replicate (size - line.length) ' '

/-- Blocks as lines, without the blanks at their ends. -/
def unblocked (size : Nat) : Nat → List Char → List Char
  | 0, _ | _, [] => []
  | fuel + 1, text =>
      ((text.take size).reverse.dropWhile (· = ' ')).reverse ++
        '\n' :: unblocked size fuel (text.drop size)

def converted (plan : Plan) (text : List Char) : List Char :=
  plan.conversions.foldl (fun text conversion => match conversion with
    | "ucase" => text.map Char.toUpper
    | "lcase" => text.map Char.toLower
    | "swab" => swapped text
    | "block" => if plan.lineBlock = 0 then text else blocked plan.lineBlock text
    | "unblock" =>
        if plan.lineBlock = 0 then text else unblocked plan.lineBlock (text.length + 1) text
    | _ => text) text

/-- The sets of conversions of which only one can be meant. -/
def rivals : List (List String × String) :=
  [(["ascii", "ebcdic", "ibm"], "cannot combine any two of \x7bascii,ebcdic,ibm\x7d"),
    (["block", "unblock"], "cannot combine block and unblock"),
    (["lcase", "ucase"], "cannot combine lcase and ucase"),
    (["excl", "nocreat"], "cannot combine excl and nocreat")]

/-- The numbers of whole blocks and of others. -/
def records (size length : Nat) : String :=
  decimal (length / size) ++ "+" ++ (if length % size = 0 then "0" else "1") ++ " records "

/-- An amount of bytes, also with a unit where it is large. -/
def sizeText (size : Nat) : String :=
  let (small, unit) := Amount.shortened 1000 false size
  let (binary, other) := Amount.shortened 1024 false size
  let letter (c : Char) : String := (if c = 'K' then 'k' else c).toString
  decimal size ++ " byte" ++ (if size = 1 then "" else "s") ++ match unit, other with
    | some unit, some other =>
        " (" ++ small ++ " " ++ letter unit ++ "B, " ++ binary ++ " " ++ other.toString ++ "iB)"
    | some unit, none => " (" ++ small ++ " " ++ letter unit ++ "B)"
    | none, _ => ""

/-- The place where the output goes, after it was made if it has to be. -/
def openOutput (plan : Plan) (tree : FileTree) (path : String) : Except FileError FileTree :=
  let text := Octets.toText path
  let there := (tree.resolve text).isOk
  if plan.conversions.contains "excl" && there then .error .alreadyThere
  else if plan.conversions.contains "nocreat" && !there then .error .notFound
  else match tree.openForWriting text with
    | .error error => .error error
    | .ok (_, none) => match tree.write text [] with
        | (.ok (), tree) => .ok tree
        | (.error error, _) => .error error
    | .ok _ => .ok tree

end Blocks

open Blocks in
def dd (job : Job) : Result :=
  let words := job.arguments.filter (· ≠ "--")
  let read : Except Result Plan := do
    let plan ← words.foldlM (operand job) Plan.start
    match rivals.find? fun (names, _) =>
      1 < (names.filter plan.conversions.contains).length with
    | some (_, message) => .error (job.fail 1 message)
    | none => .ok plan
  match job.arguments.find? fun word => word.startsWith "-" && word ≠ "--", read with
  | some option, _ =>
      if option.startsWith "--" then job.usage 1 ("unrecognized option " ++ quoted option)
      else job.usage 1 ("invalid option -- " ++
        quoted (String.ofList ((option.toList.drop 1).take 1)))
  | none, .error result => result
  | none, .ok plan =>
      let block := plan.both.getD plan.inputBlock
      let units (size : Nat) (number : Nat × Bool) (flags : List String) (flag : String) : Nat :=
        if number.2 || flags.contains flag then number.1 else number.1 * size
      let skip := units block plan.skip plan.inputFlags "skip_bytes"
      let outputBlock := plan.both.getD plan.outputBlock
      let seek := units outputBlock plan.seek plan.outputFlags "seek_bytes"
      let count := plan.count.map fun count => units block count plan.inputFlags "count_bytes"
      let most := (count.map (skip + ·)).getD FileTree.mostZeros
      let opened : Except (String × FileError) FileTree := do
        if let some path := plan.input then
          match job.tree.resolve (Octets.toText path) with
          | .ok _ => pure ()
          | .error error => .error (path, error)
        match plan.output with
        | some path => (openOutput plan job.tree path).mapError (path, ·)
        | none => .ok job.tree
      match opened with
      | .error (path, error) =>
          job.fail 1 ("failed to open " ++ named path ++ ": " ++ reason error)
      | .ok tree =>
          let name := plan.input.getD "standard input"
          let content : Except FileError (List Char) := match plan.input with
            | some path => do
                let bytes ← job.tree.readUpTo most (Octets.toText path)
                return bytes.map Octets.toChar
            | none => job.readFile "-"
          job.perform false do
            Task.setTree tree
            let mut text : List Char := []
            match content with
            | .ok content =>
                if content.length < skip then
                  job.warn (shown name ++ ": cannot skip to specified offset")
                let rest := content.drop skip
                text := (count.map rest.take).getD rest
                if plan.input.isNone then
                  let taken := min content.length (skip + text.length)
                  modify fun result => { result with taken }
            | .error error =>
                job.complain ("error reading " ++ named name ++ ": " ++ reason error)
            let padded := if plan.conversions.contains "sync" && text.length % block ≠ 0 then
                let pad := if plan.conversions.any ["block", "unblock"].contains then ' '
                  else '\x00'
                text ++ List.replicate (block - text.length % block) pad
              else text
            let written := converted plan padded
            match plan.output with
            | none => Task.print (String.ofList written)
            | some path =>
                let place := Octets.toText path
                let before := (tree.read place).toOption.getD []
                let keeps := plan.conversions.contains "notrunc"
                let seek := if plan.outputFlags.contains "append" then before.length else seek
                let kept := if keeps then before else before.take seek
                let bytes := written.map Octets.ofChar
                let content := Script.World.overwrite kept bytes seek
                let tree ← Task.tree
                match tree.item? ((tree.resolve place).toOption.map Prod.fst |>.getD []) with
                | some (.device _) => Task.setTree (tree.write place bytes).2
                | _ => Task.setTree (tree.write place content).2
            if plan.status ≠ "none" then
              let outputSize := if plan.both.isSome then block else outputBlock
              let lines := [records block text.length ++ "in",
                records outputSize written.length ++ "out"]
              let rate := Amount.shortened 1000 false (written.length * 10000)
              let unit := (rate.2.map fun c => if c = 'K' then 'k' else c).getD 'k'
              let last := sizeText written.length ++ " copied, 0.0001 s, " ++ rate.1 ++ " " ++
                unit.toString ++ "B/s"
              let lines := if plan.status = "noxfer" then lines else lines ++ [last]
              let piece : Piece := ⟨true, joinLines lines⟩
              modify fun result => { result with pieces := result.pieces ++ [piece] }

end CatalogSeed.Utility
