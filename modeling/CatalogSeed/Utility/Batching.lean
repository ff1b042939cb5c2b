import CatalogSeed.Utility.Numbers
import CatalogSeed.Utility.Plan

/-!
Calls made of words from a text: how the text is parted into words and lines, and how many of them
go into one call.
-/

namespace CatalogSeed.Utility

namespace Batch

/-- What is found in a text, one after the other. -/
inductive Piece
  | word (text : String)
  | lineEnd
  | unmatched (quote : Char)

/-- Reads words up to the end of the text, or to a word that counts as its end. Blanks part words
unless `whole` lines are wanted; quotes and backslashes take their meaning from characters. `word`
is what was read of a word, backwards, and `first` tells that it is the first of its line. -/
def pieces (whole : Bool) (ending : Option String) :
    Nat → List Char → Option (List Char) → Bool → List Piece
  | 0, _, _, _ => []
  | fuel + 1, text, word, first =>
      let known := word.getD []
      let found := String.ofList (known.reverse.takeWhile (· ≠ '\x00'))
      let finish (rest : List Piece) : List Piece :=
        if ending = some found then [] else .word found :: rest
      match text with
      | [] | ['\\'] => if known = [] then [] else if first then finish [] else [.word found]
      | '\\' :: c :: rest => pieces whole ending fuel rest (some (c :: known)) first
      | c :: rest =>
          if word = none ∧ isSpace c then pieces whole ending fuel rest none first
          else if c = '\n' then finish (.lineEnd :: pieces whole ending fuel rest none true)
          else if !whole ∧ (c = ' ' ∨ c = '\t') then
            finish (pieces whole ending fuel rest none false)
          else if c = '\'' ∨ c = '"' then
            let (inside, behind) := rest.span fun d => d ≠ c && d ≠ '\n'
            match behind with
            | d :: later =>
                if d = c then
                  pieces whole ending fuel later (some (inside.reverse ++ known)) first
                else [.unmatched c]
            | [] => if inside ++ known = [] then [] else [.unmatched c]
          else pieces whole ending fuel rest (some (c :: known)) first

/-- The pieces of a text that only one character parts. -/
def parted (delimiter : Char) (text : List Char) : List Piece :=
  let parts := text.splitOn delimiter
  let parts := if parts.getLast? = some [] then parts.dropLast else parts
  parts.flatMap fun part =>
    [.word (String.ofList (part.takeWhile (· ≠ '\x00'))), .lineEnd]

/-- Reads the character that is to part words, or tells what is wrong with it. -/
def delimiter? (text : String) : Except String Char :=
  let wrong (more : String) : Except String Char :=
    .error ("Invalid escape sequence " ++ text ++ " in input delimiter specification" ++ more)
  let number (base : Nat) (digits : List Char) : Except String Char :=
    let (known, rest) := digits.span fun c =>
      if base = 8 then '0' ≤ c && c ≤ '7' else c.isDigit || ('a' ≤ c.toLower && c.toLower ≤ 'f')
    let digit (c : Char) : Nat := if c.isDigit then c.toNat - 48 else c.toLower.toNat - 87
    let value := known.foldl (fun value c => base * value + digit c) 0
    if 255 < value then
      wrong ("; character values must not exceed " ++
        String.ofList (Nat.toDigits base 255) ++ ".")
    else if rest ≠ [] then
      wrong ("; trailing characters " ++ String.ofList rest ++ " not recognised.")
    else .ok (Char.ofNat value)
  match text.toList with
  | [c] => .ok c
  | '\\' :: c :: rest =>
      let named := [('a', '\x07'), ('b', '\x08'), ('f', '\x0c'), ('n', '\n'), ('r', '\x0d'),
        ('t', '\t'), ('v', '\x0b'), ('\\', '\\')]
      if c = 'x' then number 16 rest
      else if c.isDigit then number 8 (c :: rest)
      else match named.lookup c with
        | some named => .ok named
        | none => wrong "."
  | _ => .error ("Invalid input delimiter specification " ++ text ++ ": the delimiter must be " ++
      "either a single character or an escape sequence starting with \\.")

end Batch

/-- How words are gathered for calls: so many lines, words and characters at most go into one. -/
structure Batch where
  /-- What parts the words, where that is not for blanks to say. -/
  delimiter : Option Char
  ending : Option String
  /-- The mark that a whole line takes the place of. -/
  mark : Option String
  lines : Option Nat
  words : Option Nat
  room : Nat
  /-- Whether all that was gathered is given up when it does not fit. -/
  strict : Bool
  /-- Whether there is no call without words. -/
  needsWords : Bool
  command : List String

/-- The calls so far, the latest first, and what is there for the next one. -/
structure Gathering where
  calls : List (List String)
  words : List String
  room : Nat
  lines : Nat
  failure : Option String

/-- How much room words take in a call. -/
def roomOf (words : List String) : Nat :=
  words.foldl (fun room word => room + word.length + 1) 0

/-- A text with another one in the place of a mark. -/
def fillMark (mark filling text : String) : String :=
  if mark = "" then text else filling.intercalate (text.splitOn mark)

namespace Gathering

/-- Makes a call of what is there. -/
def call (gathering : Gathering) (batch : Batch) : Gathering :=
  { gathering with
    calls := (batch.command ++ gathering.words.reverse) :: gathering.calls
    words := [], room := roomOf batch.command }

def fail (gathering : Gathering) (message : String) : Gathering :=
  { gathering with failure := some message }

/-- Takes up another word. -/
def addWord (gathering : Gathering) (batch : Batch) (word : String) : Gathering :=
  let tooLong := gathering.room + word.length + 1 > batch.room
  if tooLong && batch.strict && (batch.lines.isSome || batch.words.isSome) then
    gathering.fail "argument list too long"
  else
    let gathering := if tooLong then gathering.call batch else gathering
    let gathering := { gathering with
      words := word :: gathering.words, room := gathering.room + word.length + 1 }
    if batch.words = some gathering.words.length then gathering.call batch else gathering

/-- Takes up the next piece of the text. -/
def add (batch : Batch) (gathering : Gathering) (piece : Batch.Piece) : Gathering :=
  let closed := if gathering.words = [] || batch.strict then gathering else gathering.call batch
  if gathering.failure.isSome then gathering
  else match piece with
    | .unmatched quote =>
        let kind := if quote = '"' then "double" else "single"
        closed.fail ("unmatched " ++ kind ++ " quote; by default quotes are special to xargs " ++
          "unless you use the -0 option")
    | .lineEnd =>
        let lines := gathering.lines + 1
        match batch.lines with
        | some most =>
            if most ≤ lines then { gathering.call batch with lines := 0 }
            else { gathering with lines }
        | none => gathering
    | .word word =>
        if roomOf batch.command + word.length + 1 > batch.room then
          closed.fail "argument line too long"
        else match batch.mark with
          | none => gathering.addWord batch word
          | some mark =>
              let words := batch.command.take 1 ++
                (batch.command.drop 1).map (fillMark mark word)
              { gathering with calls := words :: gathering.calls }

end Gathering

namespace Batch

/-- The calls for a text, and why there are no more. -/
def calls (batch : Batch) (text : List Char) : List (List String) × Option String :=
  let found := match batch.delimiter with
    | some delimiter => parted delimiter text
    | none => pieces batch.mark.isSome batch.ending (text.length + 1) text none true
  let empty : Gathering := ⟨[], [], roomOf batch.command, 0, none⟩
  if batch.room < empty.room then
    ([], some "cannot fit single argument within argument list size limit")
  else
    let gathered := found.foldl (Gathering.add batch) empty
    let wanted := gathered.words ≠ [] || (gathered.calls = [] && !batch.needsWords)
    let gathered := if gathered.failure.isNone && batch.mark.isNone && wanted
      then gathered.call batch else gathered
    (gathered.calls.reverse, gathered.failure)

/-- The room for one call if nothing else is said, and the most that there can be. -/
def usualRoom : Nat := 131072
def mostRoom : Nat := 2092986

/-- Takes up an option with its value, and tells what is to be said about it. -/
def withOption (job : Job) (batch : Batch) (name value : String) :
    Except Result (Batch × List String) :=
  let number (most : Option Nat) : Except Result (Nat × List String) :=
    match Script.number? false value with
    | none =>
        .error (job.usage 1 ("invalid number \"" ++ value ++ "\" for -" ++ name ++ " option"))
    | some found =>
        let wrong (bound : String) : String :=
          "value " ++ value ++ " for -" ++ name ++ " option should be " ++ bound
        let least : Int := if name = "P" then 0 else 1
        if found < least then
          let message := wrong (">= " ++ decimal least.toNat)
          if name = "s" then .ok (1, [message]) else .error (job.usage 1 message)
        else match most with
          | some most =>
              if most < found.toNat then .ok (most, [wrong ("<= " ++ decimal most)])
              else .ok (found.toNat, [])
          | none => .ok (found.toNat, [])
  let exclusive (isSet : Bool) (before after : String) : List String :=
    if isSet then ["warning: options " ++ before ++ " and " ++ after ++
      " are mutually exclusive, ignoring previous " ++ before ++ " value"] else []
  let lines := exclusive batch.lines.isSome "--max-lines"
  let words := exclusive batch.words.isSome "--max-args"
  let mark := exclusive batch.mark.isSome "--replace"
  match name with
  | "0" => .ok ({ batch with delimiter := some '\x00' }, [])
  | "d" =>
      match delimiter? value with
      | .ok delimiter => .ok ({ batch with delimiter := some delimiter }, [])
      | .error message => .error (job.fail 1 message)
  | "E" => .ok ({ batch with ending := if value = "" then none else some value }, [])
  | "I" =>
      let after := "--replace/-I/-i"
      .ok ({ batch with mark := some value, lines := none, words := none },
        words after ++ lines after)
  | "L" | "l" => do
      let after := if name = "L" then "-L" else "--max-lines/-l"
      let (count, said) ← number none
      .ok ({ batch with lines := some count, words := none, mark := none },
        said ++ words after ++ mark after)
  | "n" => do
      let after := "--max-args/-n"
      let (count, said) ← number none
      if count = 1 ∧ batch.mark.isSome then .ok (batch, said ++ lines after)
      else .ok ({ batch with words := some count, lines := none, mark := none },
        said ++ lines after ++ mark after)
  | "s" => do
      let (room, said) ← number (some mostRoom)
      .ok ({ batch with room }, said)
  | "P" => do
      let (_, said) ← number none
      .ok (batch, said)
  | "r" => .ok ({ batch with needsWords := true }, [])
  | "x" => .ok ({ batch with strict := true }, [])
  | _ => .ok (batch, [])

/-- Takes up options one after the other. -/
def withOptions (job : Job) :
    Batch → List String → List (String × String) → Except Result (Batch × List String)
  | batch, said, [] => .ok (batch, said)
  | batch, said, (name, value) :: rest =>
      match withOption job batch name value with
      | .ok (batch, more) => withOptions job batch (said ++ more) rest
      | .error result =>
          let before := said.map job.complaint
          .error { result with pieces := before ++ result.pieces }

/-- Letters with options whose values can be left out, written with a value. -/
def spelled : List Char → List String × Bool
  | [] => ([], false)
  | 'i' :: rest => (["-I", if rest = [] then "\x7b\x7d" else String.ofList rest], false)
  | 'e' :: rest => (["-E", String.ofList rest], false)
  | 'l' :: rest => (["-l", if rest = [] then "1" else String.ofList rest], false)
  | c :: rest =>
      if "adEILnPs".contains c then ([String.ofList ('-' :: c :: rest)], rest = [])
      else
        let (words, waits) := spelled rest
        (String.ofList ['-', c] :: words, waits)

/-- The words in front of a command, with all values that can be left out. -/
def spelledAll : List String → List String
  | [] => []
  | "--replace" :: rest => "-I" :: "\x7b\x7d" :: spelledAll rest
  | "--max-lines" :: rest => "-l" :: "1" :: spelledAll rest
  | "--eof" :: rest => "-E" :: "" :: spelledAll rest
  | word :: rest =>
      match word.toList with
      | '-' :: '-' :: name =>
          let takes := ["max-args", "max-chars", "max-procs", "arg-file", "delimiter",
            "process-slot-var"].contains (String.ofList name)
          if name = [] then word :: rest
          else if takes then word :: rest.take 1 ++ spelledAll (rest.drop 1)
          else word :: spelledAll rest
      | '-' :: c :: letters =>
          let (words, waits) := spelled (c :: letters)
          if waits then words ++ rest.take 1 ++ spelledAll (rest.drop 1)
          else words ++ spelledAll rest
      | _ => word :: rest
termination_by words => words.length
decreasing_by all_goals (simp only [List.length_cons, List.length_drop]; omega)

end Batch

def xargsPlan (job : Job) : Except Result Plan := do
  let long := [("null", "0", false), ("arg-file", "a", true), ("delimiter", "d", true),
    ("eof", "E", true), ("replace", "I", true), ("max-lines", "l", true), ("max-args", "n", true),
    ("open-tty", "o", false), ("interactive", "p", false), ("no-run-if-empty", "r", false),
    ("max-chars", "s", true), ("verbose", "t", false), ("exit", "x", false),
    ("max-procs", "P", true), ("process-slot-var", "V", true)]
  let spelled := { job with arguments := Batch.spelledAll job.arguments }
  let call ← spelled.call "0oprtx" "adEILlnPs" long true 1
  let command := if call.operands = [] then ["echo"] else call.operands
  let usual : Batch := ⟨none, none, none, none, none, Batch.usualRoom, false, false, command⟩
  let (batch, said) ← Batch.withOptions job usual [] call.options
  let strict := batch.strict || batch.lines.isSome || batch.mark.isSome
  let batch := { batch with strict }
  let text ← match call.value? ["a"] with
    | none => .ok job.input
    | some name =>
        (job.readFile name).mapError fun error =>
          job.fail 1 ("Cannot open input file " ++ quoted name ++ ": " ++ reason error)
  let idle := if batch.ending.isSome && batch.delimiter.isSome then
      ["warning: the -E option has no effect if -0 or -d is used.\n"] else []
  let zeros := if batch.delimiter.isNone && text.contains '\x00' then
      ["WARNING: a NUL character occurred in the input.  It cannot be passed through in the " ++
        "argument list.  Did you mean to use the --null option?"] else []
  let (calls, failure) := batch.calls text
  let plan := { Plan.plain job [] with
    calls, failure, gathers := true, readsInput := (call.value? ["a"]).isNone
    warnings := said ++ idle ++ zeros, showsCalls := call.has ["t"]
    complaint := fun program error => job.name ++ ": " ++ program ++ ": " ++ reason error }
  if call.has ["p"] ∧ calls ≠ [] then
    let asked := " ".intercalate ((calls.headD []).map shown)
    let refused := job.complaint
      "failed to open /dev/tty for reading: No such device or address"
    .error (job.written [⟨true, asked⟩, refused] 1 plan.readsInput)
  else .ok plan

end CatalogSeed.Utility
