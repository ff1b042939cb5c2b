import CatalogSeed.Utility.Amount

/-!
Utilities that show the lines of files, or count them.
-/

namespace CatalogSeed.Utility

/-- The lines of a text, each with the line end that it has; the last may have none. -/
def linesOf (text : List Char) : List (List Char) :=
  let (lines, last) := text.foldl (fun (lines, line) c =>
    if c = '\n' then (('\n' :: line).reverse :: lines, []) else (lines, c :: line))
    (([], []) : List (List Char) × List Char)
  (if last = [] then lines else last.reverse :: lines).reverse

def hasEnd (line : List Char) : Bool :=
  line.getLast? = some '\n'

/-- A line without its end. -/
def chop (line : List Char) : List Char :=
  if hasEnd line then line.dropLast else line

/-- The lines of a text without their ends. -/
def bareLines (text : List Char) : List String :=
  (linesOf text).map fun line => String.ofList (chop line)

/-- A text of lines. -/
def joinLines (lines : List String) : String :=
  String.join (lines.map (· ++ "\n"))

namespace Job

/-- Works on files one by one; those that cannot be read are complained about. -/
def overFiles (job : Job) (names : List String) (opening : String → String) (status : Nat)
    (render : String → List Char → String) : Result :=
  let names := if names = [] then ["-"] else names
  let work (name : String) : Piece × Nat := match job.readFile name with
    | .ok content => (⟨false, render name content⟩, 0)
    | .error error => (job.complaint (opening name ++ ": " ++ reason error), status)
  let done := names.map work
  job.written (done.map Prod.fst) ((done.map Prod.snd).foldl max 0) (names.contains "-")

/-- All of some files, and the complaints about those that cannot be read. -/
def gather (job : Job) (names : List String) (opening : String → String) :
    List Char × List Piece :=
  let names := if names = [] then ["-"] else names
  let work (name : String) : List Char × List Piece := match job.readFile name with
    | .ok content => (content, [])
    | .error error => ([], [job.complaint (opening name ++ ": " ++ reason error)])
  let done := names.map work
  (done.flatMap Prod.fst, done.flatMap Prod.snd)

/-- Works on all files together. -/
def overAll (job : Job) (names : List String) (opening : String → String) (status : Nat)
    (render : List Char → String) : Result :=
  let (text, complaints) := job.gather names opening
  job.written (complaints ++ [⟨false, render text⟩]) (if complaints.isEmpty then 0 else status)
    (names.isEmpty || names.contains "-")

end Job

/-- How control characters and bytes beyond ASCII are shown. -/
def visible (c : Char) : List Char :=
  let n := c.toNat
  if n < 32 then ['^', Char.ofNat (n + 64)]
  else if n = 127 then ['^', '?']
  else if n < 128 then [c]
  else
    let low := n - 128
    ['M', '-'] ++
      if low < 32 then ['^', Char.ofNat (low + 64)]
      else if low = 127 then ['^', '?']
      else [Char.ofNat low]

def padLeft (width : Nat) (text : String) : String :=
  String.ofList (List.replicate (width - text.length) ' ') ++ text

/-- Numbers lines, all or those that are not empty, and shows them. -/
def numberLines (all : Bool) (showLine : List Char → List Char) :
    Nat → List (List Char) → List String
  | _, [] => []
  | number, line :: rest =>
      let text := String.ofList (showLine line)
      if all || chop line ≠ [] then
        (padLeft 6 (decimal number) ++ "\t" ++ text) ::
          numberLines all showLine (number + 1) rest
      else text :: numberLines all showLine number rest

/-- Drops empty lines that stand behind empty lines. -/
def squeezeLines : Bool → List (List Char) → List (List Char)
  | _, [] => []
  | empty, line :: rest =>
      let now := chop line = []
      if empty && now then squeezeLines true rest else line :: squeezeLines now rest

def cat (job : Job) : Result :=
  let long := [("number", "n", false), ("number-nonblank", "b", false),
    ("squeeze-blank", "s", false), ("show-ends", "E", false), ("show-tabs", "T", false),
    ("show-all", "A", false), ("show-nonprinting", "v", false)]
  match job.call "nbsETAvetu" "" long false 1 with
  | .error result => result
  | .ok call =>
      let ends := call.has ["E", "A", "e"]
      let tabs := call.has ["T", "A", "t"]
      let controls := call.has ["v", "A", "e", "t"]
      let showLine (line : List Char) : List Char :=
        let body := (chop line).flatMap fun c =>
          if c = '\t' then (if tabs then ['^', 'I'] else ['\t'])
          else if controls then visible c else [c]
        body ++ (if hasEnd line then (if ends then ['$', '\n'] else ['\n']) else [])
      let render (text : List Char) : String :=
        if call.options.all fun (name, _) => name = "u" then String.ofList text
        else
          let lines := linesOf text
          let lines := if call.has ["s"] then squeezeLines false lines else lines
          if call.has ["b"] then String.join (numberLines false showLine 1 lines)
          else if call.has ["n"] then String.join (numberLines true showLine 1 lines)
          else String.ofList (lines.flatMap showLine)
      job.perform (call.files.contains "-") do
        let mut before : List Char := []
        for name in call.files do
          match job.readFile name with
          | .error error => job.complain (shown name ++ ": " ++ reason error)
          | .ok content =>
              if content ≠ [] && job.isOutput name then
                job.complain (shown name ++ ": input file is output file")
              else
                let whole := before ++ content
                let done := if before = [] then 0 else (render before).length
                Task.print (String.ofList ((render whole).toList.drop done))
                before := whole

def tac (job : Job) : Result :=
  match job.call "" "" [] false 1 with
  | .error result => result
  | .ok call =>
      job.overFiles call.operands (fun name => "failed to open " ++ named name ++ " for reading") 1
        fun _ content => String.ofList (linesOf content).reverse.flatten

def rev (job : Job) : Result :=
  job.withOptions "0" fun call =>
  job.overFiles call.operands (fun name => "cannot open " ++ name) 1 fun _ content =>
    String.ofList ((linesOf content).flatMap fun line =>
      (chop line).reverse ++ if hasEnd line then ['\n'] else [])

/-- A count with a sign in front and a unit behind. -/
structure Count where
  sign : Option Char
  value : Nat

def Count.parse? (text : String) : Option Count :=
  let (sign, body) := match text.toList with
    | '-' :: body => (some '-', body)
    | '+' :: body => (some '+', body)
    | body => (none, body)
  (Amount.parse? (String.ofList body)).map (⟨sign, ·⟩)

/-- An old-style count as the first option, in today's spelling; or a letter that such a count
cannot have behind it. -/
def spellOut (letters : String) (arguments : List String) : Except Char (List String) :=
  match arguments with
  | first :: rest =>
      match first.toList with
      | '-' :: digit :: more =>
          if digit.isDigit then
            let (digits, behind) := (digit :: more).span Char.isDigit
            match behind.find? fun c => !letters.contains c with
            | some letter => .error letter
            | none =>
                let kind := if behind.contains 'c' then "-c" else "-n"
                let others := (behind.filter fun c => "qvf".contains c).map fun c =>
                  "-" ++ c.toString
                .ok (kind :: String.ofList digits :: others ++ rest)
          else .ok arguments
      | _ => .ok arguments
  | [] => .ok []

/-- The same where only one file may follow, and a count may stand behind a plus sign. -/
def spellOutOne (arguments : List String) : Except String (List String) :=
  match arguments with
  | first :: rest =>
      match first.toList with
      | sign :: digit :: more =>
          let (digits, behind) := (digit :: more).span Char.isDigit
          if digits = [] ∨ (sign ≠ '-' ∧ sign ≠ '+') ∨ (sign = '+' ∧ 1 < rest.length) then
            .ok arguments
          else if behind.any fun c => !"cflb".contains c then .ok arguments
          else if 1 < rest.length then .error (String.ofList digits)
          else
            let plus := if sign = '+' then "+" else ""
            .ok ((if behind.contains 'c' then "-c" else "-n") ::
              (plus ++ String.ofList digits) :: rest)
      | _ => .ok arguments
  | [] => .ok []

/-- Shows a part of each file, under headings if there are several. -/
def showParts (job : Job) (call : Call) (most : Nat) (part : List Char → List Char) : Result :=
  let names := call.files
  let headings := (1 < names.length && !call.has ["q"]) || call.has ["v"]
  let heading (index : Nat) (name : String) : String :=
    if headings then
      (if index = 0 then "" else "\n") ++ "==> " ++
        (if name = "-" then "standard input" else name) ++ " <==\n"
    else ""
  let work (before : Nat × List Piece × Nat) (name : String) : Nat × List Piece × Nat :=
    let (shown, pieces, status) := before
    match job.readUpTo most name with
    | .ok content =>
        let text := heading shown name ++ String.ofList (part content)
        (shown + 1, pieces ++ [⟨false, text⟩], status)
    | .error .isDirectory =>
        let complaint := job.complaint ("error reading " ++ named name ++ ": Is a directory")
        (shown + 1, pieces ++ [⟨false, heading shown name⟩, complaint], 1)
    | .error error =>
        let message := "cannot open " ++ named name ++ " for reading: " ++ reason error
        (shown, pieces ++ [job.complaint message], 1)
  let (_, pieces, status) := names.foldl work (0, [], 0)
  job.written pieces status (names.contains "-")

def countOptions : List (String × String × Bool) :=
  [("lines", "n", true), ("bytes", "c", true), ("quiet", "q", false), ("silent", "q", false),
    ("verbose", "v", false)]

def head (job : Job) : Result :=
  let call : Except Result Call := match spellOut "cqvbkm" job.arguments with
    | .error letter => .error (job.usage 1 ("invalid trailing option -- " ++ letter.toString))
    | .ok arguments => { job with arguments }.call "qvz" "nc" countOptions false 1
  match call with
  | .error result => result
  | .ok call =>
      let bytes := call.value? ["c"]
      let text := (bytes.or (call.value? ["n"])).getD "10"
      match Count.parse? text with
      | none =>
          let unit := if bytes.isSome then "bytes" else "lines"
          job.fail 1 ("invalid number of " ++ unit ++ ": " ++ quoted text)
      | some count =>
          let part (content : List Char) : List Char :=
            if bytes.isSome then
              if count.sign = some '-' then content.take (content.length - count.value)
              else content.take count.value
            else
              let lines := linesOf content
              let kept := if count.sign = some '-' then lines.length - count.value
                else count.value
              (lines.take kept).flatten
          let wanted := (part job.input).length
          let taken := if !call.files.contains "-" then 0
            else if count.sign = some '-' && job.inputKind ≠ .file then job.input.length
            else job.taken (if bytes.isSome then 1 else 8192) wanted
          let most := if bytes.isSome then count.value else FileTree.mostZeros
          { showParts job call most part with taken }

def tail (job : Job) : Result :=
  let call : Except Result Call := match spellOutOne job.arguments with
    | .error digits => .error (job.fail 1 ("option used in invalid context -- " ++ digits))
    | .ok arguments => { job with arguments }.call "qvzfF" "nc" countOptions false 1
  match call with
  | .error result => result
  | .ok call =>
      let bytes := call.value? ["c"]
      let text := (bytes.or (call.value? ["n"])).getD "10"
      match Count.parse? text with
      | none =>
          let unit := if bytes.isSome then "bytes" else "lines"
          job.fail 1 ("invalid number of " ++ unit ++ ": " ++ quoted text)
      | some count =>
          let dropped (size : Nat) : Nat :=
            if count.sign = some '+' then count.value - 1 else size - count.value
          showParts job call FileTree.mostZeros fun content =>
            if bytes.isSome then content.drop (dropped content.length)
            else
              let lines := linesOf content
              (lines.drop (dropped lines.length)).flatten

def isSpace (c : Char) : Bool :=
  c = ' ' || 9 ≤ c.toNat && c.toNat ≤ 13

/-- How many words a text has. -/
def countWords (text : List Char) : Nat :=
  (text.foldl (fun (count, inside) c =>
    if isSpace c then (count, false) else (if inside then count else count + 1, true))
    ((0, false) : Nat × Bool)).1

def wc (job : Job) : Result :=
  let long := [("lines", "l", false), ("words", "w", false), ("bytes", "c", false),
    ("chars", "m", false), ("max-line-length", "L", false)]
  match job.call "lwcmL" "" long false 1 with
  | .error result => result
  | .ok call =>
      let kinds := "lwmcL".toList.filter fun c => call.has [c.toString]
      let kinds := if kinds = [] then "lwc".toList else kinds
      let counts (text : List Char) : List Nat := kinds.map fun c =>
        match c with
        | 'l' => text.count '\n'
        | 'w' => countWords text
        | 'L' => ((linesOf text).map fun line => (chop line).length).foldl max 0
        | _ => text.length
      let names := call.files
      let contents := names.map fun name => (name, job.readFile name)
      let contents := contents.map fun (name, content) =>
        match content with
        | .error .isDirectory => (name, .ok [], true)
        | content => (name, content, false)
      let good := contents.filterMap fun (_, content, _) => content.toOption
      let sizes := good.map List.length
      let regular := contents.all fun (name, _, isDirectory) =>
        !isDirectory && (name ≠ "-" || job.inputKind = .file)
      let least := if regular then 1 else 7
      let total := sizes.foldl (· + ·) 0
      let width :=
        if names.length = 1 ∧ kinds.length = 1 then 0
        else max least (decimal total).length
      let line (counts : List Nat) (name : String) : String :=
        " ".intercalate (counts.map fun count => padLeft width (decimal count)) ++
          (if name = "-" ∧ call.operands = [] then "" else " " ++ name) ++ "\n"
      let pieces := contents.flatMap fun (name, content, isDirectory) => match content with
        | .ok text =>
            (if isDirectory then [job.complaint (shown name ++ ": Is a directory")] else []) ++
              [(⟨false, line (counts text) name⟩ : Piece)]
        | .error error => [job.complaint (shown name ++ ": " ++ reason error)]
      let sums := (good.map counts).foldl (fun sums counts => List.zipWith (· + ·) sums counts)
        (kinds.map fun _ => 0)
      let totals : List Piece := if names.length ≤ 1 then [] else [⟨false, line sums "total"⟩]
      let isGood (entry : String × Except FileError (List Char) × Bool) : Bool :=
        entry.2.1.isOk && !entry.2.2
      let status := if contents.all isGood then 0 else 1
      job.written (pieces ++ totals) status (names.contains "-")

def nl (job : Job) : Result :=
  match job.call "" "bw" [] false 1 with
  | .error result => result
  | .ok call =>
      let all := call.value? ["b"] = some "a"
      job.overAll call.operands shown 1 fun text =>
        let rec number : Nat → List (List Char) → List String
          | _, [] => []
          | n, line :: rest =>
              if all || chop line ≠ [] then
                (padLeft 6 (decimal n) ++ "\t" ++ String.ofList (chop line) ++ "\n") ::
                  number (n + 1) rest
              else ("       " ++ String.ofList (chop line) ++ "\n") :: number n rest
        String.join (number 1 (linesOf text))

end CatalogSeed.Utility
