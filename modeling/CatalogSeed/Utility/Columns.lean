import CatalogSeed.Utility.Lines

/-!
Utilities that work on the parts of lines: they pick columns, put lines side by side, or break
lines that are too long.
-/

namespace CatalogSeed.Utility

/-- Columns from a first to a last one, if there is a last one. -/
structure Span where
  first : Nat
  last : Option Nat

def Span.contains (span : Span) (column : Nat) : Bool :=
  span.first ≤ column && span.last.all (column ≤ ·)

/-- Reads a list of columns. -/
def spansOf (fields : Bool) (text : String) : Except String (List Span) :=
  let number (digits : List Char) : Nat :=
    digits.foldl (fun value c => 10 * value + (c.toNat - 48)) 0
  let zero := if fields then "fields are numbered from 1"
    else "byte/character positions are numbered from 1"
  let one (item : List Char) : Except String Span :=
    let invalid := "invalid " ++ (if fields then "field value " else "byte/character position ") ++
      quoted (String.ofList item)
    match item.span Char.isDigit with
    | ([], []) => .error zero
    | (digits, []) =>
        if number digits = 0 then .error zero
        else .ok ⟨number digits, some (number digits)⟩
    | (first, '-' :: rest) =>
        if !rest.all Char.isDigit then .error invalid
        else if first = [] ∧ rest = [] then .error "invalid range with no endpoint: -"
        else if first ≠ [] ∧ number first = 0 then .error zero
        else if rest = [] then .ok ⟨number first, none⟩
        else if number rest < (if first = [] then 1 else number first) then
          .error "invalid decreasing range"
        else .ok ⟨max 1 (number first), some (number rest)⟩
    | _ => .error invalid
  (text.toList.splitOnP fun c => c = ',' || c = ' ').mapM one

/-- The columns that are wanted, with a mark where a new run of neighbours begins. -/
def pick {α : Type} (wanted : Nat → Bool) (columns : List α) : List (Bool × α) :=
  let chosen := columns.zipIdx 1 |>.filter fun (_, column) => wanted column
  chosen.map fun (item, column) => (column = 1 || !wanted (column - 1), item)

def cut (job : Job) : Result :=
  let long := [("bytes", "b", true), ("characters", "c", true), ("fields", "f", true),
    ("delimiter", "d", true), ("only-delimited", "s", false), ("complement", "complement", false),
    ("output-delimiter", "output", true)]
  match job.call "sn" "bcfd" long false 1 with
  | .error result => result
  | .ok call =>
      let delimiter := call.value? ["d"]
      match call.values ["b", "c", "f"] with
      | [] => job.usage 1 "you must specify a list of bytes, characters, or fields"
      | [list] =>
          let fields := call.has ["f"]
          let mark := (delimiter.getD "\t").toList
          if !fields && delimiter.isSome then
            job.usage 1 "an input delimiter may be specified only when operating on fields"
          else if 1 < mark.length then
            job.usage 1 "the delimiter must be a single character"
          else match spansOf fields list with
            | .error message => job.usage 1 message
            | .ok spans =>
                let inside (column : Nat) : Bool := spans.any (·.contains column)
                let wanted (column : Nat) : Bool := inside column != call.has ["complement"]
                let mark := mark.headD '\x00'
                let joint := (call.value? ["output"]).getD (if fields then mark.toString else "")
                let line (line : List Char) : List String :=
                  if fields then
                    if !line.contains mark then
                      if call.has ["s"] then [] else [String.ofList line]
                    else
                      let chosen := (pick wanted (line.splitOn mark)).map Prod.snd
                      [joint.intercalate (chosen.map String.ofList)]
                  else
                    let chosen := pick wanted line
                    let text := chosen.zipIdx.flatMap fun ((new, c), index) =>
                      (if new && index ≠ 0 then joint.toList else []) ++ [c]
                    [String.ofList text]
                job.overFiles call.operands shown 1 fun _ content =>
                  joinLines ((linesOf content).flatMap fun whole => line (chop whole))
      | _ => job.usage 1 "only one list may be specified"

/-- The delimiters of a list, with escapes. -/
def delimitersOf : List Char → List String
  | '\\' :: 'n' :: rest => "\n" :: delimitersOf rest
  | '\\' :: 't' :: rest => "\t" :: delimitersOf rest
  | '\\' :: '0' :: rest => "" :: delimitersOf rest
  | '\\' :: '\\' :: rest => "\\" :: delimitersOf rest
  | c :: rest => c.toString :: delimitersOf rest
  | [] => []

/-- Joins texts with delimiters that take turns. -/
def joinInTurn (delimiters : List String) : Nat → List String → String
  | _, [] => ""
  | _, [last] => last
  | turn, first :: rest =>
      first ++ delimiters.getD (turn % max 1 delimiters.length) "" ++
        joinInTurn delimiters (turn + 1) rest

def paste (job : Job) : Result :=
  match job.call "s" "d" [("serial", "s", false), ("delimiters", "d", true)] false 1 with
  | .error result => result
  | .ok call =>
      let delimiters := delimitersOf ((call.value? ["d"]).getD "\t").toList
      let complaint? (name : String) : Option Piece := match job.readFile name with
        | .ok _ => none
        | .error error => some (job.complaint (shown name ++ ": " ++ reason error))
      let turns := call.files.count "-"
      let content (entry : String × Nat) : List String :=
        let lines := ((job.readFile entry.1).toOption.map bareLines).getD []
        if entry.1 = "-" ∧ 1 < turns then
          let turn := (call.files.take entry.2).count "-"
          let chosen := lines.zipIdx.filter fun (_, index) => index % turns = turn
          chosen.map Prod.fst
        else lines
      let serial := call.has ["s"]
      let complaints := call.files.filterMap complaint?
      if complaints ≠ [] && !serial then
        job.written (complaints.take 1) 1 false
      else
        let contents := call.files.zipIdx.map content
        let lines :=
          if serial then contents.map (joinInTurn delimiters 0)
          else
            let height := (contents.map List.length).foldl max 0
            (List.range height).map fun index =>
              joinInTurn delimiters 0 (contents.map fun lines => lines.getD index "")
        job.written (complaints ++ [⟨false, joinLines lines⟩]) (if complaints = [] then 0 else 1)
          (call.files.contains "-")

/-- Breaks a line into pieces of a width, behind a blank if there is one and this is wanted. -/
def foldLine (width : Nat) (atBlanks : Bool) : Nat → List Char → List String
  | 0, line => [String.ofList line]
  | fuel + 1, line =>
      if line.length ≤ width then [String.ofList line]
      else
        let front := line.take width
        let kept := (front.reverse.dropWhile (· ≠ ' ')).length
        let size := if atBlanks ∧ kept ≠ 0 then kept else width
        String.ofList (line.take size) :: foldLine width atBlanks fuel (line.drop size)

def fold (job : Job) : Result :=
  match job.call "bs" "w" [("width", "w", true), ("spaces", "s", false), ("bytes", "b", false)]
      false 1 with
  | .error result => result
  | .ok call =>
      let text := (call.value? ["w"]).getD "80"
      match text.toNat? with
      | none | some 0 => job.fail 1 ("invalid number of columns: " ++ quoted text)
      | some width =>
          job.overFiles call.operands shown 1 fun _ content =>
            String.join ((linesOf content).map fun line =>
              let body := chop line
              "\n".intercalate (foldLine width (call.has ["s"]) (body.length + 1) body) ++
                if hasEnd line then "\n" else "")

/-- Replaces tabs by as many blanks as lead to the next stop. -/
def expandTabs (width : Nat) : Nat → List Char → List Char
  | _, [] => []
  | column, c :: rest =>
      if c = '\t' then
        let blanks := width - column % width
        List.replicate blanks ' ' ++ expandTabs width (column + blanks) rest
      else c :: expandTabs width (if c = '\n' then 0 else column + 1) rest

def expand (job : Job) : Result :=
  match job.call "i" "t" [("tabs", "t", true), ("initial", "i", false)] false 1 with
  | .error result => result
  | .ok call =>
      let width := max 1 (((call.value? ["t"]).bind String.toNat?).getD 8)
      job.overFiles call.operands shown 1 fun _ content =>
        String.ofList (expandTabs width 0 content)

end CatalogSeed.Utility
