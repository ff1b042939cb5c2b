import CatalogSeed.Utility.Lines

/-!
Utilities that sort lines, drop repeated ones, or compare sorted files. Lines are in the order of
their bytes.
-/

namespace CatalogSeed.Utility

/-- One of the parts of a line that decide its place. Fields and characters count from one; the
last character zero stands for the end of its field. -/
structure SortKey where
  firstField : Nat
  firstChar : Nat
  lastField : Option Nat
  lastChar : Nat
  flags : List Char

namespace SortKey

def isBlank (c : Char) : Bool := c = ' ' || c = '\t' || c = '\n'

/-- How many characters some fields at the front of a line take up. -/
def afterFields (separator : Option Char) (line : List Char) : Nat → Nat
  | 0 => 0
  | count + 1 =>
      let before := afterFields separator line count
      let rest := line.drop before
      match separator with
      | some mark =>
          before + min rest.length ((rest.takeWhile (· ≠ mark)).length + 1)
      | none =>
          let blanks := (rest.takeWhile isBlank).length
          before + blanks + ((rest.drop blanks).takeWhile fun c => !isBlank c).length

def skipBlanks (line : List Char) (position : Nat) : Nat :=
  position + ((line.drop position).takeWhile isBlank).length

/-- The part of a line that a key names. -/
def part (key : SortKey) (separator : Option Char) (line : List Char) : List Char :=
  let start := afterFields separator line (key.firstField - 1)
  let start := if key.flags.contains 'b' then skipBlanks line start else start
  let start := start + (key.firstChar - 1)
  match key.lastField with
  | none => line.drop start
  | some field =>
      let stop :=
        if key.lastChar = 0 then
          let before := afterFields separator line (field - 1)
          match separator with
          | some mark => before + ((line.drop before).takeWhile (· ≠ mark)).length
          | none => afterFields none line field
        else
          let before := afterFields separator line (field - 1)
          let before := if key.flags.contains 'b' then skipBlanks line before else before
          before + key.lastChar
      (line.take stop).drop start

/-- Reads a key. -/
def parse (text : String) : Except String SortKey :=
  let number (digits : List Char) : Nat :=
    digits.foldl (fun value c => 10 * value + (c.toNat - 48)) 0
  let position (text : List Char) : List Char × Option (List Char) × List Char :=
    let (field, rest) := text.span Char.isDigit
    match rest with
    | '.' :: rest =>
        let (char, rest) := rest.span Char.isDigit
        (field, some char, rest)
    | rest => (field, none, rest)
  let flag (c : Char) : Bool := "bdfghinMrRV".toList.contains c
  let (field, char, rest) := position text.toList
  let (flags, rest) := rest.span flag
  if field = [] then
    .error ("invalid number at field start: invalid count at start of " ++ quoted text)
  else if number field = 0 then
    .error ("field number is zero: invalid field specification " ++ quoted text)
  else
    let first := number field
    let firstChar := (char.map number).getD 1
    match rest with
    | [] => .ok ⟨first, firstChar, none, 0, flags⟩
    | ',' :: behind =>
        let (field, char, rest) := position behind
        let (more, rest) := rest.span flag
        if field = [] then
          .error ("invalid number after ',': invalid count at start of " ++
            quoted (String.ofList behind))
        else if number field = 0 then
          .error ("field number is zero: invalid field specification " ++ quoted text)
        else if rest ≠ [] then
          .error ("stray character in field spec: invalid field specification " ++ quoted text)
        else .ok ⟨first, firstChar, some (number field), (char.map number).getD 0, flags ++ more⟩
    | _ => .error ("stray character in field spec: invalid field specification " ++ quoted text)

end SortKey

/-- The number that a text begins with: its sign, and its value in units of the tenth power that
its decimals need; and what stands behind. -/
def leadingNumber (text : List Char) : Int × Nat × List Char :=
  let (negative, body) := match text.dropWhile SortKey.isBlank with
    | '-' :: body => (true, body)
    | body => (false, body)
  let (whole, rest) := body.span Char.isDigit
  let (decimals, rest) := match rest with
    | '.' :: behind => behind.span Char.isDigit
    | rest => ([], rest)
  let value : Nat := (whole ++ decimals).foldl (fun value c => 10 * value + (c.toNat - 48)) 0
  (if negative then -(value : Int) else value, decimals.length, rest)

def compareNumbers (a b : List Char) : Ordering :=
  let (first, firstScale, _) := leadingNumber a
  let (second, secondScale, _) := leadingNumber b
  compare (first * (Nat.pow 10 secondScale : Nat)) (second * (Nat.pow 10 firstScale : Nat))

/-- How much the letter behind a number makes of it. -/
def magnitude (text : List Char) : Int :=
  let (value, _, rest) := leadingNumber text
  let letter := rest.headD ' '
  let found : Nat :=
    "KMGTPEZY".toList.findIdx fun c => c = letter || (c = 'K' && letter = 'k')
  let rank : Nat := if found = 8 ∨ value = 0 then 0 else found + 1
  if value < 0 then -(rank : Int) else rank

/-- Compares as versions: runs of digits by value, what is between them by its bytes. -/
def compareVersions : Nat → List Char → List Char → Ordering
  | 0, _, _ => .eq
  | _ + 1, [], [] => .eq
  | fuel + 1, a, b =>
      let text (chars : List Char) : List Char := chars.takeWhile fun c => !c.isDigit
      let weight (chars : List Char) : List Nat := chars.map fun c =>
        if c = '~' then 0 else if c.isAlpha then c.toNat else c.toNat + 256
      match compare (weight (text a) ++ [1]) (weight (text b) ++ [1]) with
      | .eq =>
          let (one, restOne) := (a.drop (text a).length).span Char.isDigit
          let (two, restTwo) := (b.drop (text b).length).span Char.isDigit
          match compareNumbers one two with
          | .eq => compareVersions fuel restOne restTwo
          | order => order
      | order => order

def compareTexts (a b : List Char) : Ordering :=
  compare (a.map Char.toNat) (b.map Char.toNat)

/-- Compares two parts of lines in the way that letters ask for. -/
def compareParts (flags : List Char) (a b : List Char) : Ordering :=
  let order :=
    if flags.contains 'n' || flags.contains 'g' then compareNumbers a b
    else if flags.contains 'h' then
      (compare (magnitude a) (magnitude b)).then (compareNumbers a b)
    else if flags.contains 'V' then compareVersions (a.length + b.length + 2) a b
    else
      let known (c : Char) : Bool :=
        !flags.contains 'd' || c.isAlphanum || SortKey.isBlank c
      let seen (text : List Char) : List Char :=
        let text := text.filter known
        if flags.contains 'f' then text.map Char.toUpper else text
      compareTexts (seen a) (seen b)
  if flags.contains 'r' then order.swap else order

/-- Compares lines by keys; keys without letters take those of the call. -/
def compareLines (separator : Option Char) (keys : List SortKey) (flags : List Char)
    (last : Bool) (a b : List Char) : Ordering :=
  let order := keys.foldl (fun order key =>
    let key := if key.flags.filter (· ≠ 'b') = [] then { key with flags := key.flags ++ flags }
      else key
    order.then (compareParts key.flags (key.part separator a) (key.part separator b))) .eq
  let order := if keys.isEmpty then
      let trimmed (line : List Char) : List Char :=
        if flags.contains 'b' then line.dropWhile SortKey.isBlank else line
      compareParts flags (trimmed a) (trimmed b)
    else order
  if last && order = .eq then
    if flags.contains 'r' then (compareTexts a b).swap else compareTexts a b
  else order

/-- Keeps the first of neighbours that are equal. -/
def dropEqual {α : Type} (same : α → α → Bool) : List α → List α
  | [] => []
  | first :: rest =>
      match dropEqual same rest with
      | second :: later => if same first second then first :: later else first :: second :: later
      | [] => [first]

def sort (job : Job) : Result :=
  let long := [("numeric-sort", "n", false), ("reverse", "r", false), ("unique", "u", false),
    ("key", "k", true), ("field-separator", "t", true), ("ignore-case", "f", false),
    ("stable", "s", false), ("output", "o", true), ("check", "c", false),
    ("version-sort", "V", false), ("human-numeric-sort", "h", false)]
  match job.call "bcCdfghimMnrsuVz" "kotST" long false 2 with
  | .error result => result
  | .ok call =>
      match (call.values ["k"]).mapM SortKey.parse with
      | .error message => job.fail 2 message
      | .ok keys =>
          let mark := (call.value? ["t"]).map String.toList
          match mark with
          | some [] => job.fail 2 "empty tab"
          | some (_ :: _ :: _) =>
              job.fail 2 ("multi-character tab " ++ quoted ((call.value? ["t"]).getD ""))
          | _ =>
              let separator := mark.bind List.head?
              let flags := "bdfghinMrRV".toList.filter fun c => call.has [c.toString]
              let unique := call.has ["u"]
              let order (last : Bool) := compareLines separator keys flags last
              let last := !unique && !call.has ["s"]
              let unread := call.files.findSome? fun name => match job.readFile name with
                | .ok _ => none
                | .error error => some (name, error)
              match unread with
              | some (name, error) =>
                  let doing := if error = .isDirectory then "read failed: " else "cannot read: "
                  job.fail 2 (doing ++ shown name ++ ": " ++ reason error)
              | none =>
                  let lines := call.files.flatMap fun name =>
                    ((job.readFile name).toOption.map fun text =>
                      (linesOf text).map chop).getD []
                  if call.has ["c", "C"] then
                    let wrong := (lines.zip (lines.drop 1)).zipIdx 2 |>.find? fun ((a, b), _) =>
                      let order := order last a b
                      order = .gt || (unique && order = .eq)
                    match wrong with
                    | none => job.output ""
                    | some ((_, b), number) =>
                        if call.has ["C"] then job.done "" 1
                        else job.fail 1 (shown (call.files.headD "-") ++ ":" ++ decimal number ++
                          ": disorder: " ++ String.ofList b)
                  else
                    let sorted := lines.mergeSort fun a b => order last a b ≠ .gt
                    let sorted := if unique then dropEqual (fun a b => order false a b = .eq) sorted
                      else sorted
                    let text := joinLines (sorted.map String.ofList)
                    let readsInput := call.files.contains "-"
                    match call.value? ["o"] with
                    | none => job.written [⟨false, text⟩] 0 readsInput
                    | some path =>
                        match job.tree.write (Octets.toText path) (Octets.toBytes text) with
                        | (.ok (), tree) => { job.written [] 0 readsInput with tree }
                        | (.error error, _) =>
                            job.fail 2 ("open failed: " ++ shown path ++ ": " ++ reason error)

/-- Groups equal neighbours. -/
def grouped {α : Type} (same : α → α → Bool) : List α → List (List α)
  | [] => []
  | first :: rest =>
      match grouped same rest with
      | (second :: more) :: groups =>
          if same first second then (first :: second :: more) :: groups
          else [first] :: (second :: more) :: groups
      | groups => [first] :: groups

def uniq (job : Job) : Result :=
  let long := [("count", "c", false), ("repeated", "d", false), ("unique", "u", false),
    ("ignore-case", "i", false), ("skip-fields", "f", true), ("skip-chars", "s", true),
    ("check-chars", "w", true)]
  let call := Call.read "cdDuiz" "fsw" long false (job.arguments.length + 1) job.arguments
    ⟨[], [], none, none⟩
  if let _ :: _ :: extra :: _ := call.operands then job.usage 1 ("extra operand " ++ quoted extra)
  else match job.call "cdDuiz" "fsw" long false 1 with
  | .error result => result
  | .ok call =>
      let name := call.operands.headD "-"
      match job.readFile name with
      | .error error => job.fail 1 (shown name ++ ": " ++ reason error)
      | .ok content =>
          let size (letter : String) : Option Nat := (call.value? [letter]).bind String.toNat?
          let key (line : List Char) : List Char :=
            let line := line.drop (SortKey.afterFields none line ((size "f").getD 0))
            let line := line.drop ((size "s").getD 0)
            let line := ((size "w").map line.take).getD line
            if call.has ["i"] then line.map Char.toLower else line
          let groups := grouped (fun a b => key a = key b) ((linesOf content).map chop)
          let groups := groups.filter fun group =>
            (!call.has ["d", "D"] || 1 < group.length) && (!call.has ["u"] || group.length = 1)
          let shownLines (group : List (List Char)) : List String :=
            let first := String.ofList (group.headD [])
            if call.has ["D"] then group.map String.ofList
            else if call.has ["c"] then [padLeft 7 (decimal group.length) ++ " " ++ first]
            else [first]
          let text := joinLines (groups.flatMap shownLines)
          match call.operands with
          | _ :: target :: _ =>
              match job.tree.write (Octets.toText target) (Octets.toBytes text) with
              | (.ok (), tree) => { job.written [] 0 (name = "-") with tree }
              | (.error error, _) => job.fail 1 (shown target ++ ": " ++ reason error)
          | _ => job.written [⟨false, text⟩] 0 (name = "-")

/-- Puts the lines of two sorted files into columns: the first file's, the second's, and common
ones. -/
def merged : Nat → List String → List String → List (Nat × String)
  | 0, _, _ => []
  | fuel + 1, first, second =>
      match first, second with
      | [], rest => rest.map (2, ·)
      | rest, [] => rest.map (1, ·)
      | a :: one, b :: two =>
          if a = b then (3, a) :: merged fuel one two
          else if a < b then (1, a) :: merged fuel one second
          else (2, b) :: merged fuel first two

def comm (job : Job) : Result :=
  match job.call "123" "" [] false 1 with
  | .error result => result
  | .ok call =>
      match call.operands with
      | [] => job.usage 1 "missing operand"
      | [only] => job.usage 1 ("missing operand after " ++ quoted only)
      | first :: second :: more =>
          if more ≠ [] then job.usage 1 ("extra operand " ++ quoted (more.headD ""))
          else match job.readFile first, job.readFile second with
            | .error error, _ => job.fail 1 (shown first ++ ": " ++ reason error)
            | _, .error error => job.fail 1 (shown second ++ ": " ++ reason error)
            | .ok one, .ok two =>
                let hidden (column : Nat) : Bool := call.has [decimal column]
                let columns := merged (one.length + two.length + 1) (bareLines one) (bareLines two)
                let line (entry : Nat × String) : String :=
                  let before := ([1, 2].filter fun column => column < entry.1 && !hidden column)
                  String.join (before.map fun _ => "\t") ++ entry.2
                job.output (joinLines
                  ((columns.filter fun entry => !hidden entry.1).map line))

end CatalogSeed.Utility
