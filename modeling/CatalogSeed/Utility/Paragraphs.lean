import CatalogSeed.Utility.Lines

/-!
Filling paragraphs: their words are laid out anew in lines of a width. Every way to break the lines
has a cost, which is high for lines that are far from the length aimed at and for breaks in bad
places; the cheapest way is taken.
-/

namespace CatalogSeed.Utility

namespace Paragraphs

/-- How lines are laid out. The front stands before each line that is laid out; `lead` are the
blanks before it. -/
structure Layout where
  width : Nat
  goal : Nat
  crown : Bool
  tagged : Bool
  splits : Bool
  uniform : Bool
  lead : Nat
  front : List Char
  fullFront : Nat

/-- A word with the blanks behind it. It may end a sentence, and it may be that a bracket opens or
some mark stands at its ends. -/
structure Piece where
  text : List Char
  space : Nat
  period : Bool
  final : Bool
  mark : Bool
  opens : Bool
  deriving Inhabited

/-- A line of the input: the column at which its front begins, the one of its text, and the text;
none of it is laid out unless it has the front. -/
structure Row where
  front : Nat
  column : Nat
  fits : Bool
  text : List Char
  ended : Bool
  tabs : Bool

/-- The column behind blanks, and the text behind them. -/
def skipBlanks (column : Nat) (tabs : Bool) : List Char → Nat × Bool × List Char
  | ' ' :: rest => skipBlanks (column + 1) tabs rest
  | '\t' :: rest => skipBlanks ((column / 8 + 1) * 8) true rest
  | rest => (column, tabs, rest)

/-- Reads the front of a line. -/
def Layout.row (layout : Layout) (line : List Char) : Row :=
  let ended := line.getLast? = some '\n'
  let line := if ended then line.dropLast else line
  let (column, tabs, rest) := skipBlanks 0 false line
  if layout.front = [] then
    ⟨min layout.lead column, column, true, rest, ended, tabs⟩
  else
    let rec follow (column : Nat) : List Char → List Char → Nat × Bool × List Char
      | [], rest => (column, true, rest)
      | c :: front, d :: rest =>
          if c = d then follow (column + 1) front rest else (column, false, d :: rest)
      | _, [] => (column, false, [])
    let (after, fits, rest) := follow column layout.front rest
    if fits then
      let (behind, tabs, rest) := skipBlanks after tabs rest
      ⟨column, behind, true, rest, ended, tabs⟩
    else ⟨column, after, false, rest, ended, tabs⟩

/-- The words of a line from a column on. -/
def words (uniform : Bool) : Nat → Nat → List Char → List Piece
  | 0, _, _ | _, _, [] => []
  | fuel + 1, column, text =>
      let isBlank (c : Char) : Bool := c = ' ' || c = '\t' || 11 ≤ c.toNat && c.toNat ≤ 13
      let word := text.takeWhile (!isBlank ·)
      let behind := column + word.length
      let (next, _, rest) := skipBlanks behind false (text.drop word.length)
      let last := word.getLast?.getD ' '
      let core := word.reverse.dropWhile ")]'\"".toList.contains
      let period := (core.head?.map ".?!".toList.contains).getD
        ((word.head?.map ".?!".toList.contains).getD false)
      let space := next - behind
      let final := period && (rest = [] || 1 < space)
      let isMark := 33 ≤ last.toNat && last.toNat ≤ 126 && !last.isAlphanum
      let space := if rest = [] || uniform then (if final then 2 else 1) else space
      ⟨word, space, period, final, isMark, "(['\x60\"".toList.contains (word.headD ' ')⟩ ::
        words uniform fuel next rest

def square (n : Int) : Int := n * n

def shortCost (n : Int) : Int := square (n * 10)

def raggedCost (n : Int) : Int := shortCost n / 2

/-- The cost of breaking in front of a word, whatever the line is like. -/
def baseCost (pieces : Array Piece) (index : Nat) : Int :=
  let own := pieces[index]!
  let before := if index = 0 then 0
    else
      let last := pieces[index - 1]!
      if last.period then (if last.final then -square 50 else square 600)
      else if last.mark then -square 40
      else if 1 < index && (pieces[index - 2]!).final then
        square 200 / (last.text.length + 2 : Nat)
      else 0
  let here := if own.opens then -square 40
    else if own.final then square 150 / (own.text.length + 2 : Nat)
    else 0
  square 70 + before + here

/-- The best way on from a word: its cost, the word that the next line begins with, and the length
of the line. -/
structure Way where
  cost : Int
  next : Nat
  length : Nat
  deriving Inhabited

/-- The best ways on from all words, found from the last one back. -/
def ways (layout : Layout) (first other : Nat) (pieces : Array Piece) : Array Way :=
  let count := pieces.size
  let start : Array Way := Array.replicate (count + 1) ⟨0, count, 0⟩
  (List.range count).reverse.foldl (fun ways index =>
    let indent := if index = 0 then first else other
    let lineCost (next length : Nat) : Int :=
      if next = count then 0
      else
        let way := ways[next]!
        shortCost ((layout.goal : Int) - length) +
          if way.next = count then 0 else raggedCost ((length : Int) - way.length)
    let rec attempt (fuel next length : Nat) (best : Option Way) : Option Way :=
      match fuel with
      | 0 => best
      | fuel + 1 =>
          let cost := lineCost next length + (ways[next]!).cost
          let best := match best with
            | some way => if cost < way.cost then some ⟨cost, next, length⟩ else some way
            | none => some ⟨cost, next, length⟩
          if next = count then best
          else
            let longer := length + (pieces[next - 1]!).space + (pieces[next]!).text.length
            if longer < layout.width then attempt fuel (next + 1) longer best else best
    let found := attempt (count + 1) (index + 1) (indent + (pieces[index]!).text.length) none
    let way := found.getD ⟨0, count, 0⟩
    ways.set! index { way with cost := way.cost + baseCost pieces index }) start

/-- Blanks from a column to another one, with tabs where the text has some. -/
def blanks (tabs : Bool) (column target : Nat) : List Char :=
  let stop := target / 8 * 8
  if tabs && column + 1 < stop then
    List.replicate (stop / 8 - column / 8) '\t' ++ List.replicate (target - stop) ' '
  else List.replicate (target - column) ' '

/-- Lays out a line of words. -/
def lineOf (layout : Layout) (tabs : Bool) (lead indent : Nat) (pieces : List Piece) :
    List Char × Nat :=
  let front := blanks tabs 0 lead ++ layout.front
  let column := lead + layout.front.length
  let start := front ++ blanks tabs column indent
  let rec put (column : Nat) : List Piece → List Char × Nat
    | [] => ([], column)
    | [piece] => (piece.text, column + piece.text.length)
    | piece :: rest =>
        let column := column + piece.text.length
        let gap := blanks tabs column (column + piece.space)
        let (text, last) := put (column + piece.space) rest
        (piece.text ++ gap ++ text, last)
  let (text, last) := put (max column indent) pieces
  (start ++ text ++ ['\n'], last)

/-- Lays out the words of a paragraph. -/
def lay (layout : Layout) (tabs : Bool) (lead first other : Nat) (pieces : List Piece) :
    List Char :=
  let pieces := match pieces.reverse with
    | last :: rest => (({ last with period := true, final := true } : Piece) :: rest).reverse
    | [] => []
  let all := pieces.toArray
  let ways := ways layout first other all
  let rec go (fuel index indent : Nat) : List Char :=
    match fuel with
    | 0 => []
    | fuel + 1 =>
        if all.size ≤ index then []
        else
          let next := (ways[index]!).next
          let own := (pieces.take next).drop index
          (lineOf layout tabs lead indent own).1 ++ go fuel next other
  go (all.size + 1) 0 first

/-- A line that is not laid out; blanks at the end of it are left out. -/
def copied (layout : Layout) (row : Row) : List Char :=
  if row.column ≤ row.front && row.text = [] then []
  else
    let front := layout.front.take (row.column - row.front)
    let gap := if row.text = [] then []
      else blanks row.tabs (row.front + front.length) row.column
    blanks row.tabs 0 row.front ++ front ++ gap ++ row.text

/-- Goes through the lines: those without the front stay, others are laid out by paragraphs. The
further indent of the last paragraph is kept for the next one. -/
def refill (layout : Layout) : Nat → Nat → List Row → List Char
  | 0, _, _ | _, _, [] => []
  | fuel + 1, kept, row :: rest =>
      let plain := row.text = [] || row.front < layout.lead || !row.fits ||
        row.column < row.front + layout.fullFront
      if plain then
        copied layout row ++ (if row.ended then ['\n'] else []) ++ refill layout fuel kept rest
      else
        let same (other : Row) : Bool := other.text ≠ [] && other.fits &&
          other.front = row.front && other.front + layout.fullFront ≤ other.column
        let next := rest.head?.filter same
        let other := if layout.splits then row.column
          else if layout.crown then (next.map (·.column)).getD row.column
          else if layout.tagged then
            match next with
            | some next =>
                if next.column ≠ row.column then next.column
                else if kept = row.column then (if row.column = 0 then 3 else 0) else kept
            | none => if kept = row.column then (if row.column = 0 then 3 else 0) else kept
          else row.column
        let goesOn := !layout.splits && !(layout.tagged && !layout.crown &&
          (next.map (·.column)).getD row.column = row.column)
        let more := if goesOn then
            rest.takeWhile fun line => same line && line.column = other
          else []
        let own := row :: more
        let tabs := own.any (·.tabs)
        let pieces := own.flatMap fun line =>
          words layout.uniform (line.text.length + 1) line.column line.text
        lay layout tabs row.front row.column other pieces ++
          refill layout fuel other (rest.drop more.length)

end Paragraphs

open Paragraphs in
def fmt (job : Job) : Result :=
  let long := [("crown-margin", "c", false), ("tagged-paragraph", "t", false),
    ("split-only", "s", false), ("uniform-spacing", "u", false), ("prefix", "p", true),
    ("width", "w", true), ("goal", "g", true)]
  let arguments := match job.arguments with
    | first :: rest =>
        match first.toList with
        | '-' :: c :: more => if c.isDigit then "-w" :: String.ofList (c :: more) :: rest
            else first :: rest
        | _ => first :: rest
    | [] => []
  match { job with arguments }.call "ctsu" "pwg" long false 1 with
  | .error result => result
  | .ok call =>
      let number (letter : String) (most : Nat) : Except Result (Option Nat) :=
        match call.value? [letter] with
        | none => .ok none
        | some text =>
            let wrong (tail : String) : Except Result (Option Nat) :=
              .error (job.fail 1 ("invalid width: " ++ quoted text ++ tail))
            if text = "" ∨ !text.all Char.isDigit then wrong ""
            else
              let value := text.toNat?.getD 0
              if most < value then wrong ": Numerical result out of range"
              else .ok (some value)
      let sizes : Except Result (Nat × Nat) := do
        let given ← number "w" 2500
        let goal ← number "g" (given.getD 75)
        match given, goal with
        | none, some goal => return (goal + 10, goal)
        | given, some goal => return (given.getD 75, goal)
        | given, none => return (given.getD 75, given.getD 75 * 187 / 200)
      match sizes with
      | .error result => result
      | .ok (width, goal) =>
          let front := ((call.value? ["p"]).getD "").toList
          let lead := (front.takeWhile (· = ' ')).length
          let full := front.drop lead
          let bare := (full.reverse.dropWhile (· = ' ')).reverse
          let layout : Layout := ⟨width, goal, call.has ["c"], call.has ["t"], call.has ["s"],
            call.has ["u"], lead, bare, full.length⟩
          job.overFiles call.operands
            (fun name => "cannot open " ++ named name ++ " for reading") 1 fun _ text =>
              let rows := (linesOf text).map layout.row
              String.ofList (refill layout (rows.length + 1) 0 rows)

end CatalogSeed.Utility
