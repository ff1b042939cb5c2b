import CatalogSeed.Utility.Finding.Condition

/-!
How files that were found are shown: in the long form of a listing, or as a format tells.
-/

namespace CatalogSeed.Utility.Finding

/-- A moment with the seconds in full. -/
def exactMoment (moment : Int) (letter : Char) : Option String :=
  let seconds := Moment.render moment "%S.%N0"
  match letter with
  | '@' =>
      some (toString (moment / MomentText.billion) ++ "." ++ Moment.render moment "%N" ++ "0")
  | '+' => some (Moment.render moment "%F+%H:%M:" ++ seconds)
  | 'S' => some seconds
  | 'T' | 'X' => some (Moment.render moment "%H:%M:" ++ seconds)
  | _ =>
      if letter = 'q' then none else some (Moment.render moment (String.ofList ['%', letter]))

/-- The path of the directory that a path is in. -/
def directoryOf (path : String) : String :=
  let front := path.toList.reverse.dropWhile (· ≠ '/')
  match front with
  | [] => "."
  | ['/'] => ""
  | _ :: front => String.ofList front.reverse

/-- The last name of a path, with what stands behind it. -/
def lastName (path : String) : String :=
  let backwards := path.toList.reverse
  let (slashes, front) := backwards.span (· = '/')
  let name := front.takeWhile (· ≠ '/')
  if front = [] then String.ofList (slashes.take 1)
  else String.ofList ((slashes.take 1) ++ name).reverse

/-- The path below the one that the search began at. -/
def innerPath (found : Found) : String :=
  let rest := found.path.toList.drop found.start.length
  String.ofList (if rest.head? = some '/' then rest.drop 1 else rest)

/-- The letter for what a link leads to. -/
def finalLetter (tree : FileTree) (found : Found) : Char :=
  match found.node.item with
  | .link _ =>
      match tree.resolve (Octets.toText found.path) with
      | .ok (_, item) => (if item.isPlain then 'f' else item.letter)
      | .error .endless => 'L'
      | .error _ => 'N'
  | item => if item.isPlain then 'f' else item.letter

def ownLetter (found : Found) : Char :=
  if found.node.item.isPlain then 'f' else found.node.item.letter

/-- What a letter of a format stands for; `inner` is the part of a moment that is wanted. -/
def part? (tree : FileTree) (found : Found) (letter : Char) (inner : Option Char) :
    Option String :=
  let node := found.node
  let whole (moment : Int) : String := Moment.render moment "%a %b %e %H:%M:%S.%N0 %Y"
  let moment (moment : Int) : String :=
    let letter := inner.getD ' '
    (exactMoment moment letter).getD (String.ofList ['%', letter])
  match letter with
  | 'p' => some found.path
  | 'P' => some (innerPath found)
  | 'f' => some (lastName found.path)
  | 'h' => some (directoryOf found.path)
  | 'H' => some found.start
  | 'd' => some (decimal found.depth)
  | 's' => some (decimal node.item.size)
  | 'k' => some (decimal (found.blocks / 2))
  | 'b' => some (decimal found.blocks)
  | 'm' => some (octal 1 node.mode)
  | 'M' => some found.letters
  | 'n' => some (decimal (tree.linkCount found.location))
  | 'i' => some (statusPart tree found.toShown 'i')
  | 'D' => some (statusPart tree found.toShown 'd')
  | 'S' => some "1"
  | 'F' => some "overlay"
  | 'u' => some (tree.userName node.user)
  | 'U' => some (decimal node.user)
  | 'g' => some (tree.groupName node.group)
  | 'G' => some (decimal node.group)
  | 'y' => some (ownLetter found).toString
  | 'Y' => some (finalLetter tree found).toString
  | 'l' => some (found.target?.getD "")
  | 'Z' => some ""
  | 't' => some (whole node.changed)
  | 'a' => some (whole node.used)
  | 'c' => some (whole tree.now)
  | 'T' => some (moment node.changed)
  | 'A' => some (moment node.used)
  | 'B' | 'C' => some (moment tree.now)
  | _ => none

/-- A part of a format. -/
inductive Segment
  | text (text : String)
  | part (flags : List Char) (width : Nat) (precision : Option Nat) (letter : Char)
    (inner : Option Char)

def Segment.render (tree : FileTree) (found : Found) : Segment → String
  | .text given => given
  | .part flags width precision letter inner =>
      let whole := (part? tree found letter inner).getD ""
      let whole := if letter = 'm' && flags.contains '#' then "0" ++ whole else whole
      let cut := match precision with
        | some size => String.ofList (whole.toList.take size)
        | none => whole
      let flags := if letter = 'd' ∨ letter = 'm' then flags else flags.filter (· ≠ '0')
      fitted flags width cut

def escapes : List (Char × Char) :=
  [('a', '\x07'), ('b', '\x08'), ('f', '\x0c'), ('n', '\n'), ('r', '\x0d'), ('t', '\t'),
    ('v', '\x0b'), ('\\', '\\')]

/-- Reads a format. -/
def readFormat : Nat → List Char → Parser (List Segment)
  | 0, _ | _, [] => return []
  | _ + 1, '\\' :: 'c' :: _ => return []
  | fuel + 1, '\\' :: c :: rest => do
      match escapes.lookup c with
      | some letter => return .text letter.toString :: (← readFormat fuel rest)
      | none =>
          let digits := ((c :: rest).take 3).takeWhile Permission.isOctal
          if digits = [] then
            warn ("warning: unrecognized escape " ++ marked (String.ofList ['\\', c]))
            return .text (String.ofList ['\\', c]) :: (← readFormat fuel rest)
          else
            let value := digits.foldl (fun value digit => 8 * value + (digit.toNat - 48)) 0
            let letter := Octets.ofBytes [UInt8.ofNat value]
            return .text letter :: (← readFormat fuel (rest.drop (digits.length - 1)))
  | fuel + 1, '%' :: rest => do
      let (flags, behind) := rest.span "-+ #0".toList.contains
      let (width, behind) := behind.span Char.isDigit
      let (precision, behind) := match behind with
        | '.' :: more => (some (more.takeWhile Char.isDigit), more.dropWhile Char.isDigit)
        | behind => (none, behind)
      let precision := precision.map fun digits => (String.ofList digits).toNat?.getD 0
      let width := (String.ofList width).toNat?.getD 0
      match behind with
      | [] => fail "error: % at end of format string"
      | '%' :: more => return .text "%" :: (← readFormat fuel more)
      | letter :: more =>
          if "ABCT".toList.contains letter then
            match more with
            | inner :: more =>
                return .part flags width precision letter (some inner) :: (← readFormat fuel more)
            | [] => return [.text (String.ofList ['%', letter])]
          else if "pPfhHdskbmMniDSFuUgGyYlZtac".toList.contains letter then
            return .part flags width precision letter none :: (← readFormat fuel more)
          else
            warn ("warning: unrecognized format directive " ++
              marked (String.ofList ['%', letter]))
            let text := String.ofList ('%' :: rest.take (rest.length - more.length))
            return .text text :: (← readFormat fuel more)
  | fuel + 1, c :: rest => return .text c.toString :: (← readFormat fuel rest)

def formatted (segments : List Segment) (tree : FileTree) (found : Found) : String :=
  String.join (segments.map (Segment.render tree found))

/-- The long form of a listing. -/
def listed (tree : FileTree) (found : Found) : String :=
  let part (letter : Char) : String := statusPart tree found.toShown letter
  let left (width : Nat) (text : String) : String := fitted ['-'] width text
  let format := if Moment.isRecent tree.now found.node.changed then "%b %e %H:%M"
    else "%b %e  %Y"
  let size := match found.node.item with
    | .device device => fitted [] 3 (decimal device.numbers.1) ++ ", " ++
        fitted [] 3 (decimal device.numbers.2)
    | _ => fitted [] 8 (part 's')
  let target := match found.target? with
    | some target => " -> " ++ target
    | none => ""
  " ".intercalate [fitted [] 9 (part 'i'), fitted [] 6 (decimal (found.blocks / 2)), found.letters,
    fitted [] 3 (part 'h'), left 8 (part 'U'), left 8 (part 'G'), size,
    Moment.render found.node.changed format, found.path] ++ target ++ "\n"

end CatalogSeed.Utility.Finding
