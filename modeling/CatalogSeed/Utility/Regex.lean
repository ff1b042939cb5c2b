import CatalogSeed.Script.Pattern

/-!
Regular expressions in their basic and their extended spelling. Of all matches at a place the
longest one counts.
-/

namespace CatalogSeed.Utility

inductive Regex
  | one (c : Char)
  | any
  | oneOf (negated : Bool) (ranges : List (Char × Char))
  | lineStart
  | lineEnd
  | wordStart
  | wordEnd
  | wordEdge (negated : Bool)
  | group (number : Nat) (inside : Regex)
  | back (number : Nat)
  | inOrder (parts : List Regex)
  | either (choices : List Regex)
  | repeated (least : Nat) (most : Option Nat) (inside : Regex)

namespace Regex

/-- A place in a text, and what the groups have matched on the way to it. -/
structure Place where
  position : Nat
  groups : List (Nat × Nat × Nat)
  deriving DecidableEq

/-- The text that is searched. -/
structure Subject where
  chars : Array Char
  ignoreCase : Bool
  lines : Bool

def isWordChar (c : Char) : Bool :=
  c.isAlphanum || c = '_'

namespace Subject

def wordBefore (subject : Subject) (position : Nat) : Bool :=
  0 < position && (subject.chars[position - 1]?.map isWordChar).getD false

def wordBehind (subject : Subject) (position : Nat) : Bool :=
  (subject.chars[position]?.map isWordChar).getD false

def same (subject : Subject) (c d : Char) : Bool :=
  c = d || (subject.ignoreCase && c.toLower = d.toLower)

def inRanges (subject : Subject) (ranges : List (Char × Char)) (c : Char) : Bool :=
  let within (c : Char) : Bool := ranges.any fun (first, last) => first ≤ c && c ≤ last
  within c || (subject.ignoreCase && (within c.toLower || within c.toUpper))

/-- Takes one character that is accepted. -/
def take (subject : Subject) (accepts : Char → Bool) (place : Place) : List Place :=
  match subject.chars[place.position]? with
  | some c => if accepts c then [{ place with position := place.position + 1 }] else []
  | none => []

def stay (holds : Bool) (place : Place) : List Place :=
  if holds then [place] else []

/-- Takes a text that was matched before. -/
def takeAgain (subject : Subject) (number : Nat) (place : Place) : List Place :=
  match place.groups.lookup number with
  | none => []
  | some (first, last) =>
      let length := last - first
      let same := (List.range length).all fun offset =>
        match subject.chars[first + offset]?, subject.chars[place.position + offset]? with
        | some c, some d => subject.same c d
        | _, _ => false
      if same then [{ place with position := place.position + length }] else []

end Subject

/-- Keeps the first of equal places. -/
def distinct : List Place → List Place → List Place
  | before, [] => before.reverse
  | before, place :: rest =>
      if before.contains place then distinct before rest else distinct (place :: before) rest

/-- Goes on from places round by round, and gives the rounds, the last one first. -/
def rounds (ends : Place → List Place) (least : Nat) :
    Nat → Nat → List Place → List (List Place) → List (List Place)
  | 0, _, _, before => before
  | fuel + 1, count, places, before =>
      let next := distinct [] (places.flatMap fun place =>
        (ends place).filter fun after => count < least || place.position < after.position)
      if next = [] then before else rounds ends least fuel (count + 1) next (next :: before)

mutual

/-- The places a match from here can end at, the preferred ones first. -/
def ends (subject : Subject) : Regex → Place → List Place
  | .one c, place => subject.take (subject.same c) place
  | .any, place => subject.take (fun _ => true) place
  | .oneOf negated ranges, place =>
      subject.take (fun c => subject.inRanges ranges c != negated) place
  | .lineStart, place =>
      Subject.stay (place.position = 0 ||
        (subject.lines && subject.chars[place.position - 1]? = some '\n')) place
  | .lineEnd, place =>
      Subject.stay (place.position = subject.chars.size ||
        (subject.lines && subject.chars[place.position]? = some '\n')) place
  | .wordStart, place =>
      Subject.stay (!subject.wordBefore place.position && subject.wordBehind place.position) place
  | .wordEnd, place =>
      Subject.stay (subject.wordBefore place.position && !subject.wordBehind place.position) place
  | .wordEdge negated, place =>
      let edge := subject.wordBefore place.position != subject.wordBehind place.position
      Subject.stay (edge != negated) place
  | .group number inside, place =>
      (ends subject inside place).map fun after =>
        { after with groups := (number, place.position, after.position) ::
            after.groups.filter (·.1 ≠ number) }
  | .back number, place => subject.takeAgain number place
  | .inOrder parts, place => endsInOrder subject parts place
  | .either choices, place => distinct [] (endsOfAny subject choices place)
  | .repeated least most inside, place =>
      let bound := most.getD (subject.chars.size + least + 1)
      let later := rounds (ends subject inside) least bound 0 [place] []
      let later := later.take (later.length + 1 - least)
      distinct [] (later.flatten ++ if least = 0 then [place] else [])

def endsInOrder (subject : Subject) : List Regex → Place → List Place
  | [], place => [place]
  | first :: rest, place =>
      distinct [] ((ends subject first place).flatMap (endsInOrder subject rest))

def endsOfAny (subject : Subject) : List Regex → Place → List Place
  | [], _ => []
  | first :: rest, place => ends subject first place ++ endsOfAny subject rest place

end

/-- The longest of some places, the first of equally long ones. -/
def longest : List Place → Option Place
  | [] => none
  | place :: rest =>
      match longest rest with
      | none => some place
      | some other => if place.position < other.position then some other else some place

/-- The longest match that begins here. -/
def matchAt? (regex : Regex) (subject : Subject) (position : Nat) : Option Place :=
  longest (regex.ends subject ⟨position, []⟩)

/-- The first match from a position on: where it begins, and the place where it ends. -/
def search? (regex : Regex) (subject : Subject) : Nat → Nat → Option (Nat × Place)
  | 0, _ => none
  | fuel + 1, position =>
      match regex.matchAt? subject position with
      | some place => some (position, place)
      | none => if subject.chars.size ≤ position then none
          else regex.search? subject fuel (position + 1)

def find? (regex : Regex) (subject : Subject) (start : Nat) : Option (Nat × Place) :=
  regex.search? subject (subject.chars.size + 1 - start) start

/-- How expressions are spelled. In a lenient spelling, braces and parentheses that mean nothing
stand for themselves. -/
structure Spelling where
  extended : Bool
  lenient : Bool

/-- The reader of an expression: what is left, and how many groups were opened. -/
structure Reading where
  rest : List Char
  groups : Nat
  depth : Nat

abbrev Parser := StateT Reading (Except String)

def fail {α : Type} (message : String) : Parser α := fun _ => .error message

/-- Reads the bounds of a repetition behind its opening brace. -/
def bounds (text : List Char) (extended : Bool) :
    Except String (Nat × Option Nat × List Char) :=
  let (least, rest) := text.span Char.isDigit
  let value (digits : List Char) : Nat :=
    digits.foldl (fun value c => 10 * value + (c.toNat - 48)) 0
  let closed (rest : List Char) : Option (List Char) := match extended, rest with
    | true, '\x7d' :: rest => some rest
    | false, '\\' :: '\x7d' :: rest => some rest
    | _, _ => none
  match rest with
  | ',' :: rest =>
      let (most, rest) := rest.span Char.isDigit
      match closed rest with
      | some rest => .ok (value least, if most = [] then none else some (value most), rest)
      | none => .error "Unmatched \\\x7b"
  | rest =>
      match closed rest with
      | some rest => if least = [] then .error "Invalid preceding regular expression"
          else .ok (value least, some (value least), rest)
      | none => .error (if rest = [] then "Unmatched \\\x7b"
          else "Invalid content of \\\x7b\\\x7d")

/-- The classes that a letter behind a backslash names. -/
def letterClass? (c : Char) : Option Regex :=
  let word := [('0', '9'), ('A', 'Z'), ('a', 'z'), ('_', '_')]
  let space := [('\t', '\x0d'), (' ', ' ')]
  match c with
  | 'w' => some (.oneOf false word)
  | 'W' => some (.oneOf true word)
  | 's' => some (.oneOf false space)
  | 'S' => some (.oneOf true space)
  | 'b' => some (.wordEdge false)
  | 'B' => some (.wordEdge true)
  | '<' => some .wordStart
  | '>' => some .wordEnd
  | '\x60' => some .lineStart
  | '\'' => some .lineEnd
  | _ => none

/-- Reads a set behind its opening bracket. -/
def bracket (text : List Char) : Except String (Regex × List Char) :=
  let (negated, body) := match text with
    | '^' :: body => (true, body)
    | body => (false, body)
  let letters : List Script.Letter := body.map fun c =>
    ⟨c, c = '\\'⟩
  match Script.Pattern.items (letters.length + 1) true letters with
  | some (ranges, rest) => .ok (.oneOf negated ranges, rest.map Script.Letter.char)
  | none => .error "Unmatched [, [^, [:, [., or [="

/-- Whether what is left begins with what ends a choice. -/
def atEnd (spelling : Spelling) (depth : Nat) (text : List Char) : Bool :=
  match spelling.extended, text with
  | _, [] => true
  | true, '|' :: _ => true
  | true, ')' :: _ => depth ≠ 0
  | false, '\\' :: '|' :: _ => true
  | false, '\\' :: ')' :: _ => true
  | _, _ => false

/-- Reads the signs that repeat what stands before them. -/
def repetitions (spelling : Spelling) : Nat → Regex → Parser Regex
  | 0, regex => return regex
  | fuel + 1, regex => do
      let reading ← get
      let go (least : Nat) (most : Option Nat) (rest : List Char) : Parser Regex := do
        set { reading with rest }
        repetitions spelling fuel (.repeated least most regex)
      let bounded (text : List Char) : Parser Regex :=
        match bounds text spelling.extended with
        | .error message => fail message
        | .ok (least, most, rest) => go least most rest
      match spelling.extended, reading.rest with
      | _, '*' :: rest => go 0 none rest
      | true, '+' :: rest => go 1 none rest
      | true, '?' :: rest => go 0 (some 1) rest
      | false, '\\' :: '+' :: rest => go 1 none rest
      | false, '\\' :: '?' :: rest => go 0 (some 1) rest
      | true, '\x7b' :: rest =>
          let wrong := match bounds rest true with
            | .ok _ => false
            | .error _ => spelling.lenient
          if !wrong && (rest.head?.map fun c => c.isDigit || c = ',').getD false then bounded rest
          else return regex
      | false, '\\' :: '\x7b' :: rest => bounded rest
      | _, _ => return regex

mutual

/-- Reads choices up to the end or a closing parenthesis. -/
def choices (spelling : Spelling) : Nat → Parser Regex
  | 0 => fail "Regular expression too big"
  | fuel + 1 => do
      let first ← sequence spelling fuel true []
      let reading ← get
      match spelling.extended, reading.rest with
      | true, '|' :: rest | false, '\\' :: '|' :: rest =>
          set { reading with rest }
          match ← choices spelling fuel with
          | .either others => return .either (first :: others)
          | other => return .either [first, other]
      | _, _ => return first

/-- Reads parts one after the other; the ones before come the last first. -/
def sequence (spelling : Spelling) : Nat → Bool → List Regex → Parser Regex
  | 0, _, _ => fail "Regular expression too big"
  | fuel + 1, front, before => do
      let reading ← get
      if atEnd spelling reading.depth reading.rest then
        return match before with
          | [regex] => regex
          | _ => .inOrder before.reverse
      else
        let regex ← part spelling fuel front
        match regex with
        | .lineStart =>
            if spelling.extended then
              sequence spelling fuel true ((← repetitions spelling fuel regex) :: before)
            else sequence spelling fuel true (regex :: before)
        | _ => sequence spelling fuel false ((← repetitions spelling fuel regex) :: before)

/-- Reads one part, without what repeats it. -/
def part (spelling : Spelling) : Nat → Bool → Parser Regex
  | 0, _ => fail "Regular expression too big"
  | fuel + 1, front => do
      let reading ← get
      let take (regex : Regex) (rest : List Char) : Parser Regex := do
        set { reading with rest }
        return regex
      let enclosed (rest : List Char) : Parser Regex := do
        let number := reading.groups + 1
        set { reading with rest, groups := number, depth := reading.depth + 1 }
        let inside ← choices spelling fuel
        let reading ← get
        match spelling.extended, reading.rest with
        | true, ')' :: rest | false, '\\' :: ')' :: rest =>
            set { reading with rest, depth := reading.depth - 1 }
            return .group number inside
        | _, _ => fail "Unmatched ( or \\("
      match reading.rest with
      | '.' :: rest => take .any rest
      | '[' :: rest =>
          match bracket rest with
          | .ok (regex, rest) => take regex rest
          | .error message => fail message
      | '^' :: rest =>
          if spelling.extended || front then take .lineStart rest else take (.one '^') rest
      | '$' :: rest =>
          if spelling.extended || atEnd spelling 1 rest then take .lineEnd rest
          else take (.one '$') rest
      | '(' :: rest => if spelling.extended then enclosed rest else take (.one '(') rest
      | '\\' :: '(' :: rest => if spelling.extended then take (.one '(') rest else enclosed rest
      | '\\' :: ')' :: rest =>
          if spelling.extended then take (.one ')') rest else fail "Unmatched ) or \\)"
      | ')' :: rest =>
          if spelling.extended && !spelling.lenient then fail "Unmatched ) or \\)"
          else take (.one ')') rest
      | '\\' :: 'n' :: rest => take (.one '\n') rest
      | '\\' :: 't' :: rest => take (.one '\t') rest
      | '\\' :: c :: rest =>
          match letterClass? c with
          | some regex => take regex rest
          | none =>
              if c.isDigit ∧ c ≠ '0' then
                let number := c.toNat - '0'.toNat
                if number ≤ reading.groups then take (.back number) rest
                else fail "Invalid back reference"
              else take (.one c) rest
      | ['\\'] => fail "Trailing backslash"
      | c :: rest =>
          if spelling.extended && front && (c = '*' || c = '+' || c = '?') then
            take (.inOrder []) rest
          else take (.one c) rest
      | [] => return .inOrder []

end

/-- Reads a whole expression. -/
def parse (spelling : Spelling) (text : List Char) : Except String Regex := do
  let (regex, reading) ← (choices spelling (8 * text.length + 16)).run ⟨text, 0, 0⟩
  match reading.rest with
  | [] => .ok regex
  | _ => .error "Unmatched ) or \\)"

/-- How many groups an extended expression has. -/
def groupCount : List Char → Nat
  | '\\' :: _ :: rest => groupCount rest
  | '(' :: rest => groupCount rest + 1
  | _ :: rest => groupCount rest
  | [] => 0

end Regex

end CatalogSeed.Utility
