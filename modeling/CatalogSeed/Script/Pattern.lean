/-!
Patterns for texts and file names: a star stands for any characters, a question mark for one, and
brackets for one of a set. What is quoted stands for itself.
-/

namespace CatalogSeed.Script

/-- A character of a word, and whether it was quoted. -/
structure Letter where
  char : Char
  quoted : Bool
  deriving DecidableEq

inductive Atom
  | one (c : Char)
  | any
  | many
  | set (negated : Bool) (items : List (Char × Char))
  deriving DecidableEq

abbrev Pattern := List Atom

namespace Pattern

/-- The characters of the named classes, as far as they are ASCII. -/
def classes : List (String × List (Char × Char)) := [
  ("alnum", [('0', '9'), ('A', 'Z'), ('a', 'z')]),
  ("alpha", [('A', 'Z'), ('a', 'z')]),
  ("blank", [('\t', '\t'), (' ', ' ')]),
  ("cntrl", [('\x00', '\x1f'), ('\x7f', '\x7f')]),
  ("digit", [('0', '9')]),
  ("graph", [('!', '~')]),
  ("lower", [('a', 'z')]),
  ("print", [(' ', '~')]),
  ("punct", [('!', '/'), (':', '@'), ('[', '\x60'), ('\x7b', '~')]),
  ("space", [('\t', '\x0d'), (' ', ' ')]),
  ("upper", [('A', 'Z')]),
  ("xdigit", [('0', '9'), ('A', 'F'), ('a', 'f')])]

/-- A named class at the front of a set. -/
def class? (text : List Letter) : Option (List (Char × Char) × List Letter) :=
  match text with
  | ⟨'[', false⟩ :: ⟨':', _⟩ :: rest =>
      let (name, behind) := rest.span fun letter => letter.char.isAlpha
      match behind with
      | ⟨':', _⟩ :: ⟨']', _⟩ :: later =>
          (classes.lookup (String.ofList (name.map Letter.char))).map (·, later)
      | _ => none
  | _ => none

/-- Reads the items of a set up to its end; at the front, a bracket stands for itself. -/
def items : Nat → Bool → List Letter → Option (List (Char × Char) × List Letter)
  | 0, _, _ => none
  | _ + 1, _, [] => none
  | fuel + 1, front, letter :: rest =>
      if !front && letter = ⟨']', false⟩ then some ([], rest)
      else
        match class? (letter :: rest) with
        | some (ranges, later) =>
            (items fuel false later).map fun (more, left) => (ranges ++ more, left)
        | none =>
            let (first, rest) := match letter, rest with
              | ⟨'\\', false⟩, next :: later => (next, later)
              | _, _ => (letter, rest)
            match rest with
            | ⟨'-', false⟩ :: last :: later =>
                if last = ⟨']', false⟩ then
                  (items fuel false rest).map fun (more, left) =>
                    ((first.char, first.char) :: more, left)
                else
                  let (last, later) := match last, later with
                    | ⟨'\\', false⟩, next :: later => (next, later)
                    | _, _ => (last, later)
                  (items fuel false later).map fun (more, left) =>
                    ((first.char, last.char) :: more, left)
            | _ =>
                (items fuel false rest).map fun (more, left) =>
                  ((first.char, first.char) :: more, left)

/-- Reads a pattern; `carets` tells whether a caret negates a set, as an exclamation mark does. -/
def ofLetters (carets : Bool) : Nat → List Letter → Pattern
  | 0, _ => []
  | _ + 1, [] => []
  | fuel + 1, letter :: rest =>
      if letter.quoted then .one letter.char :: ofLetters carets fuel rest
      else match letter.char with
        | '*' => .many :: ofLetters carets fuel rest
        | '?' => .any :: ofLetters carets fuel rest
        | '\\' =>
            match rest with
            | next :: later => .one next.char :: ofLetters carets fuel later
            | [] => [.one '\\']
        | '[' =>
            let (negated, body) := match rest with
              | ⟨c, false⟩ :: body =>
                  if c = '!' ∨ (carets ∧ c = '^') then (true, body) else (false, rest)
              | _ => (false, rest)
            match items (body.length + 1) true body with
            | some (ranges, later) => .set negated ranges :: ofLetters carets fuel later
            | none => .one '[' :: ofLetters carets fuel rest
        | c => .one c :: ofLetters carets fuel rest

def ofWord (carets : Bool) (letters : List Letter) : Pattern :=
  ofLetters carets (letters.length + 1) letters

/-- Whether a pattern has anything but characters that stand for themselves. -/
def isActive (pattern : Pattern) : Bool :=
  pattern.any fun
    | .one _ => false
    | _ => true

end Pattern

def Atom.accepts (atom : Atom) (c : Char) : Bool :=
  match atom with
  | .one d => c = d
  | .any => true
  | .many => true
  | .set negated ranges =>
      (ranges.any fun (first, last) => first ≤ c && c ≤ last) != negated

namespace Pattern

/-- Whether a pattern fits a whole text. A column tells for each end of the text whether what is
left of the pattern fits it; the columns are worked out from the end of the pattern. -/
def fitsEnds (text : List Char) : Pattern → List Bool
  | [] => (text.map fun _ => false) ++ [true]
  | .many :: rest => later (fitsEnds text rest)
  | atom :: rest => (step atom text ((fitsEnds text rest).drop 1)) ++ [false]
where
  /-- What holds at an end or at a later one. -/
  later : List Bool → List Bool
    | [] => []
    | here :: rest =>
        let column := later rest
        (here || column.headD false) :: column
  step (atom : Atom) : List Char → List Bool → List Bool
    | c :: text, fits :: column => (atom.accepts c && fits) :: step atom text column
    | _, _ => []

def fits (pattern : Pattern) (text : List Char) : Bool :=
  (fitsEnds text pattern).headD false

/-- How many characters at the front of a text a pattern can fit, the shortest first. -/
def fittingFronts (pattern : Pattern) (text : List Char) : List Nat :=
  (List.range (text.length + 1)).filter fun count => pattern.fits (text.take count)

/-- The text without its shortest or longest front, or end, that fits. -/
def trim (pattern : Pattern) (atEnd longest : Bool) (text : List Char) : List Char :=
  let counts := List.range (text.length + 1)
  let counts := if longest then counts.reverse else counts
  if atEnd then
    match counts.find? fun count => pattern.fits (text.drop (text.length - count)) with
    | some count => text.take (text.length - count)
    | none => text
  else
    match counts.find? fun count => pattern.fits (text.take count) with
    | some count => text.drop count
    | none => text

/-- The same for several texts with null characters between them. A piece of the whole is held
against the pattern only up to its first null character. -/
def trimJoined (pattern : Pattern) (atEnd longest : Bool) (text : List Char) : List Char :=
  let front (text : List Char) : List Char := text.takeWhile (· ≠ '\x00')
  let places :=
    if atEnd = longest then List.range ((front text).length + 1)
    else (List.range (text.length + 1)).reverse
  let fits (place : Nat) : Bool :=
    pattern.fits (front (if atEnd then text.drop place else text.take place))
  match places.find? fits with
  | some place => if atEnd then text.take place else text.drop place
  | none => text

/-- The longest front of a text that fits, unless it is empty. -/
def longestFront? (pattern : Pattern) (text : List Char) : Option Nat :=
  ((pattern.fittingFronts text).getLast?).filter (· ≠ 0)

/-- Puts another text in the place of the first, or of each, part that fits. -/
def replace (pattern : Pattern) (all : Bool) (new : List Char) : Nat → List Char → List Char
  | 0, text => text
  | _ + 1, [] => []
  | fuel + 1, c :: rest =>
      match pattern.longestFront? (c :: rest) with
      | some count =>
          let behind := (c :: rest).drop count
          new ++ if all then pattern.replace all new fuel behind else behind
      | none => c :: pattern.replace all new fuel rest

/-- Puts another text in the place of the longest front, or end, that fits. -/
def replaceEdge (pattern : Pattern) (atEnd : Bool) (new text : List Char) : List Char :=
  let counts := (List.range (text.length + 1)).reverse
  if atEnd then
    match counts.find? fun count => pattern.fits (text.drop (text.length - count)) with
    | some count => text.take (text.length - count) ++ new
    | none => text
  else
    match counts.find? fun count => pattern.fits (text.take count) with
    | some count => new ++ text.drop count
    | none => text

/-- Changes the case of the first, or of all, characters that fit. -/
def changeCase (pattern : Pattern) (upper all : Bool) (text : List Char) : List Char :=
  let change (c : Char) : Char :=
    if pattern ≠ [] && !pattern.fits [c] then c else if upper then c.toUpper else c.toLower
  match text with
  | [] => []
  | c :: rest => change c :: if all then rest.map change else rest

end Pattern

end CatalogSeed.Script
