import CatalogSeed.Utility.Regex

/-!
Parting texts: an input into records, and a record into fields.
-/

namespace CatalogSeed.Utility.Awk

/-- Reads what is left of a set behind its opening bracket and first sign. Escaped characters that
would mean something where they stand are kept apart. -/
def setBody : Nat → List Char → List Char → List Char → List Char × List Char × List Char
  | 0, text, body, apart => (body.reverse, apart, text)
  | fuel + 1, text, body, apart =>
      match text with
      | [] => (body.reverse, apart, [])
      | ']' :: rest => (body.reverse, apart, ']' :: rest)
      | '\\' :: c :: rest =>
          let letters := [('t', '\t'), ('n', '\n'), ('r', '\r'), ('f', '\x0c'), ('v', '\x0b')]
          match letters.lookup c with
          | some meant => setBody fuel rest (meant :: body) apart
          | none =>
              if c = ']' ∨ c = '-' ∨ c = '^' then setBody fuel rest body (c :: apart)
              else setBody fuel rest (c :: body) apart
      | '[' :: ':' :: rest =>
          let (name, rest) := rest.span fun c => c.isAlpha
          setBody fuel (rest.drop 2) (((['[', ':'] ++ name ++ [':', ']']).reverse) ++ body) apart
      | c :: rest => setBody fuel rest (c :: body) apart

/-- An expression as it is spelled here, with the escapes in its sets and the letters that name
control characters replaced. -/
def plainSpelling : Nat → List Char → List Char
  | 0, _ => []
  | _ + 1, [] => []
  | fuel + 1, '\\' :: c :: rest =>
      let letters := [('/', '/'), ('"', '"'), ('a', '\x07'), ('f', '\x0c'), ('r', '\r'),
        ('v', '\x0b'), ('t', '\t'), ('n', '\n')]
      match letters.lookup c with
      | some meant => meant :: plainSpelling fuel rest
      | none => '\\' :: c :: plainSpelling fuel rest
  | fuel + 1, '[' :: rest =>
      let (sign, rest) := match rest with
        | '^' :: rest => (['^'], rest)
        | rest => ([], rest)
      let (first, rest) := match rest with
        | ']' :: rest => ([']'], rest)
        | rest => ([], rest)
      let (body, apart, rest) := setBody (rest.length + 1) rest [] []
      let front := first ++ (if apart.contains ']' then [']'] else [])
      let back := (if apart.contains '^' then ['^'] else []) ++
        (if apart.contains '-' then ['-'] else [])
      '[' :: sign ++ front ++ body ++ back ++ plainSpelling fuel rest
  | fuel + 1, c :: rest => c :: plainSpelling fuel rest

def regexOf (text : String) : Except String Regex :=
  Regex.parse ⟨true, true⟩ (plainSpelling (text.length + 1) text.toList)

/-- The subject that a text is for a search. -/
def subjectOf (text : List Char) : Regex.Subject := ⟨text.toArray, false, false⟩

/-- The first match that is not empty, from a position on: where it begins and ends. -/
def findPart? (regex : Regex) (subject : Regex.Subject) : Nat → Nat → Option (Nat × Nat)
  | 0, _ => none
  | fuel + 1, start =>
      match regex.find? subject start with
      | some (first, place) =>
          if first < place.position then some (first, place.position)
          else findPart? regex subject fuel (first + 1)
      | none => none

inductive Separator
  | blanks
  | each
  | matching (regex : Regex)

/-- A separator as it is given: a blank for blanks, a character for itself, and an expression. Line
ends may separate too. -/
def Separator.ofText (text : String) (lines : Bool) : Except String Separator :=
  let wide (regex : Regex) : Separator :=
    .matching (if lines then .either [regex, .one '\n'] else regex)
  match text.toList with
  | [' '] => .ok .blanks
  | [] => .ok .each
  | [c] => .ok (wide (.one c))
  | _ => (regexOf text).map wide

/-- Parts a text at the matches of an expression. -/
def partsFrom (regex : Regex) (text : List Char) (subject : Regex.Subject) :
    Nat → Nat → List (List Char)
  | 0, start => [text.drop start]
  | fuel + 1, start =>
      match findPart? regex subject (text.length + 1) start with
      | some (first, stop) =>
          ((text.take first).drop start) :: partsFrom regex text subject fuel stop
      | none => [text.drop start]

def splitText (separator : Separator) (text : String) : List String :=
  let chars := text.toList
  if chars = [] then []
  else match separator with
    | .blanks =>
        let isGap (c : Char) : Bool := c = ' ' || c = '\t' || c = '\n'
        ((chars.splitOnP isGap).filter (· ≠ [])).map String.ofList
    | .each => chars.map Char.toString
    | .matching (.one c) => (chars.splitOn c).map String.ofList
    | .matching regex =>
        (partsFrom regex chars (subjectOf chars) (chars.length + 1) 0).map String.ofList

/-- A text up to an empty line or its end, and what stands behind. -/
def paragraph : List Char → List Char × List Char
  | '\n' :: '\n' :: rest => ([], rest)
  | ['\n'] => ([], [])
  | c :: rest =>
      let (front, behind) := paragraph rest
      (c :: front, behind)
  | [] => ([], [])

/-- Takes the first record off a text; none if there is no more. -/
def takeRecord? (separator : String) (text : List Char) :
    Except String (Option (List Char × List Char)) :=
  match separator.toList with
  | [] =>
      match text.dropWhile (· = '\n') with
      | [] => .ok none
      | chars =>
          let (record, rest) := paragraph chars
          .ok (some (record, rest.dropWhile (· = '\n')))
  | [c] =>
      if text = [] then .ok none
      else
        let (record, rest) := text.span (· ≠ c)
        .ok (some (record, rest.drop 1))
  | _ =>
      if text = [] then .ok none
      else (regexOf separator).map fun regex =>
        match findPart? regex (subjectOf text) (text.length + 1) 0 with
        | some (first, stop) => some (text.take first, text.drop stop)
        | none => some (text, [])

end CatalogSeed.Utility.Awk
