import CatalogSeed.Settings.Options
import CatalogSeed.Text.Letters

/-!
Files that set variables of the environment: lines of a name, an equals sign and a value, which
may be quoted, go over several lines, and name other variables. Variables that are set already
stay as they are, and what is wrong in a line ends the file there.
-/

namespace CatalogSeed.EnvFile

open Text

/-- Where the search for the end of a line stands: outside quotes, behind a blank, or within
double or single quotes; `escaped` is set behind a backslash. -/
inductive LineState
  | plain (escaped : Bool)
  | blank
  | double (escaped : Bool)
  | single (escaped : Bool)
  deriving DecidableEq

namespace LineState

def begin (c : Char) : LineState :=
  if c = '\\' then .plain true
  else if c = '"' then .double false
  else if c = '\'' then .single false
  else .plain false

/-- The state behind a character; `none` where a comment begins. -/
def next (state : LineState) (c : Char) : Option LineState :=
  match state with
  | .plain true => some (.plain false)
  | .plain false =>
      if isBlank c ∧ c ≠ '\n' ∧ c ≠ '\r' then some .blank else some (begin c)
  | .blank => if c = '#' then none else some (begin c)
  | .double true => some (.double false)
  | .double false =>
      if c = '\\' then some (.double true)
      else if c = '"' then some (.plain false)
      else some (.double false)
  | .single true => some (.single false)
  | .single false =>
      if c = '\\' then some (.single true)
      else if c = '\'' then some (.plain false)
      else some (.single false)

end LineState

/-- Follows a line to its end, or to where a comment begins. -/
def follow : LineState → List Char → List Char × Option LineState
  | state, [] => ([], some state)
  | state, c :: rest =>
      match state.next c with
      | none => ([], none)
      | some next =>
          let (kept, last) := follow next rest
          (c :: kept, last)

def dropLineEnd (line : List Char) : List Char :=
  match line.reverse with
  | '\n' :: '\r' :: rest => rest.reverse
  | '\n' :: rest => rest.reverse
  | _ => line

/-- Joins lines whose quotes go on; `begun` is what came before of the line. A comment line gives
an empty one, and an unfinished line at the end is `none`. -/
def logicalLines (begun : List Char) (state : LineState) :
    List (List Char) → List (Option (List Char))
  | [] => if state = .plain false then [] else [none]
  | line :: rest =>
      if ((begun ++ line).dropWhile isBlank).head? = some '#' then
        some [] :: logicalLines [] (.plain false) rest
      else match follow state line with
        | (kept, none) => some (begun ++ kept) :: logicalLines [] (.plain false) rest
        | (_, some (.plain false)) =>
            some (dropLineEnd (begun ++ line)) :: logicalLines [] (.plain false) rest
        | (_, some state) => logicalLines (begun ++ line) state rest

def isKeyStart (c : Char) : Bool :=
  c.isAlpha || c = '_'

def isKeyChar (c : Char) : Bool :=
  c.isAlphanum || c = '_' || c = '.'

/-- How a value goes on: outside quotes, within them, behind the dollar sign of a variable (its
name so far), within the braces of one, or behind a blank that only a comment may follow. -/
inductive ValueState
  | plain
  | double
  | single
  | name (letters : List Char) (quoted : Bool)
  | braces (letters : List Char) (quoted : Bool)
  | ending
  deriving DecidableEq

/-- Reads a value; `lookUp` gives what variables stand for. `none` is a value with something
wrong. -/
def value (lookUp : String → String) : ValueState → Bool → List Char → Option (List Char)
  | .ending, _, [] => some []
  | .plain, _, [] => some []
  | .name letters false, _, [] => some (lookUp (String.ofList letters)).toList
  | _, _, [] => none
  | .ending, _, c :: rest =>
      if c = ' ' ∨ c = '\t' then value lookUp .ending false rest
      else if c = '#' then some []
      else none
  | state, true, c :: rest =>
      if c = 'n' then (value lookUp state false rest).map ('\n' :: ·)
      else if ['\\', '\'', '"', '$', ' '].contains c then
        (value lookUp state false rest).map (c :: ·)
      else none
  | .single, _, c :: rest =>
      if c = '\'' then value lookUp .plain false rest
      else (value lookUp .single false rest).map (c :: ·)
  | .name letters quoted, _, c :: rest =>
      let outside : ValueState := if quoted then .double else .plain
      if isLetterOrDigit c then value lookUp (.name (letters ++ [c]) quoted) false rest
      else if c = '\x7b' ∧ letters = [] then value lookUp (.braces [] quoted) false rest
      else
        let text := (lookUp (String.ofList letters)).toList
        if c = '$' then (value lookUp (.name [] quoted) false rest).map (text ++ ·)
        else (value lookUp outside false rest).map (text ++ c :: ·)
  | .braces letters quoted, _, c :: rest =>
      let outside : ValueState := if quoted then .double else .plain
      if c = '\x7d' then
        (value lookUp outside false rest).map ((lookUp (String.ofList letters)).toList ++ ·)
      else value lookUp (.braces (letters ++ [c]) quoted) false rest
  | .double, _, c :: rest =>
      if c = '$' then value lookUp (.name [] true) false rest
      else if c = '"' then value lookUp .plain false rest
      else if c = '\\' then value lookUp .double true rest
      else (value lookUp .double false rest).map (c :: ·)
  | .plain, _, c :: rest =>
      if c = '$' then value lookUp (.name [] false) false rest
      else if c = '\'' then value lookUp .single false rest
      else if c = '"' then value lookUp .double false rest
      else if c = '\\' then value lookUp .plain true rest
      else if c = ' ' ∨ c = '\t' then value lookUp .ending false rest
      else (value lookUp .plain false rest).map (c :: ·)

/-- What a line sets: nothing, when it is empty or a comment. `none` is a line with something
wrong. -/
def setting (lookUp : String → String) (line : List Char) : Option (Option (String × String)) :=
  let blankless (text : List Char) : List Char := text.dropWhile isBlank
  let key (text : List Char) : Option (List Char × List Char) :=
    match text with
    | c :: _ =>
        if isKeyStart c then
          let (name, rest) := text.span isKeyChar
          some (name, blankless rest)
        else none
    | [] => none
  let sets (name rest : List Char) : Option (Option (String × String)) :=
    match rest with
    | '=' :: rest =>
        let name := String.ofList name
        match blankless rest with
        | [] => some (some (name, ""))
        | '#' :: _ => some (some (name, ""))
        | rest => (value lookUp .plain false rest).map fun text =>
            some (name, String.ofList text)
    | _ => none
  match blankless (trimEnd line) with
  | [] => some none
  | '#' :: _ => some none
  | text => do
      let (name, rest) ← key text
      if name = "export".toList ∧ rest.head? ≠ some '=' then
        let (name, rest) ← key rest
        sets name rest
      else sets name rest

/-- Sets the variables of each line in turn, as long as nothing is wrong. -/
def setAll (environment : Environment) : List (Option (List Char)) → Environment
  | [] => environment
  | none :: _ => environment
  | some line :: rest =>
      match setting (fun name => (environment.find? name).getD "") line with
      | none => environment
      | some none => setAll environment rest
      | some (some (name, value)) =>
          if (environment.lookup name).isSome then setAll environment rest
          else setAll ((name, value) :: environment) rest

/-- The text of a file up to its first line that is not well formed, without a byte order mark. -/
def wellFormedLines (content : List UInt8) : List (List Char) :=
  let content := match content with
    | 0xEF :: 0xBB :: 0xBF :: rest => rest
    | content => content
  let lines := content.foldr (fun b (lines : List (List UInt8)) => match lines with
    | line :: later => if b = 0x0A then [0x0A] :: line :: later else (b :: line) :: later
    | [] => [[b]]) []
  ((lines.map Utf8.decode).takeWhile Option.isSome).map fun line => (line.getD "").toList

/-- The environment with what a file adds to it. -/
def load (environment : Environment) (content : List UInt8) : Environment :=
  setAll environment (logicalLines [] (.plain false) (wellFormedLines content))

end CatalogSeed.EnvFile
