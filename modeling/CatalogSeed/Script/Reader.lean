import CatalogSeed.Script.Tree

/-!
The text of a script while it is read: what is left of it, the line it has come to, and the
here-documents that are asked for. A backslash at the end of a line joins it to the next one.
-/

namespace CatalogSeed.Script

/-- Why a script cannot be read on, and the line where this shows; `cited` tells that the line
itself goes with the messages. -/
structure Fault where
  line : Nat
  messages : List String
  cited : Bool

/-- A here-document that is asked for and whose body is still to come. -/
structure Pending where
  number : Nat
  mark : List Char
  outdented : Bool
  quoted : Bool
  line : Nat

/-- Scripts have a plain form and one with more constructs. -/
inductive Dialect
  | plain
  | extended
  deriving DecidableEq

inductive Token
  | word (parts : Word)
  | keyword (text : String)
  | operator (text : String)
  | redirect (descriptor : Option Nat) (operator : String)
  | newLine
  | ended

/-- How a token is named when it stands where it must not. -/
def Token.describe : Token → String
  | .word _ => "word"
  | .keyword text | .operator text => "\"" ++ text ++ "\""
  | .redirect _ _ => "redirection"
  | .newLine => "newline"
  | .ended => "end of file"

namespace Part

def isQuoted : Part → Bool
  | .literal _ quoted | .parameter _ _ _ _ quoted | .output _ quoted | .number _ quoted => quoted
  | .quotes => true
  | _ => false

/-- Whether this stands for all arguments, each one a field. -/
def isArguments : Part → Bool
  | .parameter name _ _ _ _ => name = "@"
  | _ => false

def isLiteral : Part → Bool
  | .literal _ _ => true
  | _ => false

/-- A part as it is written, as far as that can be told from what it means. -/
def text : Part → String
  | .literal text _ => text
  | .parameter name [] .value _ _ => "$" ++ name
  | .parameter name [] .length _ _ => "$\x7b#" ++ name ++ "\x7d"
  | .parameter name (index :: _) form _ _ =>
      let key := String.join (index.map fun
        | .literal text _ => text
        | .parameter name _ _ _ _ => "$" ++ name
        | _ => "")
      let front := match form with
        | .length => "#"
        | .keys => "!"
        | _ => ""
      "$\x7b" ++ front ++ name ++ "[" ++ key ++ "]\x7d"
  | .parameter name _ _ _ _ => "$\x7b" ++ name ++ "\x7d"
  | _ => ""

end Part

/-- A word as it is written, with quotes around what stands between quotes. -/
def Word.text (word : Word) : String :=
  let groups := word.splitBy fun a b => a.isQuoted = b.isQuoted
  String.join (groups.map fun group =>
    let text := String.join (group.map Part.text)
    if !(group.any Part.isQuoted) then text
    else if group.all Part.isLiteral then "'" ++ text ++ "'"
    else "\"" ++ text ++ "\"")

/-- The text of a token. -/
def Token.text : Token → String
  | .word parts => parts.text
  | .keyword text | .operator text => text
  | .redirect _ sign => sign
  | .newLine => "newline"
  | .ended => "end of file"

/-- `asked` counts the here-documents asked for; `replacing` are the aliases whose replacement is
being read, each with how much is left behind it. Where an alias ends with a blank, `following`
tells how much is left when the next word begins, which may be an alias too. -/
structure Reader where
  rest : List Char
  line : Nat
  ahead : Option Token
  pending : List Pending
  documents : List (Nat × Word)
  asked : Nat
  aliases : List (String × String)
  replacing : List (String × Nat)
  following : Option Nat
  warnings : List (Nat × String)
  dialect : Dialect

abbrev Parser := StateT Reader (Except Fault)

def isNameStart (c : Char) : Bool :=
  c.isAlpha || c = '_'

def isNameChar (c : Char) : Bool :=
  c.isAlphanum || c = '_'

/-- Parameters whose name is one sign. -/
def isSpecial (c : Char) : Bool :=
  c.isDigit || "*@#?$!-".toList.contains c

def isBlank (c : Char) : Bool :=
  c = ' ' || c = '\t'

/-- What ends a word. -/
def isDelimiter (c : Char) : Bool :=
  isBlank c || "\n;&|<>()".toList.contains c

namespace Parser

def isExtended : Parser Bool :=
  return (← get).dialect = .extended

def fail {α : Type} (message : String) : Parser α := fun reader =>
  .error ⟨reader.line, match reader.dialect with
    | .plain => ["Syntax error: " ++ message]
    | .extended => [message], false⟩

/-- Complains about a token, and tells what was wanted in its place. -/
def unexpected {α : Type} (token : Token) (wanted : Option Token) : Parser α := fun reader =>
  match reader.dialect, token with
  | .plain, _ =>
      let wish := match wanted with
        | some token => " (expecting " ++ token.describe ++ ")"
        | none => ""
      .error ⟨reader.line, ["Syntax error: " ++ token.describe ++ " unexpected" ++ wish], false⟩
  | .extended, .ended => .error ⟨reader.line, ["syntax error: unexpected end of file"], false⟩
  | .extended, token =>
      let line := match token with
        | .newLine => reader.line - 1
        | _ => reader.line
      .error ⟨line, ["syntax error near unexpected token \x60" ++ token.text ++ "'"], true⟩

/-- Complains about a text that was begun at a line and has no end. -/
def unclosed {α : Type} (line : Nat) (plain mark : String) : Parser α := fun reader =>
  match reader.dialect with
  | .plain => .error ⟨reader.line, ["Syntax error: " ++ plain], false⟩
  | .extended =>
      .error ⟨line, ["unexpected EOF while looking for matching \x60" ++ mark ++ "'"], false⟩

/-- Takes joined lines off the front, and counts them. -/
def joinLines : List Char → Nat × List Char
  | '\\' :: '\n' :: rest =>
      let (lines, rest) := joinLines rest
      (lines + 1, rest)
  | rest => (0, rest)

/-- The next character as it is written. -/
def takeRaw? : Parser (Option Char) := modifyGet fun reader =>
  match reader.rest with
  | [] => (none, reader)
  | c :: rest =>
      (some c, { reader with rest, line := if c = '\n' then reader.line + 1 else reader.line })

/-- Looks at the next character of the joined lines. -/
def peek? : Parser (Option Char) := modifyGet fun reader =>
  let (lines, rest) := joinLines reader.rest
  (rest.head?, { reader with rest, line := reader.line + lines })

/-- The next character of the joined lines. -/
def take? : Parser (Option Char) := do
  let _ ← peek?
  takeRaw?

def skip : Parser Unit := do
  let _ ← take?

def putBack (c : Char) : Parser Unit :=
  modify fun reader => { reader with rest := c :: reader.rest }

/-- Takes a character if it is the next one. -/
def skipIf (c : Char) : Parser Bool := do
  if (← peek?) = some c then
    skip
    return true
  else return false

/-- Takes characters as long as they are of a kind; the first ones are given. -/
def takeWhile (kind : Char → Bool) : Nat → List Char → Parser (List Char)
  | 0, before => return before.reverse
  | fuel + 1, before => do
      match ← peek? with
      | some c =>
          if kind c then
            skip
            takeWhile kind fuel (c :: before)
          else return before.reverse
      | none => return before.reverse

def remaining : Parser Nat :=
  return (← get).rest.length

/-- Puts a token back, so that it is read again. -/
def putAhead (token : Token) : Parser Unit :=
  modify fun reader => { reader with ahead := some token }

end Parser

end CatalogSeed.Script
