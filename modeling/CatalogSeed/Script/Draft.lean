import CatalogSeed.Script.Reader
import CatalogSeed.Text.Utf8

/-!
What is needed to read words: where a text stands and what ends it, the word as far as it is read,
and the pieces of text that hold no parts to fill in.
-/

namespace CatalogSeed.Script

/-- The parsers for commands in a word: those between parentheses, and those of a whole text. -/
structure Inner where
  parenthesized : Parser (Option Command)
  whole : Parser (Option Command)

/-- What ends the text that is being read. -/
inductive Closing
  | delimiter
  | brace
  /-- A sign or a closing brace, neither of which is read. -/
  | sign (c : Char)
  | quote
  | bracket
  | parentheses
  /-- The end of a regular expression, which is a blank outside its groups. -/
  | expression
  | mark (text : List Char) (outdented : Bool)
  deriving DecidableEq

/-- Where a text stands: the line it begins at, whether double quotes and braces are around it, and
the mark that ends the here-document it is in, which may be outdented. In a plain text nothing is
filled in. -/
structure Context where
  closing : Closing
  quoted : Bool
  nested : Bool
  document : Option (List Char × Bool)
  plain : Bool
  line : Nat

/-- A word as far as it is read, the last part first. -/
structure Draft where
  parts : List Part
  text : List Char
  quoted : Bool

namespace Draft

def empty : Draft := ⟨[], [], false⟩

def close (draft : Draft) : List Part :=
  if draft.text = [] then draft.parts
  else .literal (String.ofList draft.text.reverse) draft.quoted :: draft.parts

def add (c : Char) (quoted : Bool) (draft : Draft) : Draft :=
  if draft.text = [] ∨ draft.quoted = quoted then { draft with text := c :: draft.text, quoted }
  else ⟨draft.close, [c], quoted⟩

def addAll (text : List Char) (quoted : Bool) (draft : Draft) : Draft :=
  text.foldl (fun draft c => draft.add c quoted) draft

def push (part : Part) (draft : Draft) : Draft :=
  ⟨part :: draft.close, [], false⟩

def word (draft : Draft) : Word :=
  draft.close.reverse

/-- Joins what was read between quotes; an empty text leaves a trace. -/
def pushQuoted (draft inside : Draft) : Draft :=
  match inside.word with
  | [] => draft.push .quotes
  | word => ⟨word.reverse ++ draft.close, [], false⟩

end Draft

/-- The sign that ends a text. -/
def Closing.text : Closing → String
  | .quote => "\""
  | .bracket => "]"
  | .parentheses => ")"
  | _ => "\x7d"

/-- Characters that a backslash between double quotes takes the meaning from. -/
def Context.escapes (context : Context) (c : Char) : Bool :=
  c = '\\' || c = '\x60' || c = '$' || (c = '"' && (context.document.isNone || context.nested)) ||
    (c = '\x7d' && context.nested)

namespace Parser

/-- Complains about a text that does not end. -/
def unclosedText {α : Type} (context : Context) : Parser α :=
  unclosed context.line
    (if context.closing = .parentheses then "Missing '))'"
      else if context.quoted && context.document.isNone then "Unterminated quoted string"
      else "Missing '\x7d'")
    context.closing.text

/-- Reads up to a single quote. -/
def singleQuoted (line : Nat) : Nat → Draft → Parser Draft
  | 0, _ => unclosed line "Unterminated quoted string" "'"
  | fuel + 1, draft => do
      match ← takeRaw? with
      | none => unclosed line "Unterminated quoted string" "'"
      | some '\'' => return draft
      | some c => singleQuoted line fuel (draft.add c true)

/-- The text of an old-style substitution, up to the quote that ends it. -/
def backquoted (line : Nat) (quoted : Bool) : Nat → List Char → Parser (List Char)
  | 0, _ => unclosed line "EOF in backquote substitution" "\x60"
  | fuel + 1, before => do
      match ← take? with
      | none => unclosed line "EOF in backquote substitution" "\x60"
      | some '\x60' => return before.reverse
      | some '\\' =>
          match ← takeRaw? with
          | none => unclosed line "EOF in backquote substitution" "\x60"
          | some c =>
              if c = '\\' ∨ c = '\x60' ∨ c = '$' ∨ (quoted ∧ c = '"') then
                backquoted line quoted fuel (c :: before)
              else backquoted line quoted fuel (c :: '\\' :: before)
      | some c => backquoted line quoted fuel (c :: before)

/-- Reads another text with the same here-documents. -/
def within {α : Type} (text : List Char) (parser : Parser α) : Parser α := fun reader => do
  let line := if reader.dialect = .plain then 1 else reader.line
  let (result, inside) ← parser { reader with rest := text, line, ahead := none, pending := [] }
  return (result, { reader with documents := inside.documents, asked := inside.asked })

def substitution (inner : Inner) (quoted : Bool) : Parser Part := do
  let reader ← get
  set { reader with ahead := none, pending := [] }
  let commands ← inner.parenthesized
  modify fun inside => { inside with ahead := none, pending := reader.pending }
  return .output commands quoted

/-- Takes the rest of a line and its end if the line is this mark; also when it is the last one. -/
def endsAt (mark : List Char) (outdented : Bool) : Parser Bool := modifyGet fun reader =>
  let rest := if outdented then reader.rest.dropWhile (· = '\t') else reader.rest
  let reader := { reader with rest }
  if rest.take mark.length = mark then
    match rest.drop mark.length with
    | [] => (true, { reader with rest := [] })
    | '\n' :: later => (true, { reader with rest := later, line := reader.line + 1 })
    | _ => (false, reader)
  else (false, reader)

/-- Takes note of a here-document that is still open at the end of the script. -/
def noteOpen (line : Nat) (mark : List Char) : Parser Unit :=
  modify fun reader =>
    let message := "warning: here-document at line " ++ String.ofList (Nat.toDigits 10 line) ++
      " delimited by end-of-file (wanted \x60" ++ String.ofList mark ++ "')"
    if mark = [] || reader.dialect = .plain then reader
    else { reader with warnings := reader.warnings ++ [(reader.line, message)] }

/-- The digits of a number in a base at the front of a text, at most so many. -/
def escapeDigits (base most : Nat) (text : List Char) : List Char :=
  (text.take most).takeWhile fun c =>
    if base = 8 then '0' ≤ c && c ≤ '7'
    else c.isDigit || ('a' ≤ c.toLower && c.toLower ≤ 'f')

def escapeValue (base : Nat) (digits : List Char) : Nat :=
  digits.foldl (fun value c =>
    base * value + (if c.isDigit then c.toNat - 48 else c.toLower.toNat - 87)) 0

/-- What stands behind a backslash in a text with escapes, and how much of it there is. -/
def namedEscape (text : List Char) : List Char × Nat :=
  let number (base most skipped : Nat) (encoded : Bool) : Option (List Char × Nat) :=
    let digits := escapeDigits base most (text.drop skipped)
    let value := escapeValue base digits
    if digits = [] then none
    else some (if encoded && 127 < value then
        let width := if value < 65536 then 4 else 8
        let digits := (Nat.toDigits 16 value).map Char.toUpper
        ['\\', if width = 4 then 'u' else 'U'] ++
          List.replicate (width - digits.length) '0' ++ digits
      else [Char.ofNat (value % 256)], skipped + digits.length)
  match text with
  | [] => (['\\'], 0)
  | c :: _ =>
      let found := match c with
        | 'x' => number 16 2 1 false
        | 'u' => number 16 4 1 true
        | 'U' => number 16 8 1 true
        | 'c' => (text[1]?).map fun d => ([Char.ofNat (d.toUpper.toNat % 32)], 2)
        | _ => number 8 3 0 false
      match found with
      | some found => found
      | none =>
          match [('a', '\x07'), ('b', '\x08'), ('e', '\x1b'), ('E', '\x1b'), ('f', '\x0c'),
              ('n', '\n'), ('r', '\x0d'), ('t', '\t'), ('v', '\x0b'), ('\\', '\\'),
              ('\'', '\''), ('"', '"'), ('?', '?')].lookup c with
          | some plain => ([plain], 1)
          | none => (['\\', c], 1)

/-- Reads a text with escapes up to a single quote. -/
def escapeQuoted (line : Nat) : Nat → Draft → Parser Draft
  | 0, _ => unclosed line "Unterminated quoted string" "'"
  | fuel + 1, draft => do
      match ← takeRaw? with
      | none => unclosed line "Unterminated quoted string" "'"
      | some '\'' => return draft
      | some '\\' =>
          let reader ← get
          let (chars, count) := namedEscape reader.rest
          let lines := (reader.rest.take count).count '\n'
          set { reader with rest := reader.rest.drop count, line := reader.line + lines }
          escapeQuoted line fuel (draft.addAll (chars.filter (· ≠ '\x00')) true)
      | some c => escapeQuoted line fuel (draft.add c true)

def parameterName (c : Char) : Parser String := do
  let fuel ← remaining
  let name ← takeWhile (if c.isDigit then Char.isDigit else isNameChar) fuel [c]
  return String.ofList name

/-- What a sign behind a parameter's name asks for. -/
def formOf? (colon : Bool) : Char → Option Form
  | '-' => some (.orElse colon)
  | '=' => some (.orAssign colon)
  | '?' => some (.orFail colon)
  | '+' => some (.ifSet colon)
  | _ => none

/-- Reads the sign behind a parameter's name; without one the parameter ends here, and `none` is
given. -/
def form : Parser (Option Form) := do
  let extended ← isExtended
  match ← take? with
  | some '\x7d' => return none
  | some ':' =>
      match (← peek?).bind (formOf? true) with
      | some form =>
          skip
          return some form
      | none =>
          if extended then return some .slice
          else
            let line := (← get).line
            skip
            modify fun reader => { reader with line }
            return some (.invalid "")
  | some '%' =>
      let longest ← skipIf '%'
      return some (.trimmed true longest)
  | some '#' =>
      let longest ← skipIf '#'
      return some (.trimmed false longest)
  | some '/' =>
      if !extended then return some (.invalid "")
      if ← skipIf '/' then return some (.replaced true none)
      else if ← skipIf '#' then return some (.replaced false (some false))
      else if ← skipIf '%' then return some (.replaced false (some true))
      else return some (.replaced false none)
  | some '@' =>
      if !extended then return some (.invalid "")
      else if ← skipIf 'Q' then return some .asInput
      else if ← skipIf 'U' then return some (.cased true true)
      else if ← skipIf 'u' then return some (.cased true false)
      else if ← skipIf 'L' then return some (.cased false true)
      else return some (.invalid "")
  | some c =>
      if extended ∧ (c = '^' ∨ c = ',') then
        let all ← skipIf c
        return some (.cased (c = '^') all)
      else
        if c = '\n' ∧ !extended then
          modify fun reader => { reader with line := reader.line - 1 }
        return some ((formOf? false c).getD (.invalid ""))
  | none => return some (.invalid "")

/-- Reads the front of what stands between braces: whether its length or what it names is asked
for, and the name. -/
def bracedName : Parser (Option Form × String) := do
  let named (front : Option Form) (c : Char) : Parser (Option Form × String) := do
    skip
    return (front, ← parameterName c)
  match ← peek? with
  | some '#' =>
      skip
      match ← peek? with
      | none => return (none, "#")
      | some c =>
          if isNameChar c then named (some .length) c
          else if c ≠ '\x7d' then
            skip
            if (← peek?) = some '\x7d' then
              return if isSpecial c then (some .length, c.toString) else (some (.invalid ""), "")
            else
              putBack c
              return (none, "#")
          else return (none, "#")
  | some '!' =>
      skip
      match ← peek? with
      | some c =>
          let reader ← get
          let special := (reader.rest.drop 1).head? = some '\x7d' && isSpecial c
          if reader.dialect = .plain then return (none, "!")
          else if isNameChar c then named (some .indirect) c
          else if special then
            skip
            return (some .indirect, c.toString)
          else return (none, "!")
      | none => return (none, "!")
  | some c =>
      if isNameChar c then named none c
      else if isSpecial c then
        skip
        return (none, c.toString)
      else
        let reader ← get
        unless c = '\x7d' do skip
        if c = '\n' && reader.dialect = .plain then
          modify fun after => { after with line := reader.line }
        return (some (.invalid ""), "")
  | none => return (some (.invalid ""), "")

/-- A copy of the text from one place of reading to a later one. -/
def textBetween (before after : Reader) : String :=
  String.ofList (before.rest.take (before.rest.length - after.rest.length))

end Parser

end CatalogSeed.Script
