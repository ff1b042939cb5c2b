import CatalogSeed.Script.Word

/-!
Cutting a script into tokens: words, keywords, operators, redirections and line ends. The bodies
of here-documents are read at the line end behind them.
-/

namespace CatalogSeed.Script

/-- Which tokens are wanted: behind line ends, keywords, aliases, the mark of a here-document, and
settings. -/
structure Wanted where
  newLines : Bool
  keywords : Bool
  aliases : Bool
  mark : Bool
  settings : Bool

namespace Wanted

def nothing : Wanted := ⟨false, false, false, false, false⟩
def command : Wanted := ⟨false, true, true, false, true⟩
def afterLines : Wanted := ⟨true, true, true, false, true⟩
def clause : Wanted := ⟨true, true, false, false, false⟩

end Wanted

def keywords : List String :=
  ["!", "case", "do", "done", "elif", "else", "esac", "fi", "for", "if", "in", "then", "until",
    "while", "\x7b", "\x7d"]

/-- Further keywords of the extended dialect. -/
def extendedKeywords : List String := ["[[", "function"]

/-- Commands that end the shell when they are used in a wrong way. -/
def specialCommands : List String :=
  [".", ":", "break", "continue", "eval", "exec", "exit", "export", "local", "readonly", "return",
    "set", "shift", "times", "trap", "unset"]

def isName (text : String) : Bool :=
  match text.toList with
  | c :: rest => isNameStart c && rest.all isNameChar
  | [] => false

/-- The text of a word without quotes and without parts to fill in. -/
def Word.plain? : Word → Option String
  | [.literal text false] => some text
  | _ => none

/-- A word that sets a variable begins with a name and an equals sign. -/
def Word.isSetting : Word → Bool
  | .setting _ _ _ :: _ => true
  | .literal text false :: _ =>
      match text.toList.span (· ≠ '=') with
      | (name, '=' :: _) => isName (String.ofList name)
      | _ => false
  | _ => false

/-- The mark of a here-document, and whether any of it is quoted. -/
def Word.mark (word : Word) : List Char × Bool :=
  (word.flatMap fun
    | .literal text _ => text.toList
    | _ => [],
  word.any fun
    | .literal _ quoted => quoted
    | _ => true)

namespace Token

/-- Whether a list of commands ends before this token. -/
def endsList : Token → Bool
  | .ended => true
  | .operator text => [")", ";;", ";;&", ";&"].contains text
  | .keyword text =>
      ["do", "done", "elif", "else", "esac", "fi", "then", "\x7d"].contains text
  | _ => false

def isOperator (text : String) : Token → Bool
  | .operator other => text = other
  | _ => false

def isKeyword (text : String) : Token → Bool
  | .keyword other => text = other
  | _ => false

/-- The word of a token where keywords count as words. -/
def toWord : Token → Word
  | .word parts => parts
  | .keyword text => [.literal text false]
  | _ => []

end Token

namespace Parser

/-- An operator that may be doubled. -/
def doubled (c : Char) : Parser Token := do
  let extended ← isExtended
  if ← skipIf c then
    if extended && c = ';' && (← skipIf '&') then return .operator ";;&"
    else return .operator (String.ofList [c, c])
  else if extended && c ≠ '&' && (← skipIf '&') then return .operator (String.ofList [c, '&'])
  else return .operator c.toString

def redirection (descriptor : Option Nat) (sign : Char) : Parser Token := do
  let signs := if sign = '>' then ">|&".toList else "<&>".toList
  match ← peek? with
  | some c =>
      if signs.contains c then
        skip
        if sign = '<' ∧ c = '<' then
          if ← skipIf '-' then return .redirect descriptor "<<-"
          else if (← isExtended) && (← skipIf '<') then return .redirect descriptor "<<<"
          else return .redirect descriptor "<<"
        else return .redirect descriptor (String.ofList [sign, c])
      else return .redirect descriptor sign.toString
  | none => return .redirect descriptor sign.toString

/-- The descriptor that a redirection's sign follows without a blank. -/
def descriptor? (extended : Bool) : Draft → Option (Option Nat)
  | ⟨[], [], _⟩ => some none
  | ⟨[], backwards, false⟩ =>
      if backwards.all Char.isDigit && (backwards.length = 1 || extended) then
        (String.ofList backwards.reverse).toNat?.map some
      else none
  | _ => none

/-- Reads values between parentheses; line ends and comments may stand between them. -/
def elements (inner : Inner) (line : Nat) : Nat → Parser (List Word)
  | 0 => unclosed line "Missing ')'" ")"
  | fuel + 1 => do
      match ← peek? with
      | none => unclosed line "Missing ')'" ")"
      | some ')' =>
          skip
          return []
      | some '#' =>
          modify fun reader => { reader with rest := reader.rest.dropWhile (· ≠ '\n') }
          elements inner line fuel
      | some c =>
          if isBlank c || c = '\n' then
            skip
            elements inner line fuel
          else if isDelimiter c then
            unexpected (.operator c.toString) none
          else
            let word := (← wordFrom inner false .empty).word
            return word :: (← elements inner line fuel)

/-- Reads the next token behind blanks and comments. -/
def scan (inner : Inner) (wanted : Wanted) : Nat → Parser Token
  | 0 => return .ended
  | fuel + 1 => do
      match ← peek? with
      | none => return .ended
      | some '\n' => skip; return .newLine
      | some '#' =>
          modify fun reader => { reader with rest := reader.rest.dropWhile (· ≠ '\n') }
          scan inner wanted fuel
      | some '(' => skip; return .operator "("
      | some ')' => skip; return .operator ")"
      | some c =>
          let extended ← isExtended
          if isBlank c then
            skip
            scan inner wanted fuel
          else if "&|;".toList.contains c then
            skip
            if extended ∧ c = '&' ∧ (← peek?) = some '>' then
              skip
              if ← skipIf '>' then return .redirect none "&>>" else return .redirect none "&>"
            else doubled c
          else
            let line := (← get).line
            let front ← if extended && wanted.settings then
                settingFront? inner (do elements inner line ((← remaining) + 1))
              else pure none
            let draft ← wordFrom inner wanted.mark (front.getD .empty)
            match ← peek?, descriptor? extended draft with
            | some '>', some descriptor => skip; redirection descriptor '>'
            | some '<', some descriptor => skip; redirection descriptor '<'
            | _, _ => return .word draft.word

/-- Reads the bodies of the here-documents that are asked for. -/
def readDocuments (inner : Inner) : List Pending → Parser Unit
  | [] => return
  | pending :: rest => do
      let body ← document inner pending
      modify fun reader =>
        { reader with documents := (pending.number, body) :: reader.documents }
      readDocuments inner rest

def readPending (inner : Inner) : Parser Unit := do
  let reader ← get
  set { reader with pending := [] }
  readDocuments inner reader.pending

/-- Reads past line ends. -/
def skipLines (inner : Inner) (wanted : Wanted) : Nat → Token → Parser Token
  | fuel + 1, .newLine => do
      readPending inner
      skipLines inner wanted fuel (← scan inner wanted ((← remaining) + 1))
  | _, token => return token

/-- The replacement of an alias that is not being replaced already. -/
def alias? (reader : Reader) (name : String) : Option String :=
  let left := reader.rest.length
  if reader.replacing.any fun (other, behind) => other = name ∧ behind < left then none
  else reader.aliases.lookup name

/-- Reads a token. -/
def token (inner : Inner) (wanted : Wanted) : Nat → Parser Token
  | 0 => return .ended
  | fuel + 1 => do
      let reader ← get
      let expands := wanted.aliases ||
        (reader.ahead.isNone && reader.following = some (reader.rest.dropWhile isBlank).length)
      let first ← match reader.ahead with
        | some token => set { reader with ahead := none }; pure token
        | none => scan inner wanted (reader.rest.length + 1)
      let first ← if wanted.newLines then skipLines inner wanted (reader.rest.length + 1) first
        else pure first
      match first with
      | .word [.literal text false] =>
          let reader ← get
          let known := if reader.dialect = .extended then extendedKeywords ++ keywords else keywords
          if wanted.keywords ∧ text ∈ known then return .keyword text
          else
            match if expands then alias? reader text else none with
            | some replacement =>
                let behind := (reader.rest.dropWhile isBlank).length
                let isOpen := (replacement.toList.getLast?.map isBlank).getD false
                set { reader with
                  following := if isOpen then some behind else reader.following
                  rest := replacement.toList ++ reader.rest
                  replacing := (text, reader.rest.length) :: reader.replacing }
                token inner wanted fuel
            | none => return first
      | _ => return first

def next (inner : Inner) (wanted : Wanted) : Parser Token := do
  token inner wanted ((← remaining) + 2)

def expectKeyword (inner : Inner) (wanted : Wanted) (text : String) : Parser Unit := do
  let token ← next inner wanted
  unless token.isKeyword text do
    unexpected token (some (.keyword text))

def expectOperator (inner : Inner) (text : String) : Parser Unit := do
  let token ← next inner .nothing
  unless token.isOperator text do
    unexpected token (some (.operator text))

/-- Asks for a here-document whose mark comes next. -/
def askDocument (outdented : Bool) (word : Word) : Parser Nat := modifyGet fun reader =>
  let (mark, quoted) := word.mark
  (reader.asked, { reader with
    pending := reader.pending ++ [⟨reader.asked, mark, outdented, quoted, reader.line⟩]
    asked := reader.asked + 1 })

/-- Reads what a redirection leads to. -/
def target (inner : Inner) (descriptor : Option Nat) (operator : String) : Parser Redirection := do
  let document := operator = "<<" || operator = "<<-"
  let token ← next inner { Wanted.nothing with mark := document }
  match token with
  | .word word =>
      let input := operator.startsWith "<"
      let descriptor := descriptor.getD (if input then 0 else 1)
      match operator with
      | "<<" | "<<-" => return .document descriptor (← askDocument (operator = "<<-") word)
      | "<<<" => return .text descriptor word
      | "&>" => return .file 1 .createAll word
      | "&>>" => return .file 1 .appendAll word
      | ">&" =>
          let copies := match word with
            | [.literal text _] => text = "-" || text.all Char.isDigit
            | _ => true
          if (← isExtended) && !copies then return .file 1 .createAll word
          else return .copy descriptor word
      | "<&" => return .copy descriptor word
      | "<" => return .file descriptor .read word
      | "<>" => return .file descriptor .both word
      | ">>" => return .file descriptor .append word
      | ">|" => return .file descriptor .overwrite word
      | _ => return .file descriptor .create word
  | token => unexpected token none

/-- Redirections behind a command that is built with keywords. -/
def redirections (inner : Inner) : Nat → Parser (List Redirection)
  | 0 => return []
  | fuel + 1 => do
      match ← next inner .command with
      | .redirect descriptor operator =>
          let first ← target inner descriptor operator
          return first :: (← redirections inner fuel)
      | token =>
          putAhead token
          return []

/-- Words up to the end of a line or a semicolon. -/
def wordsInLine (inner : Inner) : Nat → Parser (List Word)
  | 0 => return []
  | fuel + 1 => do
      match ← next inner .nothing with
      | .word word => return word :: (← wordsInLine inner fuel)
      | .newLine =>
          putAhead .newLine
          return []
      | .operator ";" => return []
      | token => unexpected token none

/-- The patterns of a clause, up to the parenthesis behind them. -/
def patterns (inner : Inner) : Nat → Token → Parser (List Word)
  | 0, _ => return []
  | fuel + 1, first => do
      match ← next inner .nothing with
      | .operator "|" =>
          let second ← next inner .nothing
          return first.toWord :: (← patterns inner fuel second)
      | .operator ")" => return [first.toWord]
      | token => unexpected token (some (.operator ")"))

end Parser

end CatalogSeed.Script
