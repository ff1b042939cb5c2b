import CatalogSeed.Utility.EditText

/-!
Scripts for the stream editor: commands with the lines they are for.
-/

namespace CatalogSeed.Utility.EditScript

/-- Reads an expression; an empty one stands for the last one that was used. -/
def regexOf (text : List Char) : Parser (Option Regex) := do
  if text = [] then return none
  else match Regex.parse ⟨(← get).extended, false⟩ text with
    | .ok regex => return some regex
    | .error message => fail message

def address? : Parser (Option Address) := do
  let fuel := (← get).rest.length + 1
  match ← peek? with
  | some '$' =>
      let _ ← next?
      return some .last
  | some '/' =>
      let _ ← next?
      expression '/' fuel
  | some '\\' =>
      let _ ← next?
      match ← next? with
      | some mark => expression mark fuel
      | none => fail "unterminated address regex"
  | some c =>
      if c.isDigit then
        let first ← number
        if (← peek?) = some '~' then
          let _ ← next?
          return some (.every first (← number))
        else return some (.line first)
      else return none
  | none => return none
where
  expression (mark : Char) (fuel : Nat) : Parser (Option Address) := do
    match ← delimited mark true fuel [] with
    | none => fail "unterminated address regex"
    | some text =>
        let flags ← skipWhile fun c => c = 'I' || c = 'M'
        return some (.fits (← regexOf text) (flags.contains 'I'))

def rangeEnd : Parser RangeEnd := do
  match ← peek? with
  | some '+' =>
      let _ ← next?
      return .further (← number)
  | some '~' =>
      let _ ← next?
      return .multiple (← number)
  | _ =>
      match ← address? with
      | some address => return .address address
      | none =>
          let _ ← next?
          fail "unexpected \x60,'"

/-- Reads what stands in for a match. -/
def substitutes : List Char → List Substitute
  | [] => []
  | '&' :: rest => .group 0 :: substitutes rest
  | '\\' :: c :: rest =>
      if c.isDigit then .group (c.toNat - 48) :: substitutes rest
      else if "LUlutE".toList.contains c && c ≠ 't' then .case c :: substitutes rest
      else if c = 'n' then .text ['\n'] :: substitutes rest
      else if c = 't' then .text ['\t'] :: substitutes rest
      else .text [c] :: substitutes rest
  | c :: rest => .text [c] :: substitutes rest

/-- How many groups an expression has. -/
def groupsOf : List Char → Bool → Nat
  | '\\' :: '(' :: rest, false => groupsOf rest false + 1
  | '\\' :: _ :: rest, extended => groupsOf rest extended
  | '(' :: rest, true => groupsOf rest true + 1
  | _ :: rest, extended => groupsOf rest extended
  | [], _ => 0

/-- Reads the letters behind a replacement. -/
def replaceFlags : Nat → Replacing → Parser Replacing
  | 0, replacing => return replacing
  | fuel + 1, replacing => do
      match ← peek? with
      | none => return replacing
      | some c =>
          if c = '\n' ∨ c = ';' ∨ c = '\x7d' ∨ c = '#' then return replacing
          else if c.isDigit then
            if replacing.first ≠ 0 then
              let _ ← next?
              fail "multiple number options to \x60s' command"
            let value ← number
            if value = 0 then fail "number option to \x60s' command may not be zero"
            replaceFlags fuel { replacing with first := value }
          else
            let _ ← next?
            match c with
            | 'g' =>
                if replacing.all then fail "multiple \x60g' options to \x60s' command"
                replaceFlags fuel { replacing with all := true }
            | 'p' =>
                if replacing.print then fail "multiple \x60p' options to \x60s' command"
                replaceFlags fuel { replacing with print := true }
            | 'i' | 'I' => replaceFlags fuel { replacing with ignoreCase := true }
            | 'm' | 'M' => replaceFlags fuel { replacing with lines := true }
            | 'e' => replaceFlags fuel replacing
            | 'w' =>
                let _ ← skipWhile isBlank
                let name ← skipWhile (· ≠ '\n')
                return { replacing with file := some (String.ofList name) }
            | _ =>
                if isSpace c then replaceFlags fuel replacing
                else fail "unknown option to \x60s'"

/-- The text behind a command that prints one; a backslash takes the meaning of a line end. -/
def textLines : Nat → List Char → Parser (List Char)
  | 0, before => return before.reverse
  | fuel + 1, before => do
      match ← next? with
      | none | some '\n' => return before.reverse
      | some '\\' =>
          match ← next? with
          | none => return before.reverse
          | some c => textLines fuel (c :: before)
      | some c => textLines fuel (c :: before)

def text : Parser String := do
  let _ ← skipWhile isSpace
  let fuel := (← get).rest.length + 1
  match ← peek? with
  | none => fail "expected \\ after \x60a', \x60c' or \x60i'"
  | some '\\' =>
      let _ ← next?
      let blanks ← skipWhile isBlank
      if (← peek?) = some '\n' then
        let _ ← next?
        return String.ofList (← textLines fuel []) ++ "\n"
      else if (← peek?).isNone then return ""
      else return String.ofList (blanks ++ (← textLines fuel [])) ++ "\n"
  | some _ => return String.ofList (← textLines fuel []) ++ "\n"

/-- Reads to the end of a command. -/
def finish : Parser Unit := do
  let _ ← skipWhile isBlank
  match ← peek? with
  | none | some '\x7d' | some '#' => return
  | some c =>
      let _ ← next?
      unless c = '\n' || c = ';' || c = '\x0d' do
        fail "extra characters after command"

def labelName : Parser String := do
  let _ ← skipWhile isBlank
  let name ← skipWhile fun c => c ≠ '\n' && c ≠ ';'
  return String.ofList (name.reverse.dropWhile isBlank).reverse

/-- Takes escapes out of the characters of an exchange. -/
def plainChars : List Char → List Char
  | '\\' :: 'n' :: rest => '\n' :: plainChars rest
  | '\\' :: 't' :: rest => '\t' :: plainChars rest
  | '\\' :: '\\' :: rest => '\\' :: plainChars rest
  | c :: rest => c :: plainChars rest
  | [] => []

def replaceVerb : Parser Verb := do
  let fuel := (← get).rest.length + 1
  let unclosed {α : Type} : Parser α := fail "unterminated \x60s' command"
  match ← next? with
  | none => unclosed
  | some mark =>
      match ← delimited mark true fuel [] with
      | none => unclosed
      | some pattern =>
          match ← delimited mark false fuel [] with
          | none => unclosed
          | some replacement =>
              let pieces := substitutes replacement
              let replacing ← replaceFlags fuel
                ⟨none, false, false, pieces, false, 0, false, none⟩
              let most := pieces.foldl (fun most piece => match piece with
                | .group number => max most number
                | _ => most) 0
              let regex ← regexOf pattern
              if pattern ≠ [] ∧ groupsOf pattern (← get).extended < most then
                fail ("invalid reference \\" ++ decimal most ++ " on \x60s' command's RHS")
              finish
              return .replace { replacing with regex }

def exchangeVerb : Parser Verb := do
  let fuel := (← get).rest.length + 1
  let unclosed {α : Type} : Parser α := fail "unterminated \x60y' command"
  match ← next? with
  | none => unclosed
  | some mark =>
      match ← delimited mark false fuel [] with
      | none => unclosed
      | some first =>
          match ← delimited mark false fuel [] with
          | none => unclosed
          | some second =>
              let (first, second) := (plainChars first, plainChars second)
              if first.length ≠ second.length then
                fail "strings for \x60y' command are different lengths"
              finish
              return .exchange (first.zip second)

def verb : Parser Verb := do
  match ← next? with
  | none => fail "missing command"
  | some c =>
      match c with
      | '\x7b' => return .openBlock
      | '\x7d' =>
          finish
          return .closeBlock
      | ':' =>
          let name ← labelName
          if name = "" then fail "\":\" lacks a label"
          finish
          return .label name
      | 'b' | 't' | 'T' =>
          let name ← labelName
          finish
          return .jump c name
      | 'a' | 'i' | 'c' => return .text c (← text)
      | 's' => replaceVerb
      | 'y' => exchangeVerb
      | 'r' | 'w' | 'R' | 'W' =>
          let _ ← skipWhile isBlank
          let name ← skipWhile (· ≠ '\n')
          if name = [] then fail "missing filename in r/R/w/W commands"
          return .file c (String.ofList name)
      | 'q' | 'Q' =>
          let _ ← skipWhile isBlank
          let status ← number
          finish
          return .quit (c = 'q') status
      | _ =>
          if "=dDgGhHlnNpPxzFv".toList.contains c then
            finish
            return .simple c
          else fail ("unknown command: \x60" ++ c.toString ++ "'")

def command : Parser Command := do
  let first ← address?
  let _ ← skipWhile isSpace
  let last ←
    if first.isSome ∧ (← peek?) = some ',' then
      let _ ← next?
      let _ ← skipWhile isSpace
      some <$> rangeEnd
    else pure none
  match first, last with
  | some (.line 0), some (.address (.fits _ _)) => pure ()
  | some (.line 0), _ => do
      let _ ← next?
      fail "invalid usage of line address 0"
  | _, _ => pure ()
  let _ ← skipWhile isSpace
  let signs ← skipWhile fun c => c = '!' || isSpace c
  if 1 < signs.count '!' then fail "multiple \x60!'s"
  let before := (← get).count
  let verb ← verb
  match verb, first with
  | .closeBlock, some _ => fun _ => .error ⟨before + 1, "\x7d doesn't want any addresses"⟩
  | .label _, some _ => fun _ => .error ⟨before + 1, ": doesn't want any addresses"⟩
  | _, _ => return ⟨first, last, signs.contains '!', verb⟩

/-- Reads commands to the end of the script; `depth` counts open blocks. -/
def commands : Nat → Nat → Parser (List Command)
  | 0, _ => return []
  | fuel + 1, depth => do
      let _ ← skipWhile fun c => isSpace c || c = ';'
      match ← peek? with
      | none =>
          if depth ≠ 0 then fun _ => .error ⟨0, "unmatched \x60\x7b'"⟩ else return []
      | some '#' =>
          let _ ← skipWhile (· ≠ '\n')
          commands fuel depth
      | some _ =>
          let command ← command
          match command.verb with
          | .openBlock => return command :: (← commands fuel (depth + 1))
          | .closeBlock =>
              if depth = 0 then fail "unexpected \x60\x7d'"
              return command :: (← commands fuel (depth - 1))
          | _ => return command :: (← commands fuel depth)

def parse (extended : Bool) (text : List Char) : Except Fault (List Command) :=
  ((commands (text.length + 1) 0).run ⟨text, 0, extended⟩).map Prod.fst

end CatalogSeed.Utility.EditScript
