import CatalogSeed.Script.Conditions

/-!
Reading commands: simple ones, and those that are built with keywords. A script is read line by
line, so that the commands before one that cannot be read are run.
-/

namespace CatalogSeed.Script

/-- How a list of commands ends: with the line, or before what closes it; the latter kind may have
to hold a command. -/
inductive Extent
  | line
  | some
  | any
  deriving DecidableEq

def Command.ofList : List Command → Option Command
  | [] => none
  | [command] => some command
  | commands => some (.sequence commands)

/-- A command where one may be missing. -/
def Command.orNothing (command : Option Command) : Command :=
  command.getD (.sequence [])

/-- A simple command as far as it is read, the last word first. -/
structure Begun where
  settings : List Word
  words : List Word
  redirections : List Redirection

def Begun.command (begun : Begun) (line : Nat) : Command :=
  .simple line begun.settings.reverse begun.words.reverse begun.redirections.reverse

/-- The name of a function whose definition is begun: a lone word that may be such a name. -/
def Begun.functionName? (extended : Bool) (begun : Begun) : Option (Option String) :=
  match begun with
  | ⟨[], [word], []⟩ =>
      some (word.plain?.filter fun name =>
        extended || (isName name && !specialCommands.contains name))
  | _ => none

/-- Commands whose words can be settings, in the extended dialect. -/
def declaringCommands : List String :=
  ["declare", "typeset", "local", "export", "readonly"]

/-- Whether settings may follow: before the name of a command, and behind commands that declare
variables. -/
def Begun.wantsSettings (begun : Begun) : Bool :=
  match begun.words.getLast? with
  | none => true
  | some word => (word.plain?.map declaringCommands.contains).getD false

/-- Parts a word at its semicolons. -/
def Word.atSemicolons (word : Word) : List Word :=
  let step (part : Part) (parted : Word × List Word) : Word × List Word :=
    match part with
    | .literal text quoted =>
        let pieces := ((text.toList.splitOn ';').map fun piece =>
          Part.literal (String.ofList piece) quoted)
        match pieces.reverse with
        | last :: others =>
            others.foldl (fun (current, done) piece => ([piece], current :: done))
              (last :: parted.1, parted.2)
        | [] => parted
    | part => (part :: parted.1, parted.2)
  let (first, rest) := word.foldr step ([], [])
  first :: rest

namespace Parser

/-- Joins redirections to the command that they stand behind. -/
def redirect (inner : Inner) (line : Nat) (command : Command) : Parser Command := do
  match ← redirections inner ((← remaining) + 1) with
  | [] => return command
  | more => return .redirected line command more

mutual

def inner : Nat → Inner
  | 0 => ⟨fail "too deep", fail "too deep"⟩
  | fuel + 1 => {
      parenthesized := do
        let commands ← list fuel .any
        match ← next (inner fuel) .nothing with
        | .operator ")" => return commands
        | .ended => unclosed (← get).line "end of file unexpected (expecting \")\")" ")"
        | token => unexpected token (some (.operator ")"))
      whole := list fuel .any }

def list : Nat → Extent → Parser (Option Command)
  | 0, _ => fail "too deep"
  | fuel + 1, extent => listFrom fuel extent []

/-- Reads on behind the commands that are read already, the last one first. -/
def listFrom : Nat → Extent → List Command → Parser (Option Command)
  | 0, _, _ => fail "too deep"
  | fuel + 1, extent, before => do
      let wanted := { Wanted.command with newLines := extent ≠ .line }
      let token ← next (inner fuel) wanted
      match token with
      | .newLine =>
          readPending (inner fuel)
          return Command.ofList before.reverse
      | .ended =>
          readPending (inner fuel)
          putAhead .ended
          return Command.ofList before.reverse
      | _ =>
          putAhead token
          if token.endsList && (extent = .any || (extent = .some && before ≠ [])) then
            return Command.ofList before.reverse
          let line := (← get).line
          let command ← andOr fuel (← pipeline fuel .nothing)
          match ← next (inner fuel) .nothing with
          | .ended =>
              readPending (inner fuel)
              putAhead .ended
              return Command.ofList (command :: before).reverse
          | .newLine =>
              putAhead .newLine
              listFrom fuel extent (command :: before)
          | .operator ";" => listFrom fuel extent (command :: before)
          | .operator "&" => listFrom fuel extent (.background line command :: before)
          | token =>
              if extent = .line then unexpected token none
              putAhead token
              return Command.ofList (command :: before).reverse

/-- Reads what is joined to a command by its outcome. -/
def andOr : Nat → Command → Parser Command
  | 0, _ => fail "too deep"
  | fuel + 1, first => do
      match ← next (inner fuel) .nothing with
      | .operator "&&" => andOr fuel (.ifDone first (← pipeline fuel .afterLines))
      | .operator "||" => andOr fuel (.ifFailed first (← pipeline fuel .afterLines))
      | token =>
          putAhead token
          return first

def pipeline : Nat → Wanted → Parser Command
  | 0, _ => fail "too deep"
  | fuel + 1, wanted => do
      let token ← next (inner fuel) wanted
      let negated := token.isKeyword "!"
      unless negated do
        putAhead token
      let first ← command fuel (if negated then .command else .nothing)
      let rest ← piped fuel
      let line := (← get).line
      let commands := rest.foldl (fun before (errors, command) =>
        match before with
        | last :: others =>
            let last := if errors then .redirected line last [.copy 2 [.literal "1" false]]
              else last
            command :: last :: others
        | [] => [command]) [first]
      let whole := if rest.isEmpty then first else .pipeline commands.reverse
      return if negated then .negated whole else whole

/-- The further commands of a pipeline, each with whether it reads the errors of the one before
too. -/
def piped : Nat → Parser (List (Bool × Command))
  | 0 => fail "too deep"
  | fuel + 1 => do
      match ← next (inner fuel) .nothing with
      | .operator "|" =>
          let second ← command fuel .afterLines
          return (false, second) :: (← piped fuel)
      | .operator "|&" =>
          let second ← command fuel .afterLines
          return (true, second) :: (← piped fuel)
      | token =>
          putAhead token
          return []

def command : Nat → Wanted → Parser Command
  | 0, _ => fail "too deep"
  | fuel + 1, wanted => do
      let line := (← get).line
      let closed (keyword : String) (command : Command) : Parser Command := do
        expectKeyword (inner fuel) .nothing keyword
        redirect (inner fuel) line command
      let token ← next (inner fuel) wanted
      match token with
      | .keyword "if" => closed "fi" (← branches fuel)
      | .keyword "while" | .keyword "until" =>
          let test ← list fuel .some
          expectKeyword (inner fuel) .nothing "do"
          let body ← list fuel .some
          closed "done" (.loop (token.isKeyword "while") (Command.orNothing test)
            (Command.orNothing body))
      | .keyword "for" =>
          let first ← next (inner fuel) .nothing
          if first.isOperator "(" && (← isExtended) && (← skipIf '(') then counted fuel line
          else
            putAhead first
            closed "done" (← each fuel line)
      | .keyword "case" =>
          let word ← match ← next (inner fuel) .nothing with
            | .word word => pure word
            | token => unexpected token (some (.word []))
          expectKeyword (inner fuel) .afterLines "in"
          let clauses ← clauses fuel (← next (inner fuel) .clause)
          redirect (inner fuel) line (.choice line word clauses)
      | .keyword "\x7b" => closed "\x7d" (Command.orNothing (← list fuel .some))
      | .operator "(" =>
          let double := (← isExtended) && (← peek?) = some '('
          let nested : Parser Command := do
            let body ← list fuel .some
            expectOperator (inner fuel) ")"
            redirect (inner fuel) line (.subshell line (Command.orNothing body))
          if double then
            let reader ← get
            try
              skip
              let text ← arithmetic (inner fuel)
              redirect (inner fuel) line (.calculation line text)
            catch fault =>
              set reader
              try nested catch _ => throw fault
          else nested
      | .keyword "[[" =>
          let test ← either (inner fuel) ((← remaining) + 2)
          match ← next (inner fuel) .nothing with
          | .word [.literal "]]" false] => redirect (inner fuel) line (.condition line test)
          | token => unexpected token none
      | .keyword "function" => named fuel
      | .word _ | .redirect _ _ =>
          putAhead token
          simple fuel (← get).line ⟨[], [], []⟩
      | _ => unexpected token none

/-- Reads a conditional up to its last keyword. -/
def branches : Nat → Parser Command
  | 0 => fail "too deep"
  | fuel + 1 => do
      let test ← list fuel .some
      expectKeyword (inner fuel) .nothing "then"
      let yes ← list fuel .some
      let branch := Command.branch (Command.orNothing test) (Command.orNothing yes)
      match ← next (inner fuel) .nothing with
      | .keyword "elif" => return branch (some (← branches fuel))
      | .keyword "else" => return branch (some (Command.orNothing (← list fuel .some)))
      | token =>
          putAhead token
          return branch none

/-- Reads a function's definition behind its keyword. -/
def named : Nat → Parser Command
  | 0 => fail "too deep"
  | fuel + 1 => do
      match ← next (inner fuel) .nothing with
      | .word word =>
          match ← next (inner fuel) .nothing with
          | .operator "(" => expectOperator (inner fuel) ")"
          | token => putAhead token
          return .definition (word.plain?.getD word.text) (← command fuel .afterLines)
      | token => unexpected token none

/-- Reads a loop that counts, behind its first two parentheses. -/
def counted : Nat → Nat → Parser Command
  | 0, _ => fail "too deep"
  | fuel + 1, line => do
      let text ← arithmetic (inner fuel)
      match ← next (inner fuel) .nothing with
      | .operator ";" => pure ()
      | token => putAhead token
      let body ← match ← next (inner fuel) .afterLines with
        | .keyword "do" => do
            let body ← list fuel .some
            expectKeyword (inner fuel) .nothing "done"
            pure body
        | .keyword "\x7b" => do
            let body ← list fuel .some
            expectKeyword (inner fuel) .nothing "\x7d"
            pure body
        | token => unexpected token none
      match text.atSemicolons with
      | [first, test, next] =>
          redirect (inner fuel) line (.counted line first test next (Command.orNothing body))
      | _ => unexpected (.operator "((") none

def each : Nat → Nat → Parser Command
  | 0, _ => fail "too deep"
  | fuel + 1, line => do
      let extended ← isExtended
      let name ← match ← next (inner fuel) .nothing with
        | .word word =>
            match word.plain?.filter fun name => extended || isName name with
            | some name => pure name
            | none => fail "Bad for loop variable"
        | token => if extended then unexpected token none else fail "Bad for loop variable"
      let words ← match ← next (inner fuel) .afterLines with
        | .keyword "in" => wordsInLine (inner fuel) ((← remaining) + 2)
        | token => do
            unless token.isOperator ";" do
              putAhead token
            pure [[.parameter "@" [] .value [] true]]
      expectKeyword (inner fuel) .afterLines "do"
      return .each line name words (Command.orNothing (← list fuel .some))

/-- Reads clauses up to the last keyword; the first token of the next one is given. -/
def clauses : Nat → Token → Parser (List (List Word × Option Command × Clausing))
  | 0, _ => fail "too deep"
  | fuel + 1, token => do
      if token.isKeyword "esac" then return []
      let first ← if token.isOperator "(" then next (inner fuel) .nothing else pure token
      let patterns ← patterns (inner fuel) ((← remaining) + 2) first
      let body ← list fuel .any
      match ← next (inner fuel) .clause with
      | .keyword "esac" => return [(patterns, body, .ended)]
      | token =>
          let ending := if token.isOperator ";;" then some Clausing.ended
            else if token.isOperator ";&" then some .through
            else if token.isOperator ";;&" then some .tested
            else none
          match ending with
          | some ending =>
              let rest ← clauses fuel (← next (inner fuel) .clause)
              return (patterns, body, ending) :: rest
          | none => unexpected token (some (.operator ";;"))

/-- Reads on in a simple command, or the definition of a function. -/
def simple : Nat → Nat → Begun → Parser Command
  | 0, _, _ => fail "too deep"
  | fuel + 1, line, begun => do
      let first := begun.words.isEmpty
      let settings := begun.wantsSettings
      match ← next (inner fuel) { Wanted.nothing with aliases := first, settings } with
      | .word word =>
          if first && word.isSetting then
            simple fuel line { begun with settings := word :: begun.settings }
          else simple fuel line { begun with words := word :: begun.words }
      | .redirect descriptor operator =>
          let redirection ← target (inner fuel) descriptor operator
          simple fuel line { begun with redirections := redirection :: begun.redirections }
      | token =>
          match token.isOperator "(", begun.functionName? (← isExtended) with
          | true, some name =>
              expectOperator (inner fuel) ")"
              match name with
              | some name => return .definition name (← command fuel .afterLines)
              | none => fail "Bad function name"
          | _, _ =>
              putAhead token
              return begun.command line

end

/-- Reads the commands of the next line; `none` when the script has ended. -/
def nextLine (reader : Reader) : Except Fault (Option (Option Command) × Reader) := do
  let reader := { reader with ahead := none, pending := [] }
  let (command, reader) ← list (4 * reader.rest.length + 64) .line reader
  match command, reader.ahead with
  | none, some .ended => return (none, reader)
  | command, _ => return (some command, reader)

end Parser

/-- A text with parts to fill in, as between double quotes. -/
def Word.ofText (dialect : Dialect) (text : String) : Word :=
  let reader : Reader := ⟨text.toList, 1, none, [], [], 0, [], [], none, [], dialect⟩
  let pending : Pending := ⟨0, ['\x00'], false, false, 1⟩
  match Parser.document (Parser.inner (4 * text.length + 64)) pending reader with
  | .ok (word, _) => word
  | .error _ => [.literal text true]

end CatalogSeed.Script
