import CatalogSeed.Script.Home
import CatalogSeed.Script.Parameter

/-!
Filling in the parts of words: parameters, the output of commands, and arithmetic. How commands
are run is given.
-/

namespace CatalogSeed.Script

def lettersOf (quoted : Bool) (text : String) : List Piece :=
  text.toList.map fun c => .letter ⟨c, quoted⟩ (!quoted)

/-- The text of pieces; cuts become blanks. -/
def pieceText (pieces : List Piece) : String :=
  String.ofList (pieces.filterMap fun
    | .letter letter _ => some letter.char
    | .cut | .gap => some ' '
    | .mark => none)

def pieceLetters (pieces : List Piece) : Field :=
  pieces.filterMap fun
    | .letter letter _ => some letter
    | .cut | .gap => some ⟨' ', true⟩
    | .mark => none

/-- How words are expanded: how the output of commands is got, whether fields are wanted, and where
tildes stand for directories. -/
structure Filling where
  capture : Option Command → Run String
  fields : Bool
  tildes : Tildes

/-- The same without fields. -/
def Filling.single (filling : Filling) : Filling :=
  { filling with fields := false, tildes := .atFront }

/-- The same for a word that stands in for a value. -/
def Filling.inside (filling : Filling) : Filling :=
  { filling with tildes := if filling.tildes = .nowhere then .atFront else filling.tildes }

/-- Parts the name of a variable from the index behind it. -/
def settingName (text : String) : String × Option String :=
  match text.toList.span (· ≠ '[') with
  | (name, '[' :: rest) =>
      (String.ofList name, some (String.ofList (rest.takeWhile (· ≠ ']'))))
  | _ => (text, none)

namespace Filling

/-- The pieces of several values, kept apart. -/
def valuesPieces (quoted : Bool) (values : List String) : List Piece :=
  match values with
  | [] => []
  | first :: rest =>
      let one (text : String) : List Piece :=
        if quoted then .mark :: lettersOf true text else lettersOf false text
      one first ++ rest.flatMap fun text => .cut :: one text

/-- The pieces of a value that may be missing. -/
def textPieces (quoted : Bool) (value : Option String) : List Piece :=
  let text := lettersOf quoted (value.getD "")
  if quoted then .mark :: text else text

/-- The arguments of a plain shell as one text. A null character stands between those that become
fields of their own. -/
def joined (filling : Filling) (quoted star : Bool) (values : List String) : Run String := do
  let parted := (← Run.lookup? "IFS").isSome
  if filling.fields && (if quoted then !star else parted) then
    return "\x00".intercalate values
  else return (← joint).intercalate values

/-- The pieces of arguments that were joined. -/
def joinedPieces (quoted : Bool) (text : String) : List Piece :=
  let pieces := text.toList.flatMap fun c =>
    if c ≠ '\x00' then [.letter ⟨c, quoted⟩ (!quoted)]
    else if quoted then [.cut, .mark]
    else [.gap]
  if quoted then .mark :: pieces else pieces

def valuePieces (filling : Filling) (quoted : Bool) (value : Value) : Run (List Piece) := do
  match value with
  | .one value => return textPieces quoted value
  | .many star values =>
      if filling.fields && !(star && quoted) then
        if quoted || (← Run.isExtended) then return valuesPieces quoted values
        else return joinedPieces quoted (← filling.joined quoted star values)
      else return textPieces quoted (some ((← joint).intercalate values))

/-- The text of a value; none if there is none. In a plain shell, arguments always have one. -/
def textOf? (filling : Filling) (quoted : Bool) (value : Value) : Run (Option String) := do
  match value with
  | .one value => return value
  | .many star values =>
      if ← Run.isExtended then value.text?
      else return some (← filling.joined quoted star values)

/-- Complains about a parameter without a value where one is needed. -/
def needValue (name : String) (key value : Option String) : Run Unit := do
  let many := ["@", "*"].contains name || key = some "@" || key = some "*"
  if value.isNone ∧ (← get).options.contains 'u' ∧ !many then
    if ← Run.isExtended then
      let place := (key.map fun key => "[" ++ key ++ "]").getD ""
      Run.warn (name ++ place ++ ": unbound variable")
      Run.status 1
      Run.stop .exit
    else Run.fail (name ++ ": parameter not set")

/-- Complains about a parameter without a value, in given words if there are any. -/
def missingValue (name : String) (text : Option String) (colon : Bool) : Run (List Piece) := do
  let extended ← Run.isExtended
  let standard :=
    if !colon then "parameter not set"
    else if extended then "parameter null or not set"
    else "parameter not set or null"
  Run.warn (name ++ ": " ++ text.getD standard)
  Run.status (if extended then 1 else 2)
  Run.stop (if extended then .exit else .error)

/-- A part of a value: some of its values, or some of its characters. The arguments are counted
with the name of the shell in front. -/
def slice (name text : String) (value : Value) (first : Int) (size : Option Int) :
    Run Value := do
  let tooShort : Run Value := do
    Run.refuse (text ++ ": substring expression < 0")
  match value with
  | .many star values =>
      let shell ← get
      let all := if name = "@" ∨ name = "*" then shell.name :: values else values
      match sliceOf all first size with
      | some values => return .many star values
      | none => tooShort
  | .one value =>
      match sliceOf (value.getD "").toList first size with
      | some chars => return .one (some (String.ofList chars))
      | none => tooShort

/-- Opens the output of commands as a file, and gives its name. -/
def opened (filling : Filling) (commands : Option Command) : Run String := do
  let line := (← get).line
  let mark : Command := .simple line [] [[.literal "printf" false], [.literal "." false]] []
  let inside := commands.toList.map (Command.subshell line)
  let text := (← filling.capture (some (.sequence (inside ++ [mark])))).toList.dropLast
  let shell ← get
  let taken (descriptor : Nat) : Bool := (shell.channels.lookup descriptor).isSome
  let descriptor := ((List.range 50).map (63 - ·)).find? fun descriptor => !taken descriptor
  let descriptor := descriptor.getD 63
  let content := Octets.toBytes (String.ofList text)
  let (number, world) := shell.world.openStream (.source content)
  let tree := world.tree.create ["dev", "fd", decimal descriptor] (.pipe content) 0o600
  set { shell with
    world := { world with tree }, channels := (descriptor, number) :: shell.channels }
  return "/dev/fd/" ++ decimal descriptor

mutual

def part (filling : Filling) : Part → Run (List Piece)
  | .literal text quoted =>
      return text.toList.map fun c => .letter ⟨c, quoted⟩ false
  | .quotes => return [.mark]
  | .output commands quoted => do
      let text ← filling.capture commands
      return if quoted then .mark :: lettersOf true text else lettersOf false text
  | .number text quoted => do
      let value ← calculate (pieceText (← pieces filling false text))
      return lettersOf quoted (signedDecimal value)
  | .channel commands => do
      let path ← filling.opened commands
      return lettersOf true path
  | .setting _ _ _ => return []
  | .items _ => return []
  | .parameter name index form words quoted => do
      let key ← match index with
        | [] => pure none
        | word :: _ => pure (some (pieceText (← pieces filling.single true word)))
      match form with
      | .keys =>
          let star := key = some "*"
          filling.valuePieces quoted (.many star ((← Run.items name).entries.map Prod.fst))
      | .names =>
          let names := (← get).vars.filterMap fun (other, _) =>
            if other.startsWith name then some other else none
          filling.valuePieces quoted (.many false (names.mergeSort fun a b => a ≤ b))
      | .invalid text =>
          if ← Run.isExtended then Run.refuse (text ++ ": bad substitution")
          else Run.fail "Bad substitution"
      | .indirect => do
          let target := (← (← valueAt name key).text?).getD ""
          let inside := settingName target
          filling.valuePieces quoted (← valueAt inside.1 inside.2)
      | _ =>
          let value ← valueAt name key
          let whole := if form matches .length then filling.single else filling
          let text ← whole.textOf? quoted value
          let isMissing (colon : Bool) : Bool := text.isNone || (colon && text = some "")
          match form with
          | .length =>
              needValue name key text
              match value with
              | .many _ values => do
                  if ← Run.isExtended then return lettersOf quoted (decimal values.length)
                  else return lettersOf quoted (decimal (text.getD "").length)
              | .one _ => return lettersOf quoted (decimal (text.getD "").length)
          | .orElse colon =>
              if isMissing colon then standIn filling quoted words
              else filling.valuePieces quoted value
          | .ifSet colon =>
              if isMissing colon then return if quoted then [.mark] else []
              else standIn filling quoted words
          | .orAssign colon =>
              if isMissing colon then
                let text := pieceText (← first filling.single words)
                match key with
                | some key => Run.assignItem name key text
                | none => Run.assign name text
                return textPieces quoted (some text)
              else filling.valuePieces quoted value
          | .orFail colon =>
              if isMissing colon then
                let text := pieceText (← first filling.single words)
                let given := words.any fun word => !word.isEmpty
                missingValue name (if given then some text else none) colon
              else filling.valuePieces quoted value
          | .trimmed atEnd longest =>
              needValue name key text
              let carets ← Run.isExtended
              let pattern := Pattern.ofWord carets
                (pieceLetters (← first filling.single words))
              let trim (text : String) : String :=
                String.ofList (pattern.trim atEnd longest text.toList)
              if carets then filling.valuePieces quoted (value.map trim)
              else
                let text := (text.getD "").toList
                return joinedPieces quoted (String.ofList (pattern.trimJoined atEnd longest text))
          | .slice =>
              needValue name key text
              let written := pieceText (← first filling.single words)
              let start ← calculate written
              match words with
              | _ :: size :: _ =>
                  let written := pieceText (← pieces filling.single false size)
                  let size ← calculate written
                  filling.valuePieces quoted (← slice name written value start (some size))
              | _ => filling.valuePieces quoted (← slice name written value start none)
          | .replaced all anchor =>
              needValue name key text
              let pattern := Pattern.ofWord true (pieceLetters (← first filling.single words))
              let new ← match words with
                | _ :: new :: _ => pure (pieceText (← pieces filling.single true new)).toList
                | _ => pure []
              let replace (text : String) : String :=
                let chars := text.toList
                String.ofList (match anchor with
                  | some atEnd => pattern.replaceEdge atEnd new chars
                  | none => pattern.replace all new (chars.length + 1) chars)
              filling.valuePieces quoted (value.map replace)
          | .cased upper all =>
              needValue name key text
              let pattern := Pattern.ofWord true (pieceLetters (← first filling.single words))
              let change (text : String) : String :=
                String.ofList (pattern.changeCase upper all text.toList)
              filling.valuePieces quoted (value.map change)
          | .asInput => filling.valuePieces quoted (value.map inputText)
          | _ =>
              needValue name key text
              filling.valuePieces quoted value

/-- The pieces of a word that stands in for a value. -/
def standIn (filling : Filling) (quoted : Bool) : List (List Part) → Run (List Piece)
  | [] => return if quoted then [.mark] else []
  | word :: _ => do
      let pieces ← pieces filling.inside true word
      if quoted then return .mark :: pieces
      else
        return pieces.map fun
          | .letter letter loose => .letter letter (loose || !letter.quoted)
          | piece => piece

def first (filling : Filling) : List (List Part) → Run (List Piece)
  | [] => return []
  | word :: _ => pieces filling true word

/-- The pieces of the parts of a word, which may be its front. -/
def pieces (filling : Filling) (front : Bool) : List Part → Run (List Piece)
  | [] => return []
  | .literal text false :: rest => do
      let begun ← filling.tildes.pieces front rest.isEmpty text
      return begun ++ (← pieces filling false rest)
  | first :: rest => do
      let begun ← part filling first
      return begun ++ (← pieces filling false rest)

end

end Filling

end CatalogSeed.Script
