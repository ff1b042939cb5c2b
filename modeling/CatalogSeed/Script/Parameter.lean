import CatalogSeed.Script.Arithmetic
import CatalogSeed.Script.Field
import CatalogSeed.Text.ShellQuoted

/-!
The values of parameters, and what their forms make of a text.
-/

namespace CatalogSeed.Script

def separators : Run String :=
  return (← Run.lookup? "IFS").getD " \t\n"

/-- What stands between arguments that are joined. -/
def joint : Run String := do
  match ← Run.lookup? "IFS" with
  | none => return " "
  | some text => return String.ofList (text.toList.take 1)

/-- The letters of options that are on. -/
def optionText (extended : Bool) (options : List Char) : String :=
  if extended then
    let isOn (c : Char) : Bool :=
      if c = 'h' ∨ c = 'B' then !options.contains (Char.ofNat (c.toNat + 128))
      else options.contains c
    let text := "abefhkmnptuvxBCEHIT".toList.filter isOn
    String.ofList (text ++ options.filter "cs".toList.contains)
  else String.ofList ("ubaCEVvxsnmiIfe".toList.filter options.contains)

/-- Variables of the extended dialect whose values the shell works out. -/
def workedOut? (shell : Shell) (name : String) : Option String :=
  match name with
  | "LINENO" => some (decimal shell.line)
  | "BASHPID" => some (decimal shell.process)
  | "BASH_SUBSHELL" => some (decimal shell.shells)
  | "SECONDS" => some "0"
  | _ => none

/-- The value of a parameter, if it has one. -/
def parameterValue? (name : String) : Run (Option String) := do
  let shell ← get
  match name with
  | "@" | "*" =>
      if shell.arguments = [] then return none
      else return some ((← joint).intercalate shell.arguments)
  | "#" => return some (decimal shell.arguments.length)
  | "?" => return some (decimal shell.status)
  | "$" => return some (decimal shell.process)
  | "!" => return shell.background.map decimal
  | "-" => return some (optionText (shell.dialect = .extended) shell.options)
  | _ =>
      match name.toNat? with
      | some 0 => return some shell.name
      | some (index + 1) => return shell.arguments[index]?
      | none =>
          match if shell.dialect = .extended then workedOut? shell name else none with
          | some value => return some value
          | none => Run.lookup? name

/-- What a parameter stands for: one value, which may be missing, or several; a star joins these
between quotes. -/
inductive Value
  | one (value : Option String)
  | many (star : Bool) (values : List String)

/-- The value as one text; none if there is none. -/
def Value.text? (value : Value) : Run (Option String) := do
  match value with
  | .one value => return value
  | .many _ [] => return none
  | .many _ values => return some ((← joint).intercalate values)

/-- Changes each text of a value. -/
def Value.map (change : String → String) : Value → Value
  | .one value => .one (value.map change)
  | .many star values => .many star (values.map change)

/-- Lists of the extended dialect that the shell works out. -/
def workedOutItems? (shell : Shell) (name : String) : Option (List String) :=
  match name with
  | "BASH_SOURCE" => some (List.replicate (shell.calling.length + 1) shell.place)
  | "FUNCNAME" => some (if shell.calling = [] then [] else shell.calling ++ ["main"])
  | _ => none

/-- The value of a parameter, or of an element of the list that is kept under its name. -/
def storedAt (name : String) (index : Option String) : Run Value := do
  let shell ← get
  match index with
  | some "@" => return .many false ((← Run.items name).entries.map Prod.snd)
  | some "*" => return .many true ((← Run.items name).entries.map Prod.snd)
  | some text =>
      let items ← Run.items name
      if items.named then return .one (items.entries.lookup text)
      else
        let number ← calculate text
        return .one ((items.keyOf number).bind fun key => items.entries.lookup key)
  | none =>
      match name with
      | "@" => return .many false shell.arguments
      | "*" => return .many true shell.arguments
      | _ => return .one (← parameterValue? name)

/-- The value of a parameter, or of an element of its list. -/
def valueAt (name : String) (index : Option String) : Run Value := do
  let shell ← get
  match index, if shell.dialect = .extended then workedOutItems? shell name else none with
  | _, none => storedAt name index
  | some "@", some values => return .many false values
  | some "*", some values => return .many true values
  | some text, some values => return .one values[(← calculate text).toNat]?
  | none, some values => return .one values.head?

/-- The part of a list from an offset on, which counts from the end if it is negative. -/
def sliceOf {α : Type} (items : List α) (first : Int) (size : Option Int) : Option (List α) :=
  let length : Int := (items.length : Nat)
  let start := if first < 0 then first + length else first
  if start < 0 ∨ length < start then some []
  else
    let rest := items.drop start.toNat
    match size with
    | none => some rest
    | some size =>
        let stop := if size < 0 then length + size else start + size
        if stop < start then none else some (rest.take (stop - start).toNat)

/-- A text as it could be given to a shell. -/
def inputText (text : String) : String :=
  let chars := text.toList
  if chars.any fun c => !ShellQuoted.isPrintable c then
    let letter (c : Char) : List Char :=
      if c = '\'' ∨ c = '\\' then ['\\', c]
      else if c = '\x1b' then ['\\', 'E']
      else if ShellQuoted.isPrintable c then [c]
      else ShellQuoted.escaped c
    "$'" ++ String.ofList (chars.flatMap letter) ++ "'"
  else "'" ++ "'\\''".intercalate (text.splitOn "'") ++ "'"

/-- A word as it is shown in the extended dialect. -/
def shownWord (word : String) : String :=
  let chars := word.toList
  if chars = [] then "''"
  else if (chars.any fun c => " \t\n'\"\\|&;()<>!\x7b\x7d*[]?^$\x60".toList.contains c) ||
      word.startsWith "~" || word.startsWith "#" then
    "'" ++ "'\\''".intercalate (word.splitOn "'") ++ "'"
  else if chars.any fun c => !ShellQuoted.isPrintable c then inputText word
  else word

/-- A value as a list of variables shows it in the extended dialect. -/
def shownValue (value : String) : String :=
  if value = "" then ""
  else if value.toList.any fun c => !ShellQuoted.isPrintable c then inputText value
  else shownWord value

end CatalogSeed.Script
