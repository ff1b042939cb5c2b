import CatalogSeed.Script.Braces
import CatalogSeed.Script.Filling

/-!
What words come to: texts, patterns, fields with file names for patterns, and settings of
variables.
-/

namespace CatalogSeed.Script

/-- The pieces of a word with directories for tildes; `setting` tells that it begins as a setting
does, with a value behind an equals sign. -/
def Filling.whole (filling : Filling) (setting : Bool) (word : Word) : Run (List Piece) := do
  match setting, word with
  | true, .literal text false :: rest =>
      let (name, value) := text.toList.span (· ≠ '=')
      let name := String.ofList (name ++ value.take 1)
      let value := Part.literal (String.ofList (value.drop 1)) false
      let filling := { filling with tildes := .atColons }
      return (← filling.part (.literal name false)) ++ (← filling.pieces true (value :: rest))
  | _, _ => filling.pieces true word

/-- The text of a word that makes no fields. -/
def expandText (capture : Option Command → Run String) (word : Word) : Run String :=
  return pieceText (← Filling.whole ⟨capture, false, .atFront⟩ false word)

/-- The letters of a word that is a pattern. -/
def expandPattern (capture : Option Command → Run String) (word : Word) : Run Field :=
  return pieceLetters (← Filling.whole ⟨capture, false, .atFront⟩ false word)

/-- The fields of a word, with file names for patterns. -/
def expandWord (capture : Option Command → Run String) (word : Word) : Run (List String) := do
  let setting := word.isSetting && (← Run.isExtended)
  let pieces ← Filling.whole ⟨capture, true, .atFront⟩ setting word
  let fields := fieldsOf (← separators) pieces
  let shell ← get
  if shell.options.contains 'f' then return fields.map textOf
  else
    let has (feature : String) : Bool := shell.features.contains feature
    let naming : Naming := ⟨shell.dialect = .extended, has "dotglob", has "nullglob"⟩
    return fields.flatMap (namesOf shell.world.tree naming)

/-- Whether a text fits a pattern, as the shell is set up. -/
def fitsPattern (pattern : Field) (text : String) : Run Bool := do
  let shell ← get
  let carets := shell.dialect = .extended
  if shell.features.contains "nocasematch" then
    let pattern := pattern.map fun letter => { letter with char := letter.char.toLower }
    return (Pattern.ofWord carets pattern).fits text.toLower.toList
  else return (Pattern.ofWord carets pattern).fits text.toList

def expandWords (capture : Option Command → Run String) : List Word → Run (List String)
  | [] => return []
  | word :: rest => do
      let words := if ← Run.isExtended then word.atBraces else [word]
      let fields ← words.mapM (expandWord capture)
      return fields.flatten ++ (← expandWords capture rest)

/-- A setting that is filled in: what is set, under which key, to what, and whether the old value
is kept before the new one. -/
structure Setting where
  name : String
  key : Option String
  value : String
  items : Option (List (Option String × String))
  append : Bool

/-- An item of a list of values, with its key if one is given. -/
def expandItem (capture : Option Command → Run String) (word : Word) :
    Run (List (Option String × String)) := do
  let keyed := match word with
    | .literal text false :: _ => text.startsWith "["
    | _ => false
  let whole ← if keyed then expandText capture word else pure ""
  match whole.toList with
  | '[' :: rest =>
      match rest.span (· ≠ ']') with
      | (key, ']' :: '=' :: value) => return [(some (String.ofList key), String.ofList value)]
      | _ => return (← expandWords capture [word]).map (none, ·)
  | _ => return (← expandWords capture [word]).map (none, ·)

/-- Fills in a setting. -/
def expandSetting (capture : Option Command → Run String) (word : Word) : Run Setting := do
  match word with
  | .setting name index append :: rest =>
      let key ← match index with
        | [] => pure none
        | index :: _ => pure (some (← expandText capture index))
      match rest with
      | [.items words] =>
          let items ← words.mapM (expandItem capture)
          return ⟨name, key, "", some items.flatten, append⟩
      | rest =>
          let text := pieceText (← Filling.pieces ⟨capture, false, .atColons⟩ true rest)
          return ⟨name, key, text, none, append⟩
  | word =>
      let text := pieceText (← Filling.whole ⟨capture, false, .atColons⟩ true word)
      let (name, value) := text.toList.span (· ≠ '=')
      return ⟨String.ofList name, none, String.ofList (value.drop 1), none, false⟩

namespace Setting

/-- A setting as it is shown. -/
def text (setting : Setting) : String :=
  let key := (setting.key.map fun key => "[" ++ key ++ "]").getD ""
  setting.name ++ key ++ (if setting.append then "+=" else "=") ++ setting.value

/-- What a variable makes of a value that it is given, with the old one before it if wanted. -/
def shape (append : Bool) (before value : String) (traits : List Char) : Run String := do
  if traits.contains 'i' then
    let number ← calculate value
    let start ← if append then calculate before else pure 0
    return signedDecimal (wrap (start + number))
  else
    let text := if append then before ++ value else value
    return if traits.contains 'l' then text.toLower
      else if traits.contains 'u' then text.toUpper
      else text

/-- Puts a setting into force. -/
def apply (setting : Setting) : Run Unit := do
  let entry := ((← get).vars.lookup setting.name).getD .fresh
  match setting.items, setting.key with
  | some new, _ =>
      let before := entry.toItems
      let start : Items := if setting.append then before else { before with entries := [] }
      let add (items : Items) (item : Option String × String) : Run Items := do
        let value ← shape false "" item.2 entry.traits
        return items.put (item.1.getD (decimal items.nextKey)) value
      Run.assignItems setting.name (← new.foldlM add start)
  | none, some key =>
      let items := entry.toItems
      let key ← if items.named then pure key
        else do
          let number ← calculate key
          match items.keyOf number with
          | some key => pure key
          | none => Run.refuse (setting.name ++ "[" ++ key ++ "]: bad array subscript")
      let before := (items.entries.lookup key).getD ""
      Run.assignItem setting.name key (← shape setting.append before setting.value entry.traits)
  | none, none =>
      let before := entry.value.getD ""
      Run.assign setting.name (← shape setting.append before setting.value entry.traits)

end Setting

end CatalogSeed.Script
