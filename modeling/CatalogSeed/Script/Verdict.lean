import CatalogSeed.Script.Condition
import CatalogSeed.Script.Expansion
import CatalogSeed.Utility.Regex

/-!
Conditions of the extended dialect: between single brackets, where the number of words decides what
they mean, and between double brackets, where they are read as part of the script.
-/

namespace CatalogSeed.Script

namespace Verdict

def unaryOperators : List String :=
  ["-a", "-b", "-c", "-d", "-e", "-f", "-g", "-h", "-k", "-n", "-o", "-p", "-r", "-s", "-t", "-u",
    "-v", "-w", "-x", "-z", "-G", "-L", "-N", "-O", "-R", "-S"]

def binaryOperators : List String :=
  ["=", "==", "!=", "<", ">", "-eq", "-ne", "-lt", "-le", "-gt", "-ge", "-nt", "-ot", "-ef"]

/-- The shell as far as conditions ask for it. -/
structure Scene where
  tree : FileTree
  isSet : String → Bool
  isOn : String → Bool

def unary (scene : Scene) (operator text : String) : Bool :=
  match operator with
  | "-n" => text ≠ ""
  | "-z" => text = ""
  | "-v" => scene.isSet text
  | "-o" => scene.isOn text
  | "-t" => false
  | "-a" => Condition.fileTest scene.tree "-e" text
  | _ => Condition.fileTest scene.tree operator text

def integerOf (text : String) : Except String Int :=
  match integer false text.toList with
  | some (value, rest) =>
      if rest.all isSpace ∧ smallestNumber ≤ value ∧ value ≤ largestNumber then .ok value
      else .error (text ++ ": integer expression expected")
  | none => .error (text ++ ": integer expression expected")

def compareIntegers (operator : String) (a b : Int) : Bool :=
  match operator with
  | "-eq" => a = b
  | "-ne" => a ≠ b
  | "-lt" => a < b
  | "-le" => a ≤ b
  | "-gt" => b < a
  | _ => b ≤ a

def isNumeric (operator : String) : Bool :=
  ["-eq", "-ne", "-lt", "-le", "-gt", "-ge"].contains operator

def compareTexts (scene : Scene) (left operator right : String) : Bool :=
  let exists? (path : String) : Bool := (Condition.changed? scene.tree path).isSome
  match operator with
  | "=" | "==" => left = right
  | "!=" => left ≠ right
  | "<" => left < right
  | ">" => right < left
  | "-ef" => Condition.sameFile scene.tree left right
  | "-nt" => (exists? left && !exists? right) || Condition.isNewer scene.tree left right
  | "-ot" => (exists? right && !exists? left) || Condition.isNewer scene.tree right left
  | _ => false

def binary (scene : Scene) (left operator right : String) : Except String Bool := do
  if isNumeric operator then
    return compareIntegers operator (← integerOf left) (← integerOf right)
  else return compareTexts scene left operator right

def two (scene : Scene) (first second : String) : Except String Bool :=
  if first = "!" then .ok (second = "")
  else if unaryOperators.contains first then .ok (unary scene first second)
  else .error (first ++ ": unary operator expected")

def three (scene : Scene) (first second third : String) : Except String Bool :=
  if binaryOperators.contains second then binary scene first second third
  else if second = "-a" then .ok (first ≠ "" && third ≠ "")
  else if second = "-o" then .ok (first ≠ "" || third ≠ "")
  else if first = "!" then (two scene second third).map not
  else if first = "(" ∧ third = ")" then .ok (second ≠ "")
  else .error (second ++ ": binary operator expected")

abbrev Reading := StateT (List String) (Except String)

mutual

def either (scene : Scene) : Nat → Reading Bool
  | 0 => fun _ => .error "too many arguments"
  | fuel + 1 => do
      let first ← both scene fuel
      match ← get with
      | "-o" :: rest =>
          set rest
          let second ← either scene fuel
          return first || second
      | _ => return first

def both (scene : Scene) : Nat → Reading Bool
  | 0 => fun _ => .error "too many arguments"
  | fuel + 1 => do
      let first ← primary scene fuel
      match ← get with
      | "-a" :: rest =>
          set rest
          let second ← both scene fuel
          return first && second
      | _ => return first

def primary (scene : Scene) : Nat → Reading Bool
  | 0 => fun _ => .error "too many arguments"
  | fuel + 1 => do
      match ← get with
      | [] => fun _ => .error "argument expected"
      | "!" :: rest =>
          set rest
          return !(← primary scene fuel)
      | "(" :: rest =>
          set rest
          let inside ← either scene fuel
          match ← get with
          | ")" :: rest =>
              set rest
              return inside
          | word :: _ => fun _ => .error ("\x60)' expected, found " ++ word)
          | [] => fun _ => .error "\x60)' expected"
      | first :: operator :: third :: rest =>
          if binaryOperators.contains operator then
            set rest
            let outcome ← StateT.lift (binary scene first operator third)
            return outcome
          else if unaryOperators.contains first then
            set (third :: rest)
            return unary scene first operator
          else
            set (operator :: third :: rest)
            return first ≠ ""
      | [first, second] =>
          if unaryOperators.contains first then
            set ([] : List String)
            return unary scene first second
          else
            set [second]
            return first ≠ ""
      | [word] =>
          set ([] : List String)
          return word ≠ ""

end

/-- Several conditions, joined by operators. -/
def joined (scene : Scene) (words : List String) : Except String Bool := do
  let (outcome, rest) ← (either scene (4 * words.length + 8)).run words
  if rest = [] then return outcome else .error "too many arguments"

/-- The outcome of a condition, or what is wrong with it. -/
def outcome (scene : Scene) (words : List String) : Except String Bool :=
  match words with
  | [] => .ok false
  | [word] => .ok (word ≠ "")
  | [first, second] => two scene first second
  | [first, second, third] => three scene first second third
  | [first, second, third, fourth] =>
      if first = "!" then (three scene second third fourth).map not
      else if first = "(" ∧ fourth = ")" then two scene second third
      else joined scene words
  | words => joined scene words

/-- What conditions can ask the shell for. -/
def scene : Run Scene := do
  let shell ← get
  let isSet (text : String) : Bool :=
    let (name, key) := settingName text
    match shell.vars.lookup name, key with
    | some entry, none => entry.value.isSome
    | some entry, some "@" => entry.toItems.entries ≠ []
    | some entry, some key => (entry.toItems.entries.lookup key).isSome
    | none, _ => false
  let isOn (name : String) : Bool :=
    match name with
    | "errexit" => shell.options.contains 'e'
    | "nounset" => shell.options.contains 'u'
    | "pipefail" => shell.options.contains '|'
    | "xtrace" => shell.options.contains 'x'
    | _ => false
  return ⟨shell.world.tree, isSet, isOn⟩

/-- Matches a text with a regular expression, whose quoted letters stand for themselves, and keeps
what was matched. -/
def matchExpression (text : String) (letters : Field) : Run Bool := do
  let spelled := letters.flatMap fun letter =>
    if letter.quoted && !letter.char.isAlphanum then ['\\', letter.char] else [letter.char]
  match Utility.Regex.parse ⟨true, true⟩ spelled with
  | .error _ =>
      Run.status 2
      Run.stop .error
  | .ok regex =>
      let chars := text.toList
      match regex.find? ⟨chars.toArray, false, false⟩ 0 with
      | none =>
          Run.assignList "BASH_REMATCH" []
          return false
      | some (first, place) =>
          let part (first stop : Nat) : String := String.ofList ((chars.take stop).drop first)
          let groups := (List.range (Utility.Regex.groupCount spelled)).map fun index =>
            match place.groups.lookup (index + 1) with
            | some (first, stop) => part first stop
            | none => ""
          Run.assignList "BASH_REMATCH" (part first place.position :: groups)
          return true

/-- Shows a condition that is worked out. -/
abbrev Show := List String → Run Unit

/-- Whether a condition between double brackets holds. -/
def holds (capture : Option Command → Run String) (render : Show) : Test → Run Bool
  | .word word => do
      let text ← expandText capture word
      render ["-n", text]
      return text ≠ ""
  | .unary operator word => do
      let text ← expandText capture word
      render [operator, text]
      return unary (← scene) operator text
  | .binary operator left right => do
      let text ← expandText capture left
      match operator with
      | "=" | "==" | "!=" =>
          let letters ← expandPattern capture right
          render [text, operator, textOf letters]
          return (← fitsPattern letters text) != (operator = "!=")
      | "=~" =>
          let letters ← expandPattern capture right
          render [text, operator, textOf letters]
          matchExpression text letters
      | _ =>
          let other ← expandText capture right
          render [text, operator, other]
          if isNumeric operator then
            return compareIntegers operator (← calculate text) (← calculate other)
          else return compareTexts (← scene) text operator other
  | .negated test => return !(← holds capture (fun words => render ("!" :: words)) test)
  | .both left right => do
      if ← holds capture render left then holds capture render right else return false
  | .either left right => do
      if ← holds capture render left then return true else holds capture render right

end Verdict

end CatalogSeed.Script
