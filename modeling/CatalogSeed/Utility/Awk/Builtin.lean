import CatalogSeed.Utility.Awk.Files

/-!
The functions that programs over records need not define.
-/

namespace CatalogSeed.Utility.Awk

/-- What stands in for a match; an ampersand stands for the match, unless a backslash is before
it. -/
def substitute (found : List Char) : List Char → List Char
  | '\\' :: '\\' :: rest => '\\' :: substitute found rest
  | '\\' :: '&' :: rest => '&' :: substitute found rest
  | '&' :: rest => found ++ substitute found rest
  | c :: rest => c :: substitute found rest
  | [] => []

/-- Replaces one match or all of them, and counts them. An empty match right behind another one
does not count. -/
def replaceFrom (all : Bool) (regex : Regex) (text pieces : List Char) :
    Nat → Nat → Option Nat → List Char × Nat
  | 0, start, _ => (text.drop start, 0)
  | fuel + 1, start, before =>
      match if text.length < start then none else regex.find? (subjectOf text) start with
      | none => (text.drop start, 0)
      | some (first, place) =>
          let stop := place.position
          let front := (text.take first).drop start
          let past := (text.drop stop).take 1
          if first = stop ∧ before = some first then
            let (rest, count) := replaceFrom all regex text pieces fuel (stop + 1) before
            (front ++ past ++ rest, count)
          else
            let filling := substitute ((text.take stop).drop first) pieces
            if !all then (front ++ filling ++ text.drop stop, 1)
            else if first = stop then
              let (rest, count) := replaceFrom all regex text pieces fuel (stop + 1) (some stop)
              (front ++ filling ++ past ++ rest, count + 1)
            else
              let (rest, count) := replaceFrom all regex text pieces fuel stop (some stop)
              (front ++ filling ++ rest, count + 1)

/-- A number rounded to the nearest integer, halves to the even one. -/
def rounded (value : Float) : Int :=
  let below := value.floor
  let rest := value - below
  let even := remainder below 2 == 0
  cutOff (if rest < 0.5 || rest == 0.5 && even then below else below + 1)

/-- The part of a text from a place on, which is counted from one. -/
def part (text : String) (first : Float) (length : Option Float) : String :=
  let size : Int := text.length
  let start := rounded first
  let stop := match length with
    | none => size + 1
    | some length => if length.isNaN then start else rounded (first + length)
  let start := max 1 start
  let stop := min (size + 1) stop
  String.ofList ((text.toList.drop (start - 1).toNat).take (stop - start).toNat)

/-- Where a text first stands in another one, counted from one; zero if it does not. An empty text
stands at the front. -/
def indexOf (text wanted : List Char) : Nat :=
  if wanted = [] then 1
  else ((List.range text.length).find? fun place => wanted.isPrefixOf (text.drop place)).elim 0
    (· + 1)

namespace Action

def sprintf (values : List Value) : Action String := do
  match values with
  | [] => return ""
  | format :: values =>
      let text ← textOf format
      let number := (← global "CONVFMT").toText ""
      match fill (·.toText number) (text.length + 1) 1 text.toList values [] with
      | .ok printed => return String.ofList printed.reverse
      | .error .tooFew =>
          fail ("not enough arguments passed to printf(\"" ++ text ++ "\")")
      | .error (.improper number) =>
          fail ("improper conversion(number " ++ decimal number ++ ") in printf(\"" ++ text ++
            "\")")

/-- Looks for an expression in a text, and keeps where it was found. -/
def find (text : String) (regex : Regex) : Action Value := do
  let (start, length) : Float × Float := match regex.find? (subjectOf text.toList) 0 with
    | some (first, place) => ((first + 1).toFloat, (place.position - first).toFloat)
    | none => (0, -1)
  setGlobal "RSTART" (.number start)
  setGlobal "RLENGTH" (.number length)
  return .number start

/-- Parts a text into the elements of a table. -/
def split (text : String) (number : Nat) (separator : Separator) : Action Value := do
  let parts := splitText separator text
  setEntries number ((parts.zipIdx 1).map fun (part, place) => (decimal place, Value.ofInput part))
  return .ofNat parts.length

/-- A function that needs no more than values. -/
def plainBuiltin (name : String) (values : List Value) : Action Value := do
  let numbers := values.map Value.toNumber
  let number := numbers.headD 0
  let second := (numbers.drop 1).headD 0
  let text ← textOf (values.headD .unset)
  match name with
  | "substr" => return .text (part text second (numbers[2]?))
  | "index" => return .ofNat (indexOf text.toList (← textOf ((values.drop 1).headD .unset)).toList)
  | "sprintf" => return .text (← sprintf values)
  | "tolower" => return .text (text.map Char.toLower)
  | "toupper" => return .text (text.map Char.toUpper)
  | "sin" => return .number number.sin
  | "cos" => return .number number.cos
  | "atan2" => return .number (Float.atan2 number second)
  | "exp" => return .number number.exp
  | "log" => return .number number.log
  | "sqrt" => return .number number.sqrt
  | "int" => return .number (if number < 0 then number.ceil else number.floor)
  | "close" => close text
  | "fflush" =>
      flush
      return .number 0
  | "system" => return .number (← ask text none false).status.toFloat
  | _ => return .number 0

end Action

end CatalogSeed.Utility.Awk
