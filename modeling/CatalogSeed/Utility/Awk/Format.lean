import CatalogSeed.Script.Printing
import CatalogSeed.Utility.Awk.Value

/-!
Texts of numbers, and formats that are filled in with values.
-/

namespace CatalogSeed.Utility.Awk

def paddedNumber (placeholder : Script.Placeholder) (letter : Char) (value : Float) : List Char :=
  match Binary64.ofFloat? value with
  | some number =>
      placeholder.real Extended.double letter (.finite number.negative number.units)
  | none => placeholder.pad (specialText value).toList

/-- A format in front of what is left of it, for complaints: which conversion it fails at. -/
inductive FormatFault
  | tooFew
  | improper (number : Nat)

/-- Fills in a format; `convert` gives the texts of values. What is printed comes the last
character first. -/
def fill (convert : Value → String) :
    Nat → Nat → List Char → List Value → List Char → Except FormatFault (List Char)
  | 0, _, _, _, printed => .ok printed
  | _ + 1, _, [], _, printed => .ok printed
  | fuel + 1, number, '%' :: '%' :: rest, values, printed =>
      fill convert fuel number rest values ('%' :: printed)
  | fuel + 1, number, '%' :: rest, values, printed => do
      let (flags, rest) := rest.span fun c => "-+ #0".toList.contains c
      let size (text : List Char) (values : List Value) :
          Except FormatFault (Int × List Char × List Value) :=
        match text, values with
        | '*' :: _, [] => .error .tooFew
        | '*' :: rest, value :: values => .ok (cutOff value.toNumber, rest, values)
        | text, values =>
            let (digits, rest) := text.span Char.isDigit
            .ok ((digits.foldl (fun v c => 10 * v + (c.toNat - 48)) 0 : Nat), rest, values)
      let (width, rest, values) ← size rest values
      let flags := if width < 0 then '-' :: flags else flags
      let (places, rest, values) ← match rest with
        | '.' :: rest => do
            let (places, rest, values) ← size rest values
            pure ((if places < 0 then none else some places.toNat), rest, values)
        | rest => pure (none, rest, values)
      let placeholder : Script.Placeholder := ⟨flags, width.natAbs, places⟩
      match rest.dropWhile (fun c => "hlLq".toList.contains c), values with
      | [], _ => .error (.improper number)
      | letter :: rest, values =>
          if !"diouxXcsfFeEgG".toList.contains letter then .error (.improper number)
          else match values with
            | [] => .error .tooFew
            | value :: values =>
                let text := match letter with
                  | 's' => placeholder.text (convert value)
                  | 'c' => placeholder.text (match value with
                      | .number n => (Char.ofNat ((cutOff n) % 256).toNat).toString
                      | value => String.ofList ((convert value).toList.take 1))
                  | 'd' | 'i' => placeholder.signed (cutOff value.toNumber)
                  | 'o' | 'u' | 'x' | 'X' =>
                      let n := cutOff value.toNumber
                      placeholder.unsigned letter
                        (if n < 0 then n + (Nat.pow 2 64 : Nat) else n).toNat
                  | letter => paddedNumber placeholder letter value.toNumber
                fill convert fuel (number + 1) rest values (text.reverse ++ printed)
  | fuel + 1, number, c :: rest, values, printed =>
      fill convert fuel number rest values (c :: printed)

/-- The text of a number: integers with all their digits, others as a format says. -/
def numberText (format : String) (value : Float) : String :=
  match integer? value with
  | some n => toString n
  | none =>
      if !value.isFinite then specialText value
      else match fill (fun _ => "") (format.length + 1) 1 format.toList [.number value] [] with
        | .ok printed => String.ofList printed.reverse
        | .error _ => format

def Value.toText (format : String) : Value → String
  | .number n => numberText format n
  | .text t | .both t _ => t
  | .unset => ""

end CatalogSeed.Utility.Awk
