import CatalogSeed.Script.Number
import CatalogSeed.Script.Tree

/-!
Words with braces stand for several words: one for each alternative between commas, or for each
step of a sequence.
-/

namespace CatalogSeed.Script

namespace Braces

/-- A character without quotes, or a part that is taken as it is. -/
inductive Element
  | char (c : Char)
  | part (part : Part)

def elementsOf (word : Word) : List Element :=
  word.flatMap fun part => match part with
    | .literal text false => text.toList.map .char
    | part => [.part part]

def wordOf (elements : List Element) : Word :=
  elements.foldr (fun element word => match element, word with
    | .char c, .literal text false :: rest => .literal (c.toString ++ text) false :: rest
    | .char c, word => .literal c.toString false :: word
    | .part part, word => part :: word) []

def Element.isChar (c : Char) : Element → Bool
  | .char d => c = d
  | .part _ => false

/-- Parts the text behind an opening brace at its commas, up to the closing brace. -/
def alternatives : Nat → List Element → List Element → Option (List (List Element) × List Element)
  | _, _, [] => none
  | depth, before, element :: rest =>
      if element.isChar '\x7d' then
        if depth = 0 then some ([before.reverse], rest)
        else alternatives (depth - 1) (element :: before) rest
      else if element.isChar '\x7b' then alternatives (depth + 1) (element :: before) rest
      else if element.isChar ',' ∧ depth = 0 then
        (alternatives 0 [] rest).map fun (others, left) => (before.reverse :: others, left)
      else alternatives depth (element :: before) rest

def textOf? (elements : List Element) : Option (List Char) :=
  elements.mapM fun
    | .char c => some c
    | .part _ => none

/-- Parts a text at its double points. -/
def atDoublePoints : List Char → List Char → List (List Char)
  | before, '.' :: '.' :: rest => before.reverse :: atDoublePoints [] rest
  | before, c :: rest => atDoublePoints (c :: before) rest
  | before, [] => [before.reverse]

def signed? (text : List Char) : Option Int :=
  match integer false text with
  | some (value, []) => some value
  | _ => none

/-- The numbers from a first to a last one. -/
def stepsFrom (first last step : Int) : List Int :=
  let stride := if step = 0 then 1 else step.natAbs
  let count := (last - first).natAbs / stride + 1
  (List.range count).map fun index =>
    if first ≤ last then first + (index * stride : Nat) else first - (index * stride : Nat)

/-- The texts of a sequence between numbers or letters. -/
def sequence? (text : List Char) : Option (List String) :=
  let between (first last : List Char) (step : Int) : Option (List String) :=
    match signed? first, signed? last with
    | some a, some b =>
        let zeros (text : List Char) : Bool := match text with
          | '0' :: _ :: _ => true
          | '-' :: '0' :: _ :: _ => true
          | _ => false
        let width := if zeros first || zeros last then max first.length last.length else 0
        let render (value : Int) : String :=
          let digits := Nat.toDigits 10 value.natAbs
          let sign := if value < 0 then ['-'] else []
          String.ofList
            (sign ++ List.replicate (width - sign.length - digits.length) '0' ++ digits)
        some ((stepsFrom a b step).map render)
    | _, _ => match first, last with
        | [a], [b] =>
            if a.isAlpha && b.isAlpha then
              some ((stepsFrom a.toNat b.toNat step).map fun value =>
                (Char.ofNat value.toNat).toString)
            else none
        | _, _ => none
  match atDoublePoints [] text with
  | [first, last] => between first last 1
  | [first, last, step] => (signed? step).bind fun step => between first last step
  | _ => none

/-- The words that one with braces stands for. -/
def expand : Nat → List Element → List (List Element)
  | 0, elements => [elements]
  | _ + 1, [] => [[]]
  | fuel + 1, element :: rest =>
      let plain : List (List Element) := (expand fuel rest).map (element :: ·)
      if !element.isChar '\x7b' then plain
      else match alternatives 0 [] rest with
        | none => plain
        | some ([inside], behind) =>
            match (textOf? inside).bind sequence? with
            | some texts =>
                let ends := expand fuel behind
                texts.flatMap fun text => ends.map (text.toList.map .char ++ ·)
            | none =>
                let closed := (expand fuel (inside ++ [.char '\x7d'] ++ behind))
                closed.map (element :: ·)
        | some (choices, behind) =>
            let ends := expand fuel behind
            choices.flatMap fun choice => (expand fuel choice).flatMap fun front =>
              ends.map (front ++ ·)

end Braces

/-- The words that a word with braces stands for. -/
def Word.atBraces (word : Word) : List Word :=
  let elements := Braces.elementsOf word
  if elements.any (Braces.Element.isChar '\x7b') then
    (Braces.expand (2 * elements.length + 2) elements).map Braces.wordOf
  else [word]

end CatalogSeed.Script
