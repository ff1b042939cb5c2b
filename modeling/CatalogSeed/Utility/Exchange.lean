import CatalogSeed.Utility.Basic
import CatalogSeed.Script.Pattern

/-!
Replacing, deleting and squeezing characters of sets.
-/

namespace CatalogSeed.Utility.Exchange

/-- An item of a set: characters one after the other, or one that is repeated, as often as fills
the set up if no number is given. -/
inductive Element
  | chars (chars : List Char)
  | case (upper : Bool)
  | repeated (c : Char) (count : Option Nat)

/-- Takes escapes out; characters that were escaped have no other meaning. -/
def unescape : List Char → List Script.Letter
  | [] => []
  | '\\' :: a :: b :: c :: rest =>
      let octal (c : Char) : Bool := '0' ≤ c && c ≤ '7'
      let value (digits : List Char) : Char :=
        Char.ofNat (digits.foldl (fun value digit => 8 * value + (digit.toNat - 48)) 0 % 256)
      if octal a && octal b && octal c && a ≤ '3' then
        ⟨value [a, b, c], true⟩ :: unescape rest
      else if octal a && octal b then ⟨value [a, b], true⟩ :: unescape (c :: rest)
      else if octal a then ⟨value [a], true⟩ :: unescape (b :: c :: rest)
      else ⟨letter a, true⟩ :: unescape (b :: c :: rest)
  | ['\\', a, b] =>
      let octal (c : Char) : Bool := '0' ≤ c && c ≤ '7'
      if octal a && octal b then [⟨Char.ofNat (8 * (a.toNat - 48) + (b.toNat - 48)), true⟩]
      else if octal a then [⟨Char.ofNat (a.toNat - 48), true⟩, ⟨b, false⟩]
      else ⟨letter a, true⟩ :: unescape [b]
  | ['\\', a] =>
      if '0' ≤ a ∧ a ≤ '7' then [⟨Char.ofNat (a.toNat - 48), true⟩] else [⟨letter a, true⟩]
  | c :: rest => ⟨c, false⟩ :: unescape rest
where
  letter (c : Char) : Char :=
    ([('a', '\x07'), ('b', '\x08'), ('f', '\x0c'), ('n', '\n'), ('r', '\x0d'), ('t', '\t'),
      ('v', '\x0b')].lookup c).getD c

def between (first last : Char) : List Char :=
  (List.range (last.toNat + 1 - first.toNat)).map fun offset => Char.ofNat (first.toNat + offset)

/-- Reads the items of a set. -/
def elements : Nat → List Script.Letter → Except String (List Element)
  | 0, _ => .ok []
  | _ + 1, [] => .ok []
  | fuel + 1, letter :: rest =>
      let opening := letter = ⟨'[', false⟩
      match if opening then class? rest else none with
      | some (name, later) =>
          match Script.Pattern.classes.lookup name with
          | none => .error ("invalid character class " ++ quoted name)
          | some ranges =>
              let element := if name = "upper" then Element.case true
                else if name = "lower" then .case false
                else .chars (ranges.flatMap fun (first, last) => between first last)
              (elements fuel later).map (element :: ·)
      | none =>
          match if opening then repeat? rest else none with
          | some (element, later) => (elements fuel later).map (element :: ·)
          | none =>
              match rest with
              | ⟨'-', false⟩ :: last :: later =>
                  if last.char < letter.char then
                    .error ("range-endpoints of '" ++ letter.char.toString ++ "-" ++
                      last.char.toString ++ "' are in reverse collating sequence order")
                  else
                    (elements fuel later).map (.chars (between letter.char last.char) :: ·)
              | _ => (elements fuel rest).map (.chars [letter.char] :: ·)
where
  class? (text : List Script.Letter) : Option (String × List Script.Letter) :=
    match text with
    | ⟨':', false⟩ :: rest =>
        let (name, behind) := rest.span fun letter => letter.char.isAlpha
        match behind with
        | ⟨':', _⟩ :: ⟨']', false⟩ :: later =>
            some (String.ofList (name.map Script.Letter.char), later)
        | _ => none
    | _ => none
  repeat? (text : List Script.Letter) : Option (Element × List Script.Letter) :=
    match text with
    | letter :: ⟨'*', false⟩ :: rest =>
        let (digits, behind) := rest.span fun letter => letter.char.isDigit
        let base := if (digits.head?.map Script.Letter.char) = some '0' then 8 else 10
        let count := digits.foldl (fun value digit => base * value + (digit.char.toNat - 48)) 0
        match behind with
        | ⟨']', false⟩ :: later =>
            some (.repeated letter.char (if count = 0 then none else some count), later)
        | _ => none
    | _ => none

/-- The characters of a set that has to have a size. -/
def charsOf (size : Nat) (elements : List Element) : List Char :=
  let fixed (element : Element) : List Char := match element with
    | .chars chars => chars
    | .case upper => if upper then between 'A' 'Z' else between 'a' 'z'
    | .repeated c count => List.replicate (count.getD 0) c
  let known := (elements.flatMap fixed).length
  elements.flatMap fun element => match element with
    | .repeated c none => List.replicate (size - known) c
    | other => fixed other

/-- Keeps one of characters that are repeated, for those of a set. -/
def squeeze (inSet : Char → Bool) : Option Char → List Char → List Char
  | _, [] => []
  | before, c :: rest =>
      if before = some c ∧ inSet c then squeeze inSet before rest
      else c :: squeeze inSet (some c) rest

/-- All characters in order that are not among these. -/
def complement (chars : List Char) : List Char :=
  (between '\x00' '\xff').filter fun c => !chars.contains c

/-- What each character becomes. -/
def mapped (sources targets : List Char) (c : Char) : Char :=
  let pairs := sources.zip (targets ++ List.replicate (sources.length - targets.length)
    (targets.getLast?.getD ' '))
  (pairs.reverse.lookup c).getD c

end Exchange

open Exchange in
def tr (job : Job) : Result :=
  let long := [("complement", "c", false), ("delete", "d", false),
    ("squeeze-repeats", "s", false), ("truncate-set1", "t", false)]
  match job.call "cCdst" "" long true 1 with
  | .error result => result
  | .ok call =>
      let delete := call.has ["d"]
      let squeezing := call.has ["s"]
      let most := if delete && !squeezing then 1 else 2
      let least := if delete == squeezing then 2 else 1
      match call.operands with
      | [] => job.usage 1 "missing operand"
      | first :: others =>
          if most ≤ others.length then
            let extra := "extra operand " ++ quoted (others.getD (most - 1) "")
            job.usage 1 (if delete && !squeezing && others.length = 1 then
              extra ++ "\nOnly one string may be given when deleting without squeezing repeats."
            else extra)
          else if others.length + 1 < least then
            job.usage 1 ("missing operand after " ++ quoted first ++
              (if delete then
                "\nTwo strings must be given when both deleting and squeezing repeats."
              else "\nTwo strings must be given when translating."))
          else
            let read (text : String) : Except String (List Element) :=
              elements (text.length + 1) (unescape text.toList)
            match read first, read (others.headD "") with
            | .error message, _ | _, .error message => job.fail 1 message
            | .ok one, .ok two =>
                let sources := charsOf 0 one
                let sources := if call.has ["c", "C"] then complement sources else sources
                let targets := charsOf sources.length two
                let done (text : List Char) : Result :=
                  job.written [⟨false, String.ofList text⟩] 0 true
                if delete then
                  let left := job.input.filter fun c => !sources.contains c
                  done (if squeezing then squeeze targets.contains none left else left)
                else if others = [] then done (squeeze sources.contains none job.input)
                else
                  let classes := two.any fun element => match element with
                    | .chars chars => 1 < chars.length && [between '0' '9'].contains chars &&
                        (others.headD "").contains '['
                    | _ => false
                  if classes then
                    job.fail 1 ("when translating, the only character classes that may appear " ++
                      "in\nstring2 are 'upper' and 'lower'")
                  else if targets = [] ∧ sources ≠ [] then
                    job.fail 1 "when not truncating set1, string2 must be non-empty"
                  else
                    let sources := if call.has ["t"] then sources.take targets.length else sources
                    let text := job.input.map (mapped sources targets)
                    done (if squeezing then squeeze targets.contains none text else text)

end CatalogSeed.Utility
