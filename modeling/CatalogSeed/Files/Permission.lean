/-!
What is permitted with a file, as twelve bits: reading, writing and running for its owner, its
group and others, and above them the bits for running as the owner or the group and for keeping
names to their owners. Changes to these bits have a notation of their own.
-/

namespace CatalogSeed.Permission

def allBits : Nat := 0o7777

/-- What a change sets, adds or takes away. -/
inductive Value
  | bits (bits : Nat)
  /-- What a part of the bits holds before the change, for all parts. -/
  | copied (part : Nat)
  /-- These bits, and the right to run what is a directory or can be run by anyone. -/
  | runnable (bits : Nat)
  deriving DecidableEq

/-- One change; `affected` is zero where nobody is named. `mentioned` are the bits that the notation
names, which matters for directories. -/
structure Change where
  sign : Char
  affected : Nat
  mentioned : Nat
  value : Value
  deriving DecidableEq

def without (bits taken : Nat) : Nat :=
  bits - (bits &&& taken)

/-- The rights that are found in any part, given to all parts. -/
def spread (bits : Nat) : Nat :=
  let right (mask : Nat) : Nat := if bits &&& mask = 0 then 0 else mask
  right 0o444 + right 0o222 + right 0o111

def Change.apply (directory : Bool) (mask : Nat) (mode : Nat) (change : Change) : Nat :=
  let kept := if directory then without 0o6000 change.mentioned else 0
  let value := match change.value with
    | .bits bits => bits
    | .copied part => spread (mode &&& part)
    | .runnable bits => if directory || mode &&& 0o111 ≠ 0 then bits ||| 0o111 else bits
  let limit := if change.affected = 0 then without allBits mask else change.affected
  let value := without (value &&& limit) kept
  match change.sign with
  | '+' => mode ||| value
  | '-' => without mode value
  | _ =>
      let preserved := (if change.affected = 0 then 0 else without allBits change.affected) ||| kept
      (mode &&& preserved) ||| value

def part (letter : Char) : Nat :=
  match letter with
  | 'u' => 0o4700
  | 'g' => 0o2070
  | 'o' => 0o1007
  | 'a' => allBits
  | _ => 0

def right (letter : Char) : Nat :=
  match letter with
  | 'r' => 0o444
  | 'w' => 0o222
  | 'x' => 0o111
  | 's' => 0o6000
  | 't' => 0o1000
  | _ => 0

def octal? (digits : List Char) : Option Nat :=
  let value := digits.foldl (fun value digit => 8 * value + (digit.toNat - 48)) 0
  if digits ≠ [] ∧ value ≤ allBits then some value else none

def isOctal (c : Char) : Bool :=
  '0' ≤ c && c ≤ '7'

/-- The changes that stand behind the letters for whom they are meant. -/
def actions? (affected : Nat) : Nat → List Char → Option (List Change)
  | 0, _ => none
  | _ + 1, [] => some []
  | fuel + 1, sign :: rest =>
      if !"+-=".toList.contains sign then none
      else
        let (digits, behind) := rest.span isOctal
        if digits ≠ [] then
          if affected = 0 ∧ behind = [] then
            (octal? digits).map fun value => [⟨sign, allBits, allBits, .bits value⟩]
          else none
        else
          let mentioned (value : Nat) : Nat :=
            if affected = 0 then value else affected &&& value
          match rest with
          | letter :: more =>
              if "ugo".toList.contains letter then
                let bits := part letter &&& 0o777
                let change : Change := ⟨sign, affected, mentioned bits, .copied bits⟩
                (actions? affected fuel more).map (change :: ·)
              else
                let (letters, more) := rest.span "rwxXst".toList.contains
                let bits := letters.foldl (fun bits letter => bits ||| right letter) 0
                let value := if letters.contains 'X' then Value.runnable bits else .bits bits
                (actions? affected fuel more).map (⟨sign, affected, mentioned bits, value⟩ :: ·)
          | [] => some [⟨sign, affected, 0, .bits 0⟩]

/-- The changes that a text asks for: an octal number, or parts between commas. -/
def changes? (text : String) : Option (List Change) :=
  let chars := text.toList
  if chars ≠ [] ∧ chars.all isOctal then
    (octal? chars).map fun value =>
      let mentioned := if chars.length < 5 then (value &&& 0o7000) ||| 0o777 else allBits
      [⟨'=', allBits, mentioned, .bits value⟩]
  else
    ((chars.splitOn ',').mapM clause?).map List.flatten
where
  clause? (clause : List Char) : Option (List Change) :=
    let (who, action) := clause.span "ugoa".toList.contains
    let affected := who.foldl (fun bits letter => bits ||| part letter) 0
    if action = [] then none else actions? affected (action.length + 1) action

/-- The mode that changes make of another one. -/
def changed (directory : Bool) (mask : Nat) (changes : List Change) (mode : Nat) : Nat :=
  changes.foldl (Change.apply directory mask) mode

/-- The rights of a mode in letters. -/
def letters (mode : Nat) : String :=
  let one (bit : Nat) (letter : Char) : Char := if mode &&& bit = 0 then '-' else letter
  let run (bit special : Nat) (small large : Char) : Char :=
    if mode &&& special = 0 then one bit 'x'
    else if mode &&& bit = 0 then large
    else small
  String.ofList [
    one 0o400 'r', one 0o200 'w', run 0o100 0o4000 's' 'S',
    one 0o040 'r', one 0o020 'w', run 0o010 0o2000 's' 'S',
    one 0o004 'r', one 0o002 'w', run 0o001 0o1000 't' 'T']

end CatalogSeed.Permission
