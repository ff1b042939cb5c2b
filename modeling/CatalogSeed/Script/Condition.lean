import CatalogSeed.Script.Arithmetic

/-!
Conditions on texts, numbers and files. A word counts as an operator or as an operand according to
what stands behind it.
-/

namespace CatalogSeed.Script

/-- What a word is within a condition. -/
inductive Sign
  | ended
  | operand
  | negation
  | both
  | either
  | opening
  | closing
  | unary (operator : String)
  | binary (operator : String)
  deriving DecidableEq

namespace Sign

def unaryOperators : List String :=
  ["-r", "-w", "-x", "-e", "-f", "-d", "-c", "-b", "-p", "-u", "-g", "-k", "-s", "-t", "-z", "-n",
    "-h", "-L", "-S", "-O", "-G"]

def binaryOperators : List String :=
  ["=", "!=", "<", ">", "-eq", "-ne", "-gt", "-ge", "-lt", "-le", "-nt", "-ot", "-ef"]

def operator? (word : String) : Option Sign :=
  if unaryOperators.contains word then some (unary word)
  else if binaryOperators.contains word then some (binary word)
  else match word with
    | "!" => some negation
    | "-a" => some both
    | "-o" => some either
    | "(" => some opening
    | ")" => some closing
    | _ => none

def isBinary (word : String) : Bool :=
  binaryOperators.contains word

def ofWords : List String → Sign
  | [] => ended
  | word :: rest =>
      match operator? word, rest with
      | some (unary _), [] => operand
      | some (unary operator), [_] => unary operator
      | some (unary operator), second :: _ =>
          if isBinary second then operand else unary operator
      | some opening, [] => operand
      | some sign, _ => sign
      | none, _ => operand

end Sign

namespace Condition

/-- Whether something is so for what a path leads to. Whoever runs this may read and write
everything. -/
def fileTest (tree : FileTree) (operator path : String) : Bool :=
  let text := Octets.toText path
  if operator = "-h" ∨ operator = "-L" then
    match tree.resolveSelf text with
    | .ok (_, .link _) => true
    | _ => false
  else match tree.nodeAt text with
  | .error _ => false
  | .ok node =>
      match operator, node.item with
      | "-e", _ | "-r", _ | "-w", _ => true
      | "-f", .file _ | "-f", .utility _ => true
      | "-d", .directory | "-x", .directory => true
      | "-c", .device _ => true
      | "-p", .pipe _ => true
      | "-x", _ => node.isRunnable
      | "-s", item => 0 < item.size
      | "-u", _ => node.mode &&& 0o4000 ≠ 0
      | "-g", _ => node.mode &&& 0o2000 ≠ 0
      | "-k", _ => node.mode &&& 0o1000 ≠ 0
      | "-O", _ => node.user = 0
      | "-G", _ => node.group = 0
      | "-N", _ => node.used < node.changed
      | _, _ => false

def sameFile (tree : FileTree) (first second : String) : Bool :=
  let number? (path : String) : Option Nat :=
    (tree.resolve (Octets.toText path)).toOption.bind fun (location, _) => tree.number? location
  (number? first).isSome && number? first = number? second

/-- When what a path leads to was changed. -/
def changed? (tree : FileTree) (path : String) : Option Int :=
  (tree.nodeAt (Octets.toText path)).toOption.map (·.changed)

/-- Whether the first of two files was changed later. -/
def isNewer (tree : FileTree) (first second : String) : Bool :=
  match changed? tree first, changed? tree second with
  | some one, some other => other < one
  | _, _ => false

/-- What is left of the condition, from the word that is looked at. -/
abbrev Reading := StateT (List String) (Except String)

def complain {α : Type} (message : String) : Reading α :=
  StateT.lift (.error message)

def rest : Reading (List String) :=
  return (← get).drop 1

def numberOf (text : String) : Reading Int :=
  match integer false text.toList with
  | some (value, rest) =>
      if rest.all isSpace ∧ smallestNumber ≤ value ∧ value ≤ largestNumber then return value
      else complain ("Illegal number: " ++ text)
  | none => complain ("Illegal number: " ++ text)

def numbersCompare (left right : String) (relation : Int → Int → Bool) : Reading Bool := do
  let left ← numberOf left
  return relation left (← numberOf right)

def compare (tree : FileTree) (left operator right : String) : Reading Bool :=
  match operator with
  | "=" => return left = right
  | "!=" => return left ≠ right
  | "<" => return left < right
  | ">" => return right < left
  | "-eq" => numbersCompare left right (· = ·)
  | "-ne" => numbersCompare left right (· ≠ ·)
  | "-lt" => numbersCompare left right (· < ·)
  | "-le" => numbersCompare left right (· ≤ ·)
  | "-gt" => numbersCompare left right (fun a b => b < a)
  | "-ge" => numbersCompare left right (fun a b => b ≤ a)
  | "-ef" => return sameFile tree left right
  | "-nt" => return isNewer tree left right
  | "-ot" => return isNewer tree right left
  | _ => return false

mutual

def either (tree : FileTree) : Nat → Sign → Reading Bool
  | 0, _ => return false
  | fuel + 1, sign => do
      let first ← both tree fuel sign
      if Sign.ofWords (← rest) = .either then
        modify (·.drop 2)
        let second ← either tree fuel (.ofWords (← get))
        return first || second
      else return first

def both (tree : FileTree) : Nat → Sign → Reading Bool
  | 0, _ => return false
  | fuel + 1, sign => do
      let first ← negated tree fuel sign
      if Sign.ofWords (← rest) = .both then
        modify (·.drop 2)
        let second ← both tree fuel (.ofWords (← get))
        return first && second
      else return first

def negated (tree : FileTree) : Nat → Sign → Reading Bool
  | 0, _ => return false
  | fuel + 1, sign => do
      if sign = .negation then
        let next := Sign.ofWords (← rest)
        if next ≠ .ended then
          modify (·.drop 1)
        return !(← negated tree fuel next)
      else primary tree fuel sign

def primary (tree : FileTree) : Nat → Sign → Reading Bool
  | 0, _ => return false
  | fuel + 1, sign => do
      match sign with
      | .ended => return false
      | .opening =>
          modify (·.drop 1)
          let next := Sign.ofWords (← get)
          if next = .closing then return false
          let outcome ← either tree fuel next
          modify (·.drop 1)
          if Sign.ofWords (← get) = .closing then return outcome
          else complain "closing paren expected"
      | .unary operator =>
          modify (·.drop 1)
          match ← get with
          | [] => complain (operator ++ ": argument expected")
          | text :: _ =>
              match operator with
              | "-z" => return text = ""
              | "-n" => return text ≠ ""
              | "-t" =>
                  let _ ← numberOf text
                  return false
              | _ => return fileTest tree operator text
      | _ =>
          match ← get with
          | left :: more =>
              match Sign.ofWords more, more with
              | .binary operator, _ :: right :: _ =>
                  modify (·.drop 2)
                  compare tree left operator right
              | .binary operator, _ => complain (operator ++ ": argument expected")
              | _, _ => return left ≠ ""
          | [] => return false

end

/-- Works out a condition; the sign that it begins with is given. -/
def whole (tree : FileTree) (sign : Sign) (words : List String) : Except String Bool := do
  let (outcome, left) ← (either tree (4 * words.length + 8) sign).run words
  match left with
  | word :: _ :: _ =>
      .error (if word = "" then "unexpected operator" else word ++ ": unexpected operator")
  | _ => .ok outcome

/-- The outcome of a condition, or what is wrong with it. Three words with an operator in the
middle are a comparison, whatever the others are. -/
def outcome (tree : FileTree) : Nat → List String → Except String Bool
  | _, [] => .ok false
  | 0, words => whole tree (.ofWords words) words
  | fuel + 1, words =>
      let comparison := match words with
        | [_, operator, _] => Sign.isBinary operator
        | _ => false
      if comparison then whole tree .operand words
      else if words.length = 3 ∨ words.length = 4 then
        if words.head? = some "(" ∧ words.getLast? = some ")" then
          let inside := words.tail.dropLast
          whole tree (.ofWords inside) inside
        else if words.head? = some "!" then (outcome tree fuel words.tail).map not
        else whole tree (.ofWords words) words
      else whole tree (.ofWords words) words

end Condition

end CatalogSeed.Script
