import CatalogSeed.Number.Binary64

/-!
JSON trees. Objects keep their members in order of first arrival.
-/

namespace CatalogSeed

/-- The integers a document can hold exactly: signed and unsigned ones of 64 bits. -/
structure Whole where
  val : Int
  lower : -0x8000000000000000 ≤ val
  upper : val < 0x10000000000000000
  deriving DecidableEq

def Whole.ofInt64 (n : Int64) : Whole :=
  ⟨n.toInt, n.le_toInt, Int.lt_trans n.toInt_lt (by decide)⟩

/-- `none` above the range of signed integers. -/
def Whole.toInt64? (n : Whole) : Option Int64 :=
  if n.val < 0x8000000000000000 then some (Int64.ofInt n.val) else none

inductive Number
  | whole (n : Whole)
  | real (x : Binary64)
  deriving DecidableEq

/-- Zeros are the same whatever their sign, and a whole number is never a real one. -/
def Number.same : Number → Number → Bool
  | .whole left, .whole right => left = right
  | .real left, .real right => left = right ∨ left.units = 0 ∧ right.units = 0
  | _, _ => false

inductive Json
  | null
  | bool (value : Bool)
  | number (value : Number)
  | string (value : String)
  | array (items : List Json)
  | object (members : List (String × Json))
  deriving Inhabited

/-- The members of an object whose content is left open. -/
abbrev Bag := List (String × Json)

/-- A new key goes to the end; a key that is already there keeps its place. -/
def Bag.put (key : String) (value : Json) : Bag → Bag
  | [] => [(key, value)]
  | (other, kept) :: rest =>
      if other = key then (other, value) :: rest else (other, kept) :: Bag.put key value rest

def Bag.get? (bag : Bag) (key : String) : Option Json :=
  bag.lookup key

namespace Json

def asObject? : Json → Option Bag
  | .object members => some members
  | _ => none

def asString? : Json → Option String
  | .string value => some value
  | _ => none

def int (n : Int64) : Json :=
  .number (.whole (.ofInt64 n))

def strings (values : List String) : Json :=
  .array (values.map .string)

mutual

/-- Equality that does not look at the order of members. -/
def same : Json → Json → Bool
  | .null, .null => true
  | .bool left, .bool right => left = right
  | .number left, .number right => left.same right
  | .string left, .string right => left = right
  | .array left, .array right => sameItems left right
  | .object left, .object right => left.length = right.length && sameMembers left right
  | _, _ => false

def sameItems : List Json → List Json → Bool
  | [], [] => true
  | left :: lefts, right :: rights => same left right && sameItems lefts rights
  | _, _ => false

/-- Every member on the left is also on the right. -/
def sameMembers : List (String × Json) → List (String × Json) → Bool
  | [], _ => true
  | (key, left) :: lefts, rights =>
      (match rights.lookup key with
        | some right => same left right
        | none => false) && sameMembers lefts rights

end

end Json

def Bag.same (left right : Bag) : Bool :=
  (Json.object left).same (.object right)

end CatalogSeed
