import CatalogSeed.Script.Shell

/-!
Variables with several values, each under a key. Numbers as keys are kept in order; a variable
with one value counts as a list that has it at zero.
-/

namespace CatalogSeed.Script

namespace Items

/-- Puts a value under a key, in its place among numbered ones or behind the others. -/
def put (key value : String) (items : Items) : Items :=
  if (items.entries.lookup key).isSome then
    { items with entries := items.entries.map fun entry =>
        if entry.1 = key then (key, value) else entry }
  else if items.named then { items with entries := items.entries ++ [(key, value)] }
  else
    let number (key : String) : Nat := key.toNat?.getD 0
    let (before, after) := items.entries.span fun entry => number entry.1 < number key
    { items with entries := before ++ (key, value) :: after }

/-- The number behind the greatest one in use. -/
def nextKey (items : Items) : Nat :=
  (items.entries.map fun entry => (entry.1.toNat?.getD 0) + 1).foldl max 0

/-- The key that a negative number stands for, counted from the end. -/
def keyOf (items : Items) (index : Int) : Option String :=
  let index := if index < 0 then index + (items.nextKey : Nat) else index
  if index < 0 then none else some (decimal index.toNat)

end Items

/-- The values of a variable. -/
def Variable.toItems (entry : Variable) : Items :=
  match entry.items, entry.value with
  | some items, _ => items
  | none, some value => ⟨false, [("0", value)]⟩
  | none, none => ⟨false, []⟩

/-- The variable with other values; its own value is the one at zero. -/
def Variable.withItems (items : Items) (entry : Variable) : Variable :=
  { entry with items := some items, value := items.entries.lookup "0" }

namespace Run

def items (name : String) : Run Items := do
  return (((← get).vars.lookup name).map Variable.toItems).getD ⟨false, []⟩

/-- Sets the value under a key. -/
def assignItem (name key value : String) : Run Unit := do
  checkChange name
  setVariable name fun entry => entry.withItems (entry.toItems.put key value)

/-- Sets all values of a variable. -/
def assignItems (name : String) (items : Items) : Run Unit := do
  checkChange name
  setVariable name fun entry => entry.withItems items

/-- Sets the values of a variable to these, at zero and on. -/
def assignList (name : String) (values : List String) : Run Unit :=
  assignItems name ⟨false, values.zipIdx.map fun (value, index) => (decimal index, value)⟩

/-- Forgets the value under a key. -/
def unsetItem (name key : String) : Run Unit :=
  setVariable name fun entry =>
    let items := entry.toItems
    entry.withItems { items with entries := items.entries.filter (·.1 ≠ key) }

end Run

end CatalogSeed.Script
