import CatalogSeed.Catalog.Basic

/-!
The properties of configuration blocks by dotted key: block, point, property.
-/

namespace CatalogSeed

structure ConfigIndex where
  properties : KeyMap Bag

namespace ConfigIndex

/-- Properties whose schema is an object, in the order of the blocks. -/
def definitions (blocks : List ConfigBlock) : List (String × Bag) :=
  blocks.flatMap fun block =>
    block.properties.filterMap fun (property, value) =>
      value.asObject?.map fun schema => (block.name ++ "." ++ property, schema)

/-- Of several definitions of a key the last counts. -/
def build (blocks : List ConfigBlock) : ConfigIndex :=
  ⟨.ofList (definitions blocks)⟩

def empty : ConfigIndex := ⟨.empty⟩

def get? (index : ConfigIndex) (key : String) : Option Bag :=
  index.properties.get? key

/-- The description of a property, if it is a text and not empty. -/
def description? (index : ConfigIndex) (key : String) : Option String := do
  let schema ← index.get? key
  let description ← (schema.get? "description").bind Json.asString?
  if description = "" then none else some description

def size (index : ConfigIndex) : Nat :=
  index.properties.size

end ConfigIndex

end CatalogSeed
