import CatalogSeed.Document.Fault
import CatalogSeed.KeyMap

/-!
Kinds: what a place in a document may hold. Records are read from objects or, in the order of
their members, from arrays.
-/

namespace CatalogSeed

/-- Whether a member may be left out, and whether it may be null instead. -/
inductive Presence
  | lenient
  | optional
  | required
  deriving DecidableEq

structure Member (κ : Type) where
  key : String
  presence : Presence
  kind : κ

inductive Kind
  | text
  | integer
  | flag
  | json
  | bag
  | choice (names : List String)
  | list (item : Kind)
  | table (item : Kind)
  | record (label : String) (members : List (Member Kind))

/-- What is said to be wanted where something else stands. -/
def Kind.wanted : Kind → String
  | .text => "a string"
  | .integer => "i64"
  | .flag => "a boolean"
  | .json => "any value"
  | .bag | .table _ => "a map"
  | .choice _ => "enum"
  | .list _ => "a sequence"
  | .record label _ => "struct " ++ label

/-- What was read, shaped by its kind. A table keeps its entries as they came, also those that a
later one with the same key replaces; a record has a place for each of its members. -/
inductive Datum
  | text (value : String)
  | integer (value : Int64)
  | flag (value : Bool)
  | json (value : Json)
  | bag (members : Bag)
  | choice (name : String)
  | list (items : List Datum)
  | table (entries : List (String × Datum))
  | record (members : List (Option Datum))

namespace Datum

def asText : Option Datum → String
  | some (.text value) => value
  | _ => ""

def asText? : Option Datum → Option String
  | some (.text value) => some value
  | _ => none

def asInteger : Option Datum → Int64
  | some (.integer value) => value
  | _ => 0

def asFlag : Option Datum → Bool
  | some (.flag value) => value
  | _ => false

def asBag : Option Datum → Bag
  | some (.bag members) => members
  | _ => []

def asList {α : Type} (item : Datum → α) : Option Datum → List α
  | some (.list items) => items.map item
  | _ => []

def asTexts : Option Datum → List String :=
  asList fun item => asText (some item)

def asTable {α : Type} (item : Datum → α) : Option Datum → KeyMap α
  | some (.table entries) => .ofList (entries.map fun (key, value) => (key, item value))
  | _ => .empty

end Datum

end CatalogSeed
