import CatalogSeed.Document.Reading
import CatalogSeed.Proofs.Document.Token

/-!
Documents as trees of what is written in them, strings and numbers with their own bytes, and the
texts that spell such a tree with blanks between its parts.
-/

namespace CatalogSeed.Document

inductive ParseTree
  | null
  | bool (value : Bool)
  | number (written : List UInt8)
  | string (written : List UInt8)
  | array (items : List ParseTree)
  | object (members : List (List UInt8 × ParseTree))

namespace ParseTree

/-- What a property holds of if it is handed up from items and member values. -/
@[induction_eliminator]
theorem induct {P : ParseTree → Prop} (null : P .null) (bool : ∀ value, P (.bool value))
    (number : ∀ written, P (.number written)) (string : ∀ written, P (.string written))
    (array : ∀ items, (∀ item ∈ items, P item) → P (.array items))
    (object : ∀ members, (∀ member ∈ members, P member.2) → P (.object members)) :
    ∀ tree, P tree
  | .null => null
  | .bool value => bool value
  | .number written => number written
  | .string written => string written
  | .array items =>
      array items fun item _ => induct null bool number string array object item
  | .object members =>
      object members fun member _ => induct null bool number string array object member.2
termination_by tree => sizeOf tree
decreasing_by
  · have smaller := List.sizeOf_lt_of_mem ‹item ∈ items›
    simp only [ParseTree.array.sizeOf_spec]
    omega
  · have smaller := List.sizeOf_lt_of_mem ‹member ∈ members›
    have part : sizeOf member.2 < sizeOf member := by
      cases member
      simp only [Prod.mk.sizeOf_spec]
      omega
    simp only [ParseTree.object.sizeOf_spec]
    omega

/-- The bytes before an item or a member: a comma parts it from the one before. -/
def Leads (first : Bool) (lead : List UInt8) : Prop :=
  if first then Blank lead
  else ∃ before behind, Blank before ∧ Blank behind ∧ lead = before ++ 0x2C :: behind

mutual

/-- The texts of a tree, without blanks at their ends. -/
def Spells : ParseTree → List UInt8 → Prop
  | .null, text => text = 0x6E :: wordNull
  | .bool value, text => text = if value then 0x74 :: wordTrue else 0x66 :: wordFalse
  | .number written, text => (numeral? written).isSome ∧ text = written
  | .string written, text => Content written ∧ text = 0x22 :: (written ++ [0x22])
  | .array items, text => ∃ body, SpellsItems true items body ∧ text = 0x5B :: body
  | .object members, text => ∃ body, SpellsMembers true members body ∧ text = 0x7B :: body

/-- The texts of the items that are left, with the closing bracket. -/
def SpellsItems (first : Bool) : List ParseTree → List UInt8 → Prop
  | [], text => ∃ gap, Blank gap ∧ text = gap ++ [0x5D]
  | item :: items, text => ∃ lead written later, Leads first lead ∧ item.Spells written ∧
      SpellsItems false items later ∧ text = lead ++ (written ++ later)

/-- The texts of the members that are left, with the closing brace. -/
def SpellsMembers (first : Bool) : List (List UInt8 × ParseTree) → List UInt8 → Prop
  | [], text => ∃ gap, Blank gap ∧ text = gap ++ [0x7D]
  | (key, value) :: members, text => ∃ lead before behind written later,
      Leads first lead ∧ Content key ∧ Blank before ∧ Blank behind ∧ value.Spells written ∧
      SpellsMembers false members later ∧
      text = lead ++ 0x22 :: (key ++ 0x22 :: (before ++ 0x3A :: (behind ++ (written ++ later))))

end

/-- The documents of a tree: its texts between blanks. -/
def SpellsDocument (tree : ParseTree) (document : List UInt8) : Prop :=
  ∃ before text behind, Blank before ∧ tree.Spells text ∧ Blank behind ∧
    document = before ++ (text ++ behind)

/-- The first byte of a value tells it from blanks and from closing brackets. -/
theorem Spells.head {tree : ParseTree} {text : List UInt8} (spells : tree.Spells text) :
    ∃ b later, text = b :: later ∧ isBlank b = false ∧ b ≠ 0x5D ∧ b ≠ 0x7D ∧
      (b = 0x6E ↔ tree = .null) := by
  cases tree with
  | null => exact ⟨_, _, spells, by decide, by decide, by decide, by simp⟩
  | bool value =>
      cases value with
      | true => exact ⟨_, _, spells, by decide, by decide, by decide, by simp⟩
      | false => exact ⟨_, _, spells, by decide, by decide, by decide, by simp⟩
  | number written =>
      obtain ⟨valid, rfl⟩ := spells
      obtain ⟨b, bytes, rfl, ⟨rfl, _⟩ | ⟨digit, _⟩⟩ := number_written valid
      · exact ⟨_, _, rfl, by decide, by decide, by decide, by simp⟩
      · refine ⟨b, bytes, rfl, ?_⟩
        have visible := visible_of_isDigit digit
        exact ⟨visible.1, visible.2.1, visible.2.2.1, by simpa using visible.2.2.2.1⟩
  | string written =>
      obtain ⟨_, rfl⟩ := spells
      exact ⟨_, _, rfl, by decide, by decide, by decide, by simp⟩
  | array items =>
      obtain ⟨body, _, rfl⟩ := spells
      exact ⟨_, _, rfl, by decide, by decide, by decide, by simp⟩
  | object members =>
      obtain ⟨body, _, rfl⟩ := spells
      exact ⟨_, _, rfl, by decide, by decide, by decide, by simp⟩

theorem Leads.ends_append {lead rest : List UInt8} (leads : Leads false lead) :
    Ends (lead ++ rest) := by
  obtain ⟨before, behind, blank, _, rfl⟩ := leads
  rw [List.append_assoc]
  exact Ends.blank_append blank (ends_cons (Or.inr (Or.inl rfl)))

theorem SpellsItems.ends {items : List ParseTree} {text rest : List UInt8}
    (spells : SpellsItems false items text) : Ends (text ++ rest) := by
  cases items with
  | nil =>
      obtain ⟨gap, blank, rfl⟩ := spells
      rw [List.append_assoc]
      exact Ends.blank_append blank (ends_cons (Or.inr (Or.inr (Or.inl rfl))))
  | cons item items =>
      obtain ⟨lead, written, later, leads, _, _, rfl⟩ := spells
      rw [List.append_assoc]
      exact leads.ends_append

theorem SpellsMembers.ends {members : List (List UInt8 × ParseTree)} {text rest : List UInt8}
    (spells : SpellsMembers false members text) : Ends (text ++ rest) := by
  cases members with
  | nil =>
      obtain ⟨gap, blank, rfl⟩ := spells
      rw [List.append_assoc]
      exact Ends.blank_append blank (ends_cons (Or.inr (Or.inr (Or.inr rfl))))
  | cons member members =>
      obtain ⟨lead, before, behind, written, later, leads, _, _, _, _, _, rfl⟩ := spells
      rw [List.append_assoc]
      exact leads.ends_append

theorem SpellsItems.length_lt {first : Bool} {items : List ParseTree} {text : List UInt8}
    (spells : SpellsItems first items text) : items.length < text.length := by
  induction items generalizing first text with
  | nil =>
      obtain ⟨gap, _, rfl⟩ := spells
      simp
  | cons item items ih =>
      obtain ⟨lead, written, later, _, spelled, further, rfl⟩ := spells
      obtain ⟨b, bytes, rfl, _⟩ := spelled.head
      have shorter := ih further
      simp only [List.length_append, List.length_cons]
      omega

theorem SpellsMembers.length_lt {first : Bool} {members : List (List UInt8 × ParseTree)}
    {text : List UInt8} (spells : SpellsMembers first members text) :
    members.length < text.length := by
  induction members generalizing first text with
  | nil =>
      obtain ⟨gap, _, rfl⟩ := spells
      simp
  | cons member members ih =>
      obtain ⟨lead, before, behind, written, later, _, _, _, _, _, further, rfl⟩ := spells
      have shorter := ih further
      simp only [List.length_append, List.length_cons]
      omega

/-! What a tree stands for. -/

/-- Goes through members whose keys are texts. -/
def foldMembers {σ : Type} (step : σ → String → ParseTree → Option σ) (start : σ)
    (members : List (List UInt8 × ParseTree)) : Option σ :=
  members.foldlM (fun state member =>
    (text? member.1).bind fun key => step state key member.2) start

def putMember (value : ParseTree → Option Json) (bag : Bag) (key : String) (tree : ParseTree) :
    Option Bag :=
  (value tree).map (bag.put key)

/-- The value a tree stands for, if `nesting` levels of arrays and objects hold it. -/
def json? : Nat → ParseTree → Option Json
  | _, .null => some .null
  | _, .bool value => some (.bool value)
  | _, .number written => (number? written).map .number
  | _, .string written => (text? written).map .string
  | 0, .array _ => none
  | 0, .object _ => none
  | nesting + 1, .array items => (items.mapM (json? nesting)).map .array
  | nesting + 1, .object members =>
      (foldMembers (putMember (json? nesting)) [] members).map .object

/-- The integer that a number is, unless it has too many bits or is a real one. -/
def integer? : Number → Option Int64
  | .whole value => value.toInt64?
  | .real _ => none

def name? (known : List String) (written : List UInt8) : Option String :=
  (text? written).bind fun name => if name ∈ known then some name else none

def scalar? : Kind → ParseTree → Option Datum
  | .text, .string written => (text? written).map .text
  | .flag, .bool value => some (.flag value)
  | .integer, .number written => ((number? written).bind integer?).map .integer
  | .choice known, .string written => (name? known written).map .choice
  | _, _ => none

/-- What stands for a member: a null for none where it may. -/
def memberDatum? (datum : Kind → ParseTree → Option Datum) (member : Member Kind) :
    ParseTree → Option (Option Datum)
  | .null => if member.presence = .lenient then some none else (datum member.kind .null).map some
  | tree => (datum member.kind tree).map some

/-- Takes up a member of a record: a known one once, any other never. -/
def gather (datum : Kind → ParseTree → Option Datum) (known : List (Member Kind))
    (gathered : Gathered) (key : String) (tree : ParseTree) : Option Gathered :=
  match known.find? (·.key = key) with
  | none => some gathered
  | some member =>
      if (gathered.lookup key).isSome then none
      else (memberDatum? datum member tree).map fun found => (key, found) :: gathered

/-- The members of a record that is written as an array. -/
def positional? (datum : Kind → ParseTree → Option Datum) :
    List (Member Kind) → List ParseTree → Option (List (Option Datum))
  | [], [] => some []
  | [], _ :: _ => none
  | member :: known, [] =>
      if (member :: known).any (·.presence = .required) then none
      else some ((member :: known).map fun _ => none)
  | member :: known, item :: items => do
      let found ← memberDatum? datum member item
      let later ← positional? datum known items
      some (found :: later)

/-- The name that is the only key of an object, if its value is a null. -/
def nameObject? (known : List String) : List (List UInt8 × ParseTree) → Option String
  | [(key, .null)] => name? known key
  | _ => none

def bracketed? (datum : Kind → ParseTree → Option Datum) (json : ParseTree → Option Json) :
    Kind → ParseTree → Option Datum
  | .list item, .array items => (items.mapM (datum item)).map .list
  | .table item, .object members =>
      (foldMembers (fun entries key tree =>
        (datum item tree).map fun found => entries ++ [(key, found)]) [] members).map .table
  | .bag, .object members => (foldMembers (putMember json) [] members).map .bag
  | .record _ known, .array items => (positional? datum known items).map .record
  | .record _ known, .object members =>
      (foldMembers (gather datum known) [] members).bind fun gathered =>
        (arrange known gathered).toOption.map .record
  | .choice known, .object members => (nameObject? known members).map .choice
  | kind, tree => scalar? kind tree

/-- The datum of a kind that a tree stands for, if `nesting` levels of arrays and objects hold
it. -/
def datum? : Nat → Kind → ParseTree → Option Datum
  | nesting, .json, tree => (json? nesting tree).map .json
  | 0, kind, tree => scalar? kind tree
  | nesting + 1, kind, tree => bracketed? (datum? nesting) (json? nesting) kind tree

theorem datum?_succ {kind : Kind} (other : kind ≠ .json) (nesting : Nat) (tree : ParseTree) :
    datum? (nesting + 1) kind tree =
      bracketed? (datum? nesting) (json? nesting) kind tree := by
  cases kind with
  | json => contradiction
  | _ => rfl

end ParseTree

end CatalogSeed.Document
