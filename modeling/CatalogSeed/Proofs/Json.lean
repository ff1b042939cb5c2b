import CatalogSeed.Json.Basic
import CatalogSeed.Proofs.KeyMap

/-!
JSON trees and the trees within them: how deep they nest, and which of them keep their keys apart.
-/

namespace CatalogSeed

namespace Json

/-- What a property holds of if it is handed up from items and member values. -/
@[induction_eliminator]
theorem induct {P : Json → Prop} (null : P .null) (bool : ∀ value, P (.bool value))
    (number : ∀ value, P (.number value)) (string : ∀ value, P (.string value))
    (array : ∀ items, (∀ item ∈ items, P item) → P (.array items))
    (object : ∀ members, (∀ member ∈ members, P member.2) → P (.object members)) :
    ∀ json, P json
  | .null => null
  | .bool value => bool value
  | .number value => number value
  | .string value => string value
  | .array items => array items fun item _ => induct null bool number string array object item
  | .object members =>
      object members fun member _ => induct null bool number string array object member.2
termination_by json => sizeOf json
decreasing_by
  · have smaller := List.sizeOf_lt_of_mem ‹item ∈ items›
    simp only [Json.array.sizeOf_spec]
    omega
  · have smaller := List.sizeOf_lt_of_mem ‹member ∈ members›
    have part : sizeOf member.2 < sizeOf member := by
      cases member
      simp only [Prod.mk.sizeOf_spec]
      omega
    simp only [Json.object.sizeOf_spec]
    omega

/-- The first tree is the second one or stands within it. -/
inductive Within : Json → Json → Prop
  | whole (json : Json) : Within json json
  | item {part item : Json} {items : List Json} (among : item ∈ items) (within : Within part item) :
      Within part (.array items)
  | member {part : Json} {member : String × Json} {members : List (String × Json)}
      (among : member ∈ members) (within : Within part member.2) : Within part (.object members)

theorem within_array {part : Json} {items : List Json} :
    Within part (.array items) ↔ part = .array items ∨ ∃ item ∈ items, Within part item := by
  constructor
  · intro within
    cases within with
    | whole => exact Or.inl rfl
    | item among inside => exact Or.inr ⟨_, among, inside⟩
  · rintro (rfl | ⟨item, among, inside⟩)
    · exact .whole _
    · exact .item among inside

theorem within_object {part : Json} {members : List (String × Json)} :
    Within part (.object members) ↔
      part = .object members ∨ ∃ member ∈ members, Within part member.2 := by
  constructor
  · intro within
    cases within with
    | whole => exact Or.inl rfl
    | member among inside => exact Or.inr ⟨_, among, inside⟩
  · rintro (rfl | ⟨member, among, inside⟩)
    · exact .whole _
    · exact .member among inside

/-- What holds of all trees of a form that no array has, within an array. -/
theorem forall_within_array {ι : Type} {form : ι → Json} {P : ι → Prop} {items : List Json}
    (other : ∀ i, form i ≠ .array items) :
    (∀ i, Within (form i) (.array items) → P i) ↔
      ∀ item ∈ items, ∀ i, Within (form i) item → P i := by
  simp only [within_array, other, false_or]
  exact ⟨fun each item among i inside => each i ⟨item, among, inside⟩,
    fun each i ⟨item, among, inside⟩ => each item among i inside⟩

theorem forall_within_object {ι : Type} {form : ι → Json} {P : ι → Prop}
    {members : List (String × Json)} (other : ∀ i, form i ≠ .object members) :
    (∀ i, Within (form i) (.object members) → P i) ↔
      ∀ member ∈ members, ∀ i, Within (form i) member.2 → P i := by
  simp only [within_object, other, false_or]
  exact ⟨fun each member among i inside => each i ⟨member, among, inside⟩,
    fun each i ⟨member, among, inside⟩ => each member among i inside⟩

/-- No object in it has a key twice. -/
def Tidy (json : Json) : Prop :=
  ∀ members, Within (.object members) json → (members.map Prod.fst).Nodup

@[simp] theorem tidy_null : Json.null.Tidy := nofun

@[simp] theorem tidy_bool (value : Bool) : (Json.bool value).Tidy := nofun

@[simp] theorem tidy_number (value : Number) : (Json.number value).Tidy := nofun

@[simp] theorem tidy_string (value : String) : (Json.string value).Tidy := nofun

@[simp] theorem tidy_array {items : List Json} :
    (Json.array items).Tidy ↔ ∀ item ∈ items, item.Tidy :=
  forall_within_array (by simp)

@[simp] theorem tidy_object {members : List (String × Json)} :
    (Json.object members).Tidy ↔
      (members.map Prod.fst).Nodup ∧ ∀ member ∈ members, member.2.Tidy := by
  simp only [Tidy, within_object, Json.object.injEq]
  constructor
  · exact fun each => ⟨each members (Or.inl rfl),
      fun member among inner inside => each inner (Or.inr ⟨member, among, inside⟩)⟩
  · rintro ⟨distinct, each⟩ inner (rfl | ⟨member, among, inside⟩)
    · exact distinct
    · exact each member among inner inside

/-- It holds no real number. -/
def Unreal (json : Json) : Prop :=
  ∀ x, ¬ Within (.number (.real x)) json

@[simp] theorem unreal_null : Json.null.Unreal := nofun

@[simp] theorem unreal_bool (value : Bool) : (Json.bool value).Unreal := nofun

@[simp] theorem unreal_whole (n : Whole) : (Json.number (.whole n)).Unreal := nofun

@[simp] theorem unreal_string (value : String) : (Json.string value).Unreal := nofun

@[simp] theorem unreal_array {items : List Json} :
    (Json.array items).Unreal ↔ ∀ item ∈ items, item.Unreal :=
  forall_within_array (by simp)

@[simp] theorem unreal_object {members : List (String × Json)} :
    (Json.object members).Unreal ↔ ∀ member ∈ members, member.2.Unreal :=
  forall_within_object (by simp)

theorem asString?_eq_some {json : Json} {text : String} :
    json.asString? = some text ↔ json = .string text := by
  cases json <;> simp [asString?]

theorem unreal_of_asString? {json : Json} (text : json.asString?.isSome) : json.Unreal := by
  cases json with
  | string value => exact unreal_string value
  | _ => contradiction

mutual

/-- How many levels of arrays and objects it nests. -/
def depth : Json → Nat
  | .array items => depthItems items + 1
  | .object members => depthMembers members + 1
  | _ => 0

def depthItems : List Json → Nat
  | [] => 0
  | item :: items => max (depth item) (depthItems items)

def depthMembers : List (String × Json) → Nat
  | [] => 0
  | (_, value) :: members => max (depth value) (depthMembers members)

end

theorem depthItems_le {items : List Json} {bound : Nat} :
    depthItems items ≤ bound ↔ ∀ item ∈ items, item.depth ≤ bound := by
  induction items with
  | nil => simp [depthItems]
  | cons item items ih => rw [depthItems, Nat.max_le, ih, List.forall_mem_cons]

theorem depthMembers_le {members : List (String × Json)} {bound : Nat} :
    depthMembers members ≤ bound ↔ ∀ member ∈ members, member.2.depth ≤ bound := by
  induction members with
  | nil => simp [depthMembers]
  | cons member members ih => rw [depthMembers, Nat.max_le, ih, List.forall_mem_cons]

theorem depth_array_le {items : List Json} {bound : Nat} :
    (Json.array items).depth ≤ bound + 1 ↔ ∀ item ∈ items, item.depth ≤ bound := by
  rw [depth, Nat.add_le_add_iff_right, depthItems_le]

theorem depth_object_le {members : List (String × Json)} {bound : Nat} :
    (Json.object members).depth ≤ bound + 1 ↔ ∀ member ∈ members, member.2.depth ≤ bound := by
  rw [depth, Nat.add_le_add_iff_right, depthMembers_le]

/-! Equality that does not look at the order of members. -/

theorem sameItems_self {items : List Json} (each : ∀ item ∈ items, item.same item = true) :
    sameItems items items = true := by
  induction items with
  | nil => rfl
  | cons item items ih =>
      obtain ⟨first, later⟩ := List.forall_mem_cons.1 each
      simp [sameItems, first, ih later]

theorem sameMembers_self {members part : List (String × Json)}
    (distinct : (members.map Prod.fst).Nodup) (among : part ⊆ members)
    (each : ∀ member ∈ part, member.2.same member.2 = true) :
    sameMembers part members = true := by
  induction part with
  | nil => rfl
  | cons member part ih =>
      obtain ⟨first, later⟩ := List.forall_mem_cons.1 each
      obtain ⟨inside, further⟩ := List.cons_subset.1 among
      rw [sameMembers, KeyMap.lookup_of_mem distinct inside, ih further later]
      simpa using first

theorem same_self {json : Json} (tidy : json.Tidy) : json.same json = true := by
  induction json with
  | number value => cases value <;> simp [same, Number.same]
  | array items ih =>
      exact sameItems_self fun item among => ih item among (tidy_array.1 tidy item among)
  | object members ih =>
      obtain ⟨distinct, each⟩ := tidy_object.1 tidy
      have all := sameMembers_self distinct (List.Subset.refl _) fun member among =>
        ih member among (each member among)
      simp [same, all]
  | _ => simp [same]

end Json

/-! Open objects that are filled key by key. -/

theorem put_new {bag : Bag} {key : String} (fresh : key ∉ bag.map Prod.fst) (value : Json) :
    bag.put key value = bag ++ [(key, value)] := by
  induction bag with
  | nil => rfl
  | cons pair bag ih =>
      obtain ⟨different, later⟩ : key ≠ pair.1 ∧ key ∉ bag.map Prod.fst := by
        simpa using fresh
      simp [Bag.put, Ne.symm different, ih later]

end CatalogSeed
