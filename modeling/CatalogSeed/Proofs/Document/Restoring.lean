import CatalogSeed.Proofs.Document.Named
import CatalogSeed.Proofs.Document.Printing

/-!
Trees that were printed, as they are read again. Nesting that goes too deep is refused, and a real
number may come back as another one; everything else comes back as it was.
-/

namespace CatalogSeed

open Utf8 Document ParseTree

namespace Json

/-- All numbers in it are read as themselves where they are printed. -/
def Stable (json : Json) : Prop :=
  ∀ value, Within (.number value) json → number? (bytes value.text) = some value

theorem stable_of_unreal {json : Json} (unreal : json.Unreal) : json.Stable := by
  intro value within
  cases value with
  | whole n => exact number?_whole n
  | real x => exact (unreal x within).elim

theorem stable_number {value : Number} :
    (Json.number value).Stable ↔ number? (bytes value.text) = some value := by
  constructor
  · exact fun stable => stable value (.whole _)
  · intro same other within
    cases within with
    | whole => exact same

theorem stable_array {items : List Json} :
    (Json.array items).Stable ↔ ∀ item ∈ items, item.Stable :=
  forall_within_array (by simp)

theorem stable_object {members : List (String × Json)} :
    (Json.object members).Stable ↔ ∀ member ∈ members, member.2.Stable :=
  forall_within_object (by simp)

mutual

/-- All numbers of it are read as themselves, as a test. -/
def stable : Json → Bool
  | .number value => decide (number? (bytes value.text) = some value)
  | .array items => stableItems items
  | .object members => stableMembers members
  | _ => true

def stableItems : List Json → Bool
  | [] => true
  | item :: items => stable item && stableItems items

def stableMembers : List (String × Json) → Bool
  | [] => true
  | (_, value) :: members => stable value && stableMembers members

end

theorem stableItems_iff {items : List Json} :
    stableItems items = true ↔ ∀ item ∈ items, item.stable = true := by
  induction items with
  | nil => simp [stableItems]
  | cons item items ih => simp [stableItems, ih]

theorem stableMembers_iff {members : List (String × Json)} :
    stableMembers members = true ↔ ∀ member ∈ members, member.2.stable = true := by
  induction members with
  | nil => simp [stableMembers]
  | cons member members ih => simp [stableMembers, ih]

theorem stable_iff (json : Json) : json.stable = true ↔ json.Stable := by
  induction json with
  | number value => rw [stable, decide_eq_true_eq, stable_number]
  | array items ih =>
      rw [stable, stableItems_iff, stable_array]
      exact forall₂_congr ih
  | object members ih =>
      rw [stable, stableMembers_iff, stable_object]
      exact forall₂_congr ih
  | _ => exact iff_of_true rfl (stable_of_unreal (by simp))

instance (json : Json) : Decidable json.Stable :=
  decidable_of_iff _ (stable_iff json)

/-- It is shallow enough to be read within that many levels, and stable. -/
def Faithful (nesting : Nat) (json : Json) : Prop :=
  json.depth ≤ nesting ∧ json.Stable

instance (nesting : Nat) (json : Json) : Decidable (json.Faithful nesting) :=
  inferInstanceAs (Decidable (_ ∧ _))

theorem faithful_of_unreal {json : Json} (unreal : json.Unreal) {nesting : Nat}
    (shallow : json.depth ≤ nesting) : json.Faithful nesting :=
  ⟨shallow, stable_of_unreal unreal⟩

theorem faithful_array {items : List Json} {nesting : Nat} :
    (Json.array items).Faithful (nesting + 1) ↔ ∀ item ∈ items, item.Faithful nesting := by
  simp only [Faithful, depth_array_le, stable_array, imp_and, forall_and]

theorem faithful_object {members : List (String × Json)} {nesting : Nat} :
    (Json.object members).Faithful (nesting + 1) ↔
      ∀ member ∈ members, member.2.Faithful nesting := by
  simp only [Faithful, depth_object_le, stable_object, imp_and, forall_and]

end Json

variable {α β γ : Type}

/-- A list comes back from going through it exactly if each of its items does. -/
theorem mapM_eq_self {f : α → Option α} {items : List α} :
    items.mapM f = some items ↔ ∀ item ∈ items, f item = some item := by
  induction items with
  | nil => simp
  | cons item items ih =>
      simp only [List.mapM_cons, List.forall_mem_cons, ← ih]
      cases f item with
      | none => simp
      | some found => cases items.mapM f <;> simp

theorem mapM_eq_none {f : α → Option β} {items : List α} {item : α} (among : item ∈ items)
    (nothing : f item = none) : items.mapM f = none := by
  induction items with
  | nil => contradiction
  | cons other items ih =>
      rw [List.mapM_cons]
      rcases List.mem_cons.1 among with rfl | later
      · simp [nothing]
      · cases f other <;> simp [ih later]

theorem mapM_map_some (f : α → Option β) (change : β → γ) (items : List α) :
    (items.mapM f).map (List.map change) = items.mapM fun item => (f item).map change := by
  induction items with
  | nil => rfl
  | cons item items ih =>
      rw [List.mapM_cons, List.mapM_cons, ← ih]
      cases f item with
      | none => rfl
      | some found => cases items.mapM f <;> rfl

theorem mapM_congr {f g : α → Option β} {items : List α}
    (same : ∀ item ∈ items, f item = g item) : items.mapM f = items.mapM g := by
  induction items with
  | nil => rfl
  | cons item items ih =>
      rw [List.mapM_cons, List.mapM_cons, same item List.mem_cons_self,
        ih fun item among => same item (List.mem_cons_of_mem _ among)]

theorem foldMembers_cons {σ : Type} (step : σ → String → ParseTree → Option σ) (start : σ)
    (key : String) (value : Json) (members : Bag) :
    foldMembers step start (Json.memberTrees ((key, value) :: members)) =
      (step start key value.tree).bind fun next =>
        foldMembers step next (Json.memberTrees members) := by
  simp [foldMembers, Json.memberTrees, Json.text?_written]

namespace Json

theorem textual_memberTrees (members : Bag) : Textual (memberTrees members) := by
  rw [memberTrees_eq_map]
  exact List.forall_mem_map.2 fun member _ => by simp [text?_written]

theorem named_memberTrees (members : Bag) :
    named (memberTrees members) = members.map fun member => (member.1, member.2.tree) := by
  induction members with
  | nil => rfl
  | cons member members ih => rw [memberTrees, named_cons (text?_written _), ih, List.map_cons]

/-- What is read for a printed object, if its keys are different. -/
theorem json?_members {members : Bag} (distinct : (members.map Prod.fst).Nodup) (nesting : Nat) :
    foldMembers (putMember (json? nesting)) [] (memberTrees members) =
      members.mapM fun member =>
        (member.2.tree.json? nesting).map fun found => (member.1, found) := by
  have keys : ((named (memberTrees members)).map Prod.fst).Nodup := by
    simpa [named_memberTrees, Function.comp_def] using distinct
  rw [foldMembers_put _ (textual_memberTrees members) keys, named_memberTrees, mapEntries,
    List.mapM_map]
  rfl

/-- A printed tree is read back as itself exactly if it is faithful. -/
theorem json?_tree_iff {json : Json} (tidy : json.Tidy) (nesting : Nat) :
    json.tree.json? nesting = some json ↔ json.Faithful nesting := by
  induction json generalizing nesting with
  | null => simp [tree, json?, Faithful, depth, @stable_of_unreal .null]
  | bool value => simp [tree, json?, Faithful, depth, @stable_of_unreal (.bool value)]
  | number value => simp [tree, json?, Faithful, depth, stable_number]
  | string value =>
      simp [tree, json?, Faithful, depth, text?_written, @stable_of_unreal (.string value)]
  | array items ih =>
      cases nesting with
      | zero => simp [tree, json?, Faithful, depth]
      | succ nesting =>
          rw [faithful_array]
          simp only [tree, json?, itemTrees_eq_map, List.mapM_map, Option.map_eq_some_iff,
            Json.array.injEq, exists_eq_right, mapM_eq_self]
          exact forall₂_congr fun item among => ih item among (tidy_array.1 tidy item among) nesting
  | object members ih =>
      cases nesting with
      | zero => simp [tree, json?, Faithful, depth]
      | succ nesting =>
          obtain ⟨distinct, each⟩ := tidy_object.1 tidy
          rw [faithful_object]
          simp only [tree, json?, json?_members distinct, Option.map_eq_some_iff,
            Json.object.injEq, exists_eq_right, mapM_eq_self, Prod.ext_iff, true_and]
          exact forall₂_congr fun member among => ih member among (each member among) nesting

/-- A printed tree that nests too deep is refused. -/
theorem json?_tree_deep {json : Json} (tidy : json.Tidy) {nesting : Nat}
    (deep : nesting < json.depth) : json.tree.json? nesting = none := by
  induction json generalizing nesting with
  | array items ih =>
      cases nesting with
      | zero => rfl
      | succ nesting =>
          rw [← Nat.not_le, depth_array_le] at deep
          simp only [Classical.not_forall, Nat.not_le] at deep
          obtain ⟨item, among, deeper⟩ := deep
          have refused := ih item among (tidy_array.1 tidy item among) deeper
          simp only [tree, json?, itemTrees_eq_map, List.mapM_map]
          rw [mapM_eq_none among refused, Option.map_none]
  | object members ih =>
      cases nesting with
      | zero => rfl
      | succ nesting =>
          rw [← Nat.not_le, depth_object_le] at deep
          simp only [Classical.not_forall, Nat.not_le] at deep
          obtain ⟨member, among, deeper⟩ := deep
          have refused := ih member among ((tidy_object.1 tidy).2 member among) deeper
          simp only [tree, json?, json?_members (tidy_object.1 tidy).1]
          rw [mapM_eq_none among (by simp [refused]), Option.map_none]
  | _ => contradiction

/-! A tree that comes back the same, whatever the order of its members, comes back as it was. -/

theorem number?_zero (negative : Bool) :
    number? (bytes (Number.text (.real ⟨negative, 0⟩))) = some (.real ⟨negative, 0⟩) := by
  cases negative <;> decide +kernel

theorem number_eq_of_same {value found : Number}
    (restored : number? (bytes value.text) = some found) (same : found.same value = true) :
    found = value := by
  cases value with
  | whole n => simpa [number?_whole, eq_comm] using restored
  | real x =>
      cases found with
      | whole n => simp [Number.same] at same
      | real y =>
          obtain rfl | ⟨_, zero⟩ : y = x ∨ y.units = 0 ∧ x.units = 0 := by
            simpa [Number.same] using same
          · rfl
          · obtain ⟨negative, units⟩ := x
            obtain rfl : units = 0 := zero
            simpa [number?_zero, eq_comm] using restored

theorem items_eq_of_same {f : Json → Option Json} {items founds : List Json}
    (each : ∀ item ∈ items, ∀ found, f item = some found → found.same item = true → found = item)
    (restored : items.mapM f = some founds) (same : sameItems founds items = true) :
    founds = items := by
  induction items generalizing founds with
  | nil => simpa [eq_comm] using restored
  | cons item items ih =>
      obtain ⟨first, later⟩ := List.forall_mem_cons.1 each
      simp only [List.mapM_cons, Option.bind_eq_bind, Option.bind_eq_some_iff, Option.pure_def,
        Option.some.injEq] at restored
      obtain ⟨found, read, others, onwards, rfl⟩ := restored
      obtain ⟨left, right⟩ : found.same item = true ∧ sameItems others items = true := by
        simpa [sameItems] using same
      rw [first found read left, ih later onwards right]

theorem members_eq_of_same {f : Json → Option Json} {members part founds : Bag}
    (distinct : (members.map Prod.fst).Nodup) (among : part ⊆ members)
    (each : ∀ member ∈ part, ∀ found, f member.2 = some found →
      found.same member.2 = true → found = member.2)
    (restored : (part.mapM fun member => (f member.2).map fun found => (member.1, found)) =
      some founds)
    (same : sameMembers founds members = true) : founds = part := by
  -- Only the part gets shorter: what is found is always looked up among all members.
  induction part generalizing founds with
  | nil => simpa [eq_comm] using restored
  | cons member part ih =>
      obtain ⟨first, later⟩ := List.forall_mem_cons.1 each
      obtain ⟨inside, further⟩ := List.cons_subset.1 among
      simp only [List.mapM_cons, Option.bind_eq_bind, Option.bind_eq_some_iff, Option.pure_def,
        Option.some.injEq, Option.map_eq_some_iff] at restored
      obtain ⟨_, ⟨found, read, rfl⟩, others, onwards, rfl⟩ := restored
      rw [sameMembers, KeyMap.lookup_of_mem distinct inside, Bool.and_eq_true] at same
      rw [first found read same.1, ih further later onwards same.2]

theorem eq_of_same {json found : Json} (tidy : json.Tidy) {nesting : Nat}
    (restored : json.tree.json? nesting = some found) (same : found.same json = true) :
    found = json := by
  induction json generalizing nesting found with
  | null => simpa [tree, json?, eq_comm] using restored
  | bool value => simpa [tree, json?, eq_comm] using restored
  | number value =>
      simp only [tree, json?, Option.map_eq_some_iff] at restored
      obtain ⟨other, read, rfl⟩ := restored
      rw [Json.same] at same
      rw [number_eq_of_same read same]
  | string value => simpa [tree, json?, text?_written, eq_comm] using restored
  | array items ih =>
      cases nesting with
      | zero => contradiction
      | succ nesting =>
          simp only [tree, json?, itemTrees_eq_map, List.mapM_map, Option.map_eq_some_iff]
            at restored
          obtain ⟨founds, read, rfl⟩ := restored
          have each := tidy_array.1 tidy
          rw [items_eq_of_same (fun item among found read same => ih item among (each item among)
            read same) read same]
  | object members ih =>
      cases nesting with
      | zero => contradiction
      | succ nesting =>
          obtain ⟨distinct, each⟩ := tidy_object.1 tidy
          simp only [tree, json?, json?_members distinct, Option.map_eq_some_iff] at restored
          obtain ⟨founds, read, rfl⟩ := restored
          rw [Json.same, Bool.and_eq_true] at same
          have kept := @members_eq_of_same (fun value => value.tree.json? nesting) members members
            founds distinct (List.Subset.refl _)
            (fun member among found read same => ih member among (each member among) read same)
          rw [kept read same.2]

end Json

end CatalogSeed
