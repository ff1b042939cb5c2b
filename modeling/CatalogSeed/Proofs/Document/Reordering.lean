import CatalogSeed.Proofs.Document.Conforming
import CatalogSeed.Proofs.Document.Restoring
import Mathlib.Data.List.Forall2

/-!
Trees that differ in the order of members and in the escapes of their strings. Under every key
they hold the same.
-/

namespace CatalogSeed.Document

/-- Where a tree stands in that of a catalog, as far as the order of members goes: it counts at and
below the resources of an entry. -/
inductive Place
  | catalog
  | registry
  | entry
  | resources
  | elsewhere
  deriving DecidableEq

namespace Place

/-- Where the value under a key stands. -/
def member : Place → Option String → Place
  | .catalog, key => if key = some "registry" then .registry else .elsewhere
  | .registry, _ => .entry
  | .entry, key => if key = some "resources" then .resources else .elsewhere
  | .resources, _ => .resources
  | .elsewhere, _ => .elsewhere

/-- Where an element of an array stands: catalogs and entries may be written as arrays. -/
def item : Place → Nat → Place
  | .catalog, index => if index = 2 then .registry else .elsewhere
  | .entry, index => if index = 13 then .resources else .elsewhere
  | .resources, _ => .resources
  | .registry, _ | .elsewhere, _ => .elsewhere

end Place

namespace ParseTree

mutual

/-- The second tree is the first one with its members in any order, except where order counts.
Strings and keys are the same texts. -/
def Reordered (place : Place) : ParseTree → ParseTree → Prop
  | .null, other => other = .null
  | .bool value, other => other = .bool value
  | .number written, other => other = .number written
  | .string written, other => ∃ again, text? written = text? again ∧ other = .string again
  | .array items, other => ∃ others, ReorderedItems place 0 items others ∧ other = .array others
  | .object members, other => ∃ aligned others, ReorderedMembers place members aligned ∧
      aligned.Perm others ∧ (place = .resources → aligned = others) ∧ other = .object others

/-- The same of the items from an index on. -/
def ReorderedItems (place : Place) (index : Nat) : List ParseTree → List ParseTree → Prop
  | [], others => others = []
  | item :: items, others => ∃ other later, Reordered (place.item index) item other ∧
      ReorderedItems place (index + 1) items later ∧ others = other :: later

/-- The same of members that are in one order. -/
def ReorderedMembers (place : Place) :
    List (List UInt8 × ParseTree) → List (List UInt8 × ParseTree) → Prop
  | [], others => others = []
  | (key, value) :: members, others => ∃ again other later, text? key = text? again ∧
      Reordered (place.member (text? key)) value other ∧
      ReorderedMembers place members later ∧ others = (again, other) :: later

end

/-- A tree is its own reordering. -/
theorem Reordered.refl (place : Place) (tree : ParseTree) : tree.Reordered place tree := by
  induction tree generalizing place with
  | null => rfl
  | bool value => rfl
  | number written => rfl
  | string written => exact ⟨written, rfl, rfl⟩
  | array items ih =>
      have each (index : Nat) : ReorderedItems place index items items := by
        induction items generalizing index with
        | nil => rfl
        | cons item items further =>
            obtain ⟨here, later⟩ := List.forall_mem_cons.1 ih
            exact ⟨item, items, here _, further later _, rfl⟩
      exact ⟨items, each 0, rfl⟩
  | object members ih =>
      have each : ReorderedMembers place members members := by
        induction members with
        | nil => rfl
        | cons member members further =>
            obtain ⟨here, later⟩ := List.forall_mem_cons.1 ih
            exact ⟨member.1, member.2, members, rfl, here _, further later, rfl⟩
      exact ⟨members, members, each, .refl _, fun _ => rfl, rfl⟩

/-- No object in it has two members under one text. -/
inductive Distinct : ParseTree → Prop
  | null : Distinct .null
  | bool (value : Bool) : Distinct (.bool value)
  | number (written : List UInt8) : Distinct (.number written)
  | string (written : List UInt8) : Distinct (.string written)
  | array {items : List ParseTree} (each : ∀ item ∈ items, Distinct item) :
      Distinct (.array items)
  | object {members : List (List UInt8 × ParseTree)}
      (keys : ((named members).map Prod.fst).Nodup)
      (each : ∀ member ∈ members, Distinct member.2) : Distinct (.object members)

theorem distinct_tree {json : Json} (tidy : json.Tidy) : json.tree.Distinct := by
  induction json with
  | array items ih =>
      refine .array fun item among => ?_
      rw [Json.itemTrees_eq_map] at among
      obtain ⟨source, inside, rfl⟩ := List.mem_map.1 among
      exact ih source inside (Json.tidy_array.1 tidy source inside)
  | object members ih =>
      obtain ⟨keys, each⟩ := Json.tidy_object.1 tidy
      refine .object ?_ fun member among => ?_
      · simpa [Json.named_memberTrees, Function.comp_def] using keys
      · rw [Json.memberTrees_eq_map] at among
        obtain ⟨source, inside, rfl⟩ := List.mem_map.1 among
        exact ih source inside (each source inside)
  | null => exact .null
  | bool value => exact .bool value
  | number value => exact .number _
  | string value => exact .string _

theorem rel_eq {α : Type} {left right : Option α} : Option.Rel Eq left right ↔ left = right := by
  constructor
  · rintro (same | _)
    · rw [same]
    · rfl
  · rintro rfl
    cases left with
    | none => exact .none
    | some value => exact .some rfl

theorem map_eq_of_rel {α β γ : Type} {R : α → β → Prop} {left : Option α} {right : Option β}
    (related : Option.Rel R left right) {change : α → γ} {other : β → γ}
    (each : ∀ first second, R first second → change first = other second) :
    left.map change = right.map other := by
  rcases related with both | _
  · exact congrArg some (each _ _ both)
  · rfl

/-- Two lists of entries without repeated keys that have related values under every key. -/
structure Matching {α β : Type} (R : String → α → β → Prop) (left : List (String × α))
    (right : List (String × β)) : Prop where
  left_distinct : (left.map Prod.fst).Nodup
  right_distinct : (right.map Prod.fst).Nodup
  related : ∀ key, Option.Rel (R key) (left.lookup key) (right.lookup key)

variable {place : Place} {members others : List (List UInt8 × ParseTree)}

theorem ReorderedMembers.textual (aligned : ReorderedMembers place members others) :
    Textual members ↔ Textual others := by
  induction members generalizing others with
  | nil =>
      obtain rfl : others = [] := aligned
      rfl
  | cons member members ih =>
      obtain ⟨again, other, later, same, _, further, rfl⟩ := aligned
      simp only [Textual, List.forall_mem_cons, same]
      exact and_congr_right fun _ => ih further

theorem ReorderedMembers.keys (aligned : ReorderedMembers place members others) :
    (named members).map Prod.fst = (named others).map Prod.fst := by
  induction members generalizing others with
  | nil =>
      obtain rfl : others = [] := aligned
      rfl
  | cons member members ih =>
      obtain ⟨again, other, later, same, _, further, rfl⟩ := aligned
      have rest := ih further
      cases text : text? member.1 with
      | none => simpa [named, text, ← same] using rest
      | some key => simpa [named, text, ← same] using rest

theorem ReorderedMembers.related (aligned : ReorderedMembers place members others)
    (key : String) :
    Option.Rel (Reordered (place.member (some key))) ((named members).lookup key)
      ((named others).lookup key) := by
  induction members generalizing others with
  | nil =>
      obtain rfl : others = [] := aligned
      exact .none
  | cons member members ih =>
      obtain ⟨written, tree⟩ := member
      obtain ⟨again, other, later, same, alike, further, rfl⟩ := aligned
      have rest := ih further
      cases text : text? written with
      | none => simpa [named, text, ← same] using rest
      | some first =>
          rw [named_cons text, named_cons (same.symm.trans text), KeyMap.lookup_cons_eq,
            KeyMap.lookup_cons_eq]
          split
          next found =>
            subst found
            rw [text] at alike
            exact .some alike
          next => exact rest

theorem Matching.of_reordered (keys : ((named members).map Prod.fst).Nodup)
    {aligned : List (List UInt8 × ParseTree)} (first : ReorderedMembers place members aligned)
    (same : aligned.Perm others) :
    Matching (fun key => Reordered (place.member (some key))) (named members) (named others) := by
  have alignedKeys : ((named aligned).map Prod.fst).Nodup := first.keys ▸ keys
  have moved : (named aligned).Perm (named others) := same.filterMap _
  refine ⟨keys, (moved.map Prod.fst).nodup_iff.1 alignedKeys, fun key => ?_⟩
  rw [← KeyMap.lookup_perm alignedKeys moved key]
  exact first.related key

theorem Textual.of_reordered (textual : Textual members)
    {aligned : List (List UInt8 × ParseTree)} (first : ReorderedMembers place members aligned)
    (same : aligned.Perm others) : Textual others :=
  fun member among => first.textual.1 textual member (same.mem_iff.2 among)

theorem Matching.lookups {α β : Type} {R : String → α → β → Prop} {left : List (String × α)}
    {right : List (String × β)} (matching : Matching R left right) (key : String) :
    (left.lookup key = none ∧ right.lookup key = none) ∨
      ∃ value other, left.lookup key = some value ∧ right.lookup key = some other ∧
        R key value other := by
  have related := matching.related key
  generalize left.lookup key = first at related ⊢
  generalize right.lookup key = second at related ⊢
  cases related with
  | none => exact Or.inl ⟨rfl, rfl⟩
  | some both => exact Or.inr ⟨_, _, rfl, rfl, both⟩

/-- Entries that match are read as entries that match. -/
theorem Matching.mapEntries {α β : Type} {f : String → α → Option β}
    {S : String → α → α → Prop} {R : String → β → β → Prop}
    {left right : List (String × α)} (matching : Matching S left right)
    (carried : ∀ key value other read, (key, value) ∈ left → S key value other →
      f key value = some read → ∃ again, f key other = some again ∧ R key read again)
    {read : List (String × β)} (outcome : mapEntries f left = some read) :
    ∃ again, mapEntries f right = some again ∧ Matching R read again := by
  have each := (isSome_mapEntries matching.left_distinct).1 (Option.isSome_of_eq_some outcome)
  have taken : (ParseTree.mapEntries f right).isSome := by
    refine (isSome_mapEntries matching.right_distinct).2 fun key other found => ?_
    rcases matching.lookups key with ⟨_, missing⟩ | ⟨value, again, there, same, both⟩
    · simp [missing] at found
    · obtain rfl : again = other := Option.some.inj (same.symm.trans found)
      obtain ⟨first, firstRead⟩ := Option.isSome_iff_exists.1 (each key value there)
      obtain ⟨second, secondRead, _⟩ :=
        carried key value again first (KeyMap.mem_of_lookup there) both firstRead
      exact Option.isSome_of_eq_some secondRead
  obtain ⟨again, outcomeToo⟩ := Option.isSome_iff_exists.1 taken
  refine ⟨again, outcomeToo, ?_, ?_, fun key => ?_⟩
  · rw [keys_of_mapEntries outcome]
    exact matching.left_distinct
  · rw [keys_of_mapEntries outcomeToo]
    exact matching.right_distinct
  · rw [lookup_of_mapEntries outcome, lookup_of_mapEntries outcomeToo]
    rcases matching.lookups key with ⟨missing, missingToo⟩ | ⟨value, other, there, same, both⟩
    · rw [missing, missingToo]
      exact .none
    · obtain ⟨first, firstRead⟩ := Option.isSome_iff_exists.1 (each key value there)
      obtain ⟨second, secondRead, alike⟩ :=
        carried key value other first (KeyMap.mem_of_lookup there) both firstRead
      simp only [there, same, Option.bind_some, firstRead, secondRead]
      exact .some alike

theorem mapEntries_reordered {α : Type} {f : String → ParseTree → Option α}
    {R : String → α → α → Prop} (keys : ((named members).map Prod.fst).Nodup)
    {aligned : List (List UInt8 × ParseTree)} (first : ReorderedMembers place members aligned)
    (moved : aligned.Perm others)
    (carried : ∀ member ∈ members, ∀ key other read,
      Reordered (place.member (some key)) member.2 other → f key member.2 = some read →
        ∃ again, f key other = some again ∧ R key read again)
    {read : List (String × α)} (outcome : mapEntries f (named members) = some read) :
    ∃ again, mapEntries f (named others) = some again ∧ Matching R read again := by
  refine (Matching.of_reordered keys first moved).mapEntries ?_ outcome
  intro key value other read among alike taken
  obtain ⟨member, inside, _, rfl⟩ := mem_named.1 among
  exact carried member inside key other read alike taken

/-- Items are read as items that are related one by one. -/
theorem ReorderedItems.mapM {α : Type} {f : ParseTree → Option α} {R : α → α → Prop}
    {items others : List ParseTree} {index : Nat}
    (reordered : ReorderedItems place index items others)
    (carried : ∀ item ∈ items, ∀ index other read, Reordered (place.item index) item other →
      f item = some read → ∃ again, f other = some again ∧ R read again)
    {read : List α} (outcome : items.mapM f = some read) :
    ∃ again, others.mapM f = some again ∧ List.Forall₂ R read again := by
  induction items generalizing others index read with
  | nil =>
      obtain rfl : others = [] := reordered
      obtain rfl : [] = read := Option.some.inj outcome
      exact ⟨[], rfl, .nil⟩
  | cons item items ih =>
      obtain ⟨other, later, first, further, rfl⟩ := reordered
      obtain ⟨here, elsewhere⟩ := List.forall_mem_cons.1 carried
      simp only [List.mapM_cons, Option.bind_eq_bind, Option.bind_eq_some_iff,
        Option.pure_def, Option.some.injEq] at outcome
      obtain ⟨value, taken, values, rest, rfl⟩ := outcome
      obtain ⟨again, takenToo, both⟩ := here index other value first taken
      obtain ⟨agains, restToo, all⟩ := ih further elsewhere rest
      exact ⟨again :: agains, by simp [takenToo, restToo], .cons both all⟩

theorem ReorderedMembers.fold {σ : Type} {step : σ → String → ParseTree → Option σ}
    (aligned : ReorderedMembers place members others)
    (carried : ∀ member ∈ members, ∀ key state next other,
      Reordered (place.member (some key)) member.2 other → step state key member.2 = some next →
        step state key other = some next)
    {start final : σ} (read : foldMembers step start members = some final) :
    foldMembers step start others = some final := by
  induction members generalizing others start with
  | nil =>
      obtain rfl : others = [] := aligned
      exact read
  | cons member members ih =>
      obtain ⟨again, other, later, same, alike, further, rfl⟩ := aligned
      obtain ⟨here, elsewhere⟩ := List.forall_mem_cons.1 carried
      simp only [foldMembers, List.foldlM_cons, Option.bind_eq_bind,
        Option.bind_eq_some_iff] at read ⊢
      obtain ⟨next, ⟨key, spelled, taken⟩, rest⟩ := read
      rw [spelled] at alike
      exact ⟨next, ⟨key, same ▸ spelled, here key start next other alike taken⟩,
        ih further elsewhere rest⟩

end ParseTree

end CatalogSeed.Document
