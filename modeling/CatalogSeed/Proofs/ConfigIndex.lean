import Mathlib.Data.Finset.Card
import Mathlib.Data.List.Induction
import CatalogSeed.Proofs.Secrets

/-!
What a configuration index holds. Of all properties with a dotted key the last one whose value is an
object counts, and what is no object takes nothing away; without points in their names, blocks do
not reach into each other.
-/

namespace CatalogSeed

theorem Json.asObject?_eq_some {value : Json} {bag : Bag} :
    value.asObject? = some bag ↔ value = .object bag := by
  cases value <;> simp [asObject?]

namespace ConfigIndex

/-- A property with the name of its block. -/
structure Property where
  block : String
  name : String
  value : Json

namespace Property

def key (property : Property) : String :=
  property.block ++ "." ++ property.name

/-- Only such properties have a schema. -/
def IsObject (property : Property) : Prop :=
  ∃ schema, property.value = .object schema

/-- All properties, in the order of the blocks and in that of a block. -/
def ofBlocks (blocks : List ConfigBlock) : List Property :=
  blocks.flatMap fun block =>
    block.properties.map fun (name, value) => ⟨block.name, name, value⟩

/-- Without points in the names of blocks, the dotted key tells both names. -/
theorem key_eq_iff {property : Property} {block name : String}
    (own : '.' ∉ property.block.toList) (given : '.' ∉ block.toList) :
    property.key = block ++ "." ++ name ↔ property.block = block ∧ property.name = name := by
  constructor
  · intro same
    have parted := congrArg (fun key => Template.partAt '.' key.toList) same
    simp only [key, String.toList_append, List.append_assoc, String.reduceToList,
      List.singleton_append, Template.partAt_append own, Template.partAt_append given,
      Option.some.injEq, Prod.mk.injEq, String.toList_inj] at parted
    exact parted
  · rintro ⟨rfl, rfl⟩
    rfl

def definition? (property : Property) : Option (String × Bag) :=
  property.value.asObject?.map fun schema => (property.key, schema)

theorem definition?_eq_none {property : Property} (other : ¬property.IsObject) :
    property.definition? = none := by
  refine Option.map_eq_none_iff.2 (Option.eq_none_iff_forall_ne_some.2 fun schema object => ?_)
  exact other ⟨schema, Json.asObject?_eq_some.1 object⟩

theorem definition?_of_object {property : Property} {schema : Bag}
    (object : property.value = .object schema) :
    property.definition? = some (property.key, schema) := by
  rw [definition?, object]
  rfl

theorem definitions_eq (blocks : List ConfigBlock) :
    definitions blocks = (ofBlocks blocks).filterMap definition? := by
  simp only [definitions, ofBlocks, List.filterMap_flatMap, List.filterMap_map]
  rfl

/-- The schema is that of the last object among the properties that are meant. -/
def LastObject (meant : Property → Prop) (properties : List Property) (schema : Bag) : Prop :=
  ∃ before property behind, properties = before ++ property :: behind ∧ meant property ∧
    property.value = .object schema ∧ ∀ later ∈ behind, meant later → ¬later.IsObject

section

variable {meant other : Property → Prop} {properties : List Property} {schema : Bag}

theorem not_lastObject_nil : ¬LastObject meant [] schema := by
  rintro ⟨before, property, behind, split, _⟩
  simp at split

theorem lastObject_concat {property : Property} :
    LastObject meant (properties ++ [property]) schema ↔
      meant property ∧ property.value = .object schema ∨
        ¬(meant property ∧ property.IsObject) ∧ LastObject meant properties schema := by
  constructor
  · rintro ⟨before, found, behind, split, among, object, last⟩
    rcases List.eq_nil_or_concat behind with rfl | ⟨behind, final, rfl⟩
    · obtain ⟨_, same⟩ := List.append_inj' split rfl
      obtain rfl : property = found := List.singleton_inj.1 same
      exact Or.inl ⟨among, object⟩
    · rw [List.concat_eq_append, ← List.cons_append, ← List.append_assoc] at split
      obtain ⟨earlier, same⟩ := List.append_inj' split rfl
      obtain rfl : property = final := List.singleton_inj.1 same
      refine Or.inr ⟨fun both => last property (by simp) both.1 both.2, before, found, behind,
        earlier, among, object, fun later within => last later (by simp [within])⟩
  · rintro (⟨among, object⟩ | ⟨none, before, found, behind, rfl, among, object, last⟩)
    · exact ⟨properties, property, [], rfl, among, object, nofun⟩
    · refine ⟨before, found, behind ++ [property], by simp, among, object, fun later within => ?_⟩
      rcases List.mem_append.1 within with earlier | final
      · exact last later earlier
      · rw [List.mem_singleton.1 final]
        exact fun meantToo object => none ⟨meantToo, object⟩

theorem LastObject.congr (same : ∀ property ∈ properties, meant property ↔ other property)
    (last : LastObject meant properties schema) : LastObject other properties schema := by
  obtain ⟨before, property, behind, rfl, among, object, after⟩ := last
  refine ⟨before, property, behind, rfl, (same property (by simp)).1 among, object, ?_⟩
  intro later within meantToo
  exact after later within ((same later (by simp [within])).2 meantToo)

/-- Where an object is meant there is a last one. -/
theorem exists_lastObject {property : Property} (among : property ∈ properties)
    (named : meant property) (object : property.IsObject) :
    ∃ schema, LastObject meant properties schema := by
  induction properties using List.reverseRecOn with
  | nil => contradiction
  | append_singleton properties final ih =>
      by_cases counts : meant final ∧ final.IsObject
      · obtain ⟨schema, same⟩ := counts.2
        exact ⟨schema, lastObject_concat.2 (Or.inl ⟨counts.1, same⟩)⟩
      · rcases List.mem_append.1 among with earlier | last
        · obtain ⟨schema, found⟩ := ih earlier
          exact ⟨schema, lastObject_concat.2 (Or.inr ⟨counts, found⟩)⟩
        · obtain rfl : property = final := List.mem_singleton.1 last
          exact absurd ⟨named, object⟩ counts

/-- Properties that are not meant do not count at all. -/
theorem lastObject_filter [DecidablePred meant] :
    LastObject meant (properties.filter meant) schema ↔ LastObject meant properties schema := by
  induction properties using List.reverseRecOn with
  | nil => rfl
  | append_singleton properties property ih =>
      rw [List.filter_append, lastObject_concat]
      by_cases named : meant property
      · rw [List.filter_cons_of_pos (by simpa using named), List.filter_nil, lastObject_concat, ih]
      · rw [List.filter_cons_of_neg (by simpa using named), List.filter_nil, List.append_nil, ih]
        simp [named]

end

/-- Looking a key up from the end finds the last object with that key. -/
theorem lookup_reverse_eq_some {properties : List Property} {key : String} {schema : Bag} :
    (properties.filterMap definition?).reverse.lookup key = some schema ↔
      LastObject (fun property => property.key = key) properties schema := by
  -- From the end, since the property that was added last is looked at first.
  induction properties using List.reverseRecOn with
  | nil => simp [not_lastObject_nil]
  | append_singleton properties property ih =>
      rw [lastObject_concat, ← ih, List.filterMap_append, List.reverse_append, List.lookup_append]
      by_cases object : property.IsObject
      · obtain ⟨found, same⟩ := object
        have alone : [property].filterMap definition? = [(property.key, found)] := by
          rw [List.filterMap_cons_some (definition?_of_object same), List.filterMap_nil]
        rw [alone, List.reverse_singleton, KeyMap.lookup_cons_eq, List.lookup_nil]
        by_cases here : property.key = key
        · simp [here, same, show property.IsObject from ⟨found, same⟩]
        · simp [here, Ne.symm here]
      · have nothing : [property].filterMap definition? = [] := by
          rw [List.filterMap_cons_none (definition?_eq_none object), List.filterMap_nil]
        have unlike : property.value ≠ .object schema := fun same => object ⟨schema, same⟩
        simp [nothing, object, unlike]

end Property

/-! What is found in an index. -/

open Property

theorem get?_build_eq_some {blocks : List ConfigBlock} {key : String} {schema : Bag} :
    (build blocks).get? key = some schema ↔
      LastObject (fun property => property.key = key) (ofBlocks blocks) schema := by
  rw [get?, build, KeyMap.get?_ofList, definitions_eq, lookup_reverse_eq_some]

theorem get?_build_eq_none {blocks : List ConfigBlock} {key : String} :
    (build blocks).get? key = none ↔
      ∀ property ∈ ofBlocks blocks, property.key = key → ¬property.IsObject := by
  rw [Option.eq_none_iff_forall_ne_some]
  constructor
  · intro missing property among same object
    have known : ∃ schema,
        LastObject (fun property => property.key = key) (ofBlocks blocks) schema :=
      exists_lastObject among same object
    obtain ⟨schema, last⟩ := known
    exact missing schema (get?_build_eq_some.2 last)
  · intro without schema found
    obtain ⟨before, property, behind, split, same, object, _⟩ := get?_build_eq_some.1 found
    exact without property (by simp [split]) same ⟨schema, object⟩

/-- Later blocks come first. -/
theorem get?_build_append (blocks others : List ConfigBlock) (key : String) :
    (build (blocks ++ others)).get? key =
      ((build others).get? key).or ((build blocks).get? key) := by
  simp only [get?, build, KeyMap.get?_ofList, definitions, List.flatMap_append, List.reverse_append,
    List.lookup_append]

theorem size_eq_card (index : ConfigIndex) : index.size = index.properties.keys.toFinset.card := by
  rw [KeyMap.keys, List.toFinset_card_of_nodup index.properties.keys_nodup, List.length_map]
  rfl

theorem mem_keys_build {blocks : List ConfigBlock} {key : String} :
    key ∈ (build blocks).properties.keys ↔
      ∃ property ∈ ofBlocks blocks, property.key = key ∧ property.IsObject := by
  have held : key ∈ (build blocks).properties.keys ↔ (build blocks).get? key ≠ none := by
    rw [KeyMap.mem_keys_iff, Option.ne_none_iff_exists']
    rfl
  rw [held, Ne, get?_build_eq_none]
  simp only [not_forall, not_not, exists_prop]

/-- No block has a point in its name. -/
def Dotless (blocks : List ConfigBlock) : Prop :=
  ∀ block ∈ blocks, '.' ∉ block.name.toList

theorem get?_build_of_dotless {blocks : List ConfigBlock} (dotless : Dotless blocks)
    {block : String} (given : '.' ∉ block.toList) (name : String) {schema : Bag} :
    (build blocks).get? (block ++ "." ++ name) = some schema ↔
      LastObject (fun property => property.block = block ∧ property.name = name)
        (ofBlocks blocks) schema := by
  have same : ∀ property ∈ ofBlocks blocks, property.key = block ++ "." ++ name ↔
      property.block = block ∧ property.name = name := by
    intro property among
    obtain ⟨own, held, made⟩ := List.mem_flatMap.1 among
    obtain ⟨pair, _, rfl⟩ := List.mem_map.1 made
    exact key_eq_iff (dotless own held) given
  rw [get?_build_eq_some]
  exact ⟨.congr same, .congr fun property among => (same property among).symm⟩

/-- An index holds the last object of every dotted key and nothing else, described by itself alone;
what is no object never counts, and later blocks come first. Without points in the names of blocks,
a dotted key is decided by the properties of that name in the blocks of that name. -/
theorem build_lastObject (blocks : List ConfigBlock) :
    (∀ key schema, (build blocks).get? key = some schema ↔
      LastObject (fun property => property.key = key) (ofBlocks blocks) schema) ∧
    (∀ key, (build blocks).get? key = none ↔
      ∀ property ∈ ofBlocks blocks, property.key = key → ¬property.IsObject) ∧
    (∃ keys : Finset String, (∀ key, key ∈ keys ↔
        ∃ property ∈ ofBlocks blocks, property.key = key ∧ property.IsObject) ∧
      (build blocks).size = keys.card) ∧
    (∀ others key, (build (blocks ++ others)).get? key =
      ((build others).get? key).or ((build blocks).get? key)) ∧
    (∀ key text, (build blocks).description? key = some text ↔ text ≠ "" ∧ ∃ schema,
      LastObject (fun property => property.key = key) (ofBlocks blocks) schema ∧
        schema.get? "description" = some (.string text)) ∧
    ∀ block name, Dotless blocks → '.' ∉ block.toList →
      (∀ schema, (build blocks).get? (block ++ "." ++ name) = some schema ↔
        LastObject (fun property => property.block = block ∧ property.name = name)
          (ofBlocks blocks) schema) ∧
      ∀ others, Dotless others →
        (ofBlocks blocks).filter (fun property => property.block = block ∧ property.name = name) =
          (ofBlocks others).filter (fun property => property.block = block ∧ property.name = name) →
        (build blocks).get? (block ++ "." ++ name) = (build others).get? (block ++ "." ++ name) := by
  refine ⟨fun _ _ => get?_build_eq_some, fun _ => get?_build_eq_none,
    ⟨(build blocks).properties.keys.toFinset, fun key => ?_, size_eq_card _⟩,
    get?_build_append blocks, fun key text => ?_, fun block name dotless given =>
      ⟨fun _ => get?_build_of_dotless dotless given name, fun others dotlessToo same => ?_⟩⟩
  · rw [List.mem_toFinset, mem_keys_build]
  · simp only [description?_eq_some, get?_build_eq_some]
  · refine Option.ext fun schema => ?_
    rw [get?_build_of_dotless dotless given, get?_build_of_dotless dotlessToo given,
      ← lastObject_filter, same, lastObject_filter]

/-- A property that is defined again without a description, and then as no object. -/
theorem build_lastObject_redefined :
    let blocks : List ConfigBlock :=
      [⟨"a", "", "", [("b.c", .object [("description", .string "one")]), ("d", .null)], []⟩,
        ⟨"a", "", "", [("b.c", .object [])], []⟩, ⟨"a", "", "", [("b.c", .string "two")], []⟩]
    (Dotless blocks ∧ '.' ∉ "a".toList) ∧ (build blocks).get? ("a" ++ "." ++ "b.c") = some [] ∧
      (build blocks).description? ("a" ++ "." ++ "b.c") = none ∧
      (build blocks).get? ("a" ++ "." ++ "d") = none := by
  intro blocks
  have dotless : Dotless blocks := by
    simp only [blocks, Dotless, List.forall_mem_cons]
    exact ⟨by decide, by decide, by decide, nofun⟩
  have parts : ofBlocks blocks =
      [⟨"a", "b.c", .object [("description", .string "one")]⟩, ⟨"a", "d", .null⟩] ++
        ⟨"a", "b.c", .object []⟩ :: [⟨"a", "b.c", .string "two"⟩] := rfl
  obtain ⟨last, _, _, _, described, dotted⟩ := build_lastObject blocks
  have found : (build blocks).get? ("a" ++ "." ++ "b.c") = some [] := by
    refine ((dotted "a" "b.c" dotless (by decide)).1 _).2
      ⟨_, _, _, parts, ⟨rfl, rfl⟩, rfl, fun later within _ => ?_⟩
    rw [List.mem_singleton.1 within]
    exact nofun
  refine ⟨⟨dotless, by decide⟩, found, Option.eq_none_iff_forall_ne_some.2 fun text told => ?_,
    Option.eq_none_iff_forall_ne_some.2 fun schema held => ?_⟩
  · obtain ⟨_, schema, counts, given⟩ := (described _ text).1 told
    obtain rfl : [] = schema := Option.some.inj (found.symm.trans ((last _ _).2 counts))
    contradiction
  · obtain ⟨before, property, behind, split, ⟨_, named⟩, object, _⟩ :=
      ((dotted "a" "d" dotless (by decide)).1 schema).1 held
    have among : property ∈ ofBlocks blocks := by simp [split]
    rw [parts] at among
    rcases List.mem_append.1 among with earlier | later
    · rcases List.mem_pair.1 earlier with rfl | rfl <;> contradiction
    · rcases List.mem_pair.1 later with rfl | rfl <;> contradiction

end ConfigIndex

end CatalogSeed
