import CatalogSeed.Proofs.Document.Reordering

/-!
What becomes of the order of members when trees are read: tables and open objects keep their
entries in the order in which they came, and nothing else depends on it.
-/

namespace CatalogSeed.Document.ParseTree

variable {place : Place} {members others : List (List UInt8 × ParseTree)}

/-! Open values. -/

/-- What is read of an open value stays the same where order counts. -/
theorem json?_unmoved {tree other : ParseTree} (reordered : tree.Reordered .resources other)
    {nesting : Nat} {value : Json} (read : json? nesting tree = some value) :
    json? nesting other = some value := by
  induction tree generalizing other nesting value with
  | string written =>
      obtain ⟨again, same, rfl⟩ := reordered
      simpa [json?, same] using read
  | array items ih =>
      obtain ⟨others, first, rfl⟩ := reordered
      cases nesting with
      | zero => simp [json?] at read
      | succ nesting =>
          rw [json?, Option.map_eq_some_iff] at read ⊢
          obtain ⟨values, outcome, rfl⟩ := read
          obtain ⟨again, outcomeToo, all⟩ := first.mapM (R := Eq)
            (fun item among _ other read alike taken => ⟨read, ih item among alike taken, rfl⟩)
            outcome
          rw [List.forall₂_eq_eq_eq] at all
          exact ⟨values, all ▸ outcomeToo, rfl⟩
  | object members ih =>
      obtain ⟨aligned, others, first, _, inPlace, rfl⟩ := reordered
      obtain rfl := inPlace rfl
      cases nesting with
      | zero => simp [json?] at read
      | succ nesting =>
          rw [json?, Option.map_eq_some_iff] at read ⊢
          obtain ⟨bag, outcome, rfl⟩ := read
          refine ⟨bag, first.fold ?_ outcome, rfl⟩
          intro member among key state next other alike taken
          obtain ⟨value, found, rfl⟩ := Option.map_eq_some_iff.1 taken
          exact Option.map_eq_some_iff.2 ⟨value, ih member among alike found, rfl⟩
  | _ =>
      obtain rfl := reordered
      exact read

/-- What the description of a property is taken from. -/
def described (schema : Bag) : Option String :=
  (schema.get? "description").bind Json.asString?

/-- The same text, or objects that are described in the same way. -/
def Alike (value other : Json) : Prop :=
  value.asString? = other.asString? ∧
    value.asObject?.map described = other.asObject?.map described

theorem json?_reordered {tree other : ParseTree} (reordered : tree.Reordered .elsewhere other)
    (distinct : tree.Distinct) {nesting : Nat} {value : Json}
    (read : json? nesting tree = some value) :
    ∃ again, json? nesting other = some again ∧ Alike value again := by
  induction tree generalizing other nesting value with
  | string written =>
      obtain ⟨again, same, rfl⟩ := reordered
      exact ⟨value, by simpa [json?, same] using read, rfl, rfl⟩
  | array items ih =>
      obtain ⟨others, first, rfl⟩ := reordered
      cases distinct with
      | array each =>
      cases nesting with
      | zero => simp [json?] at read
      | succ nesting =>
          rw [json?, Option.map_eq_some_iff] at read
          obtain ⟨values, outcome, rfl⟩ := read
          obtain ⟨again, outcomeToo, _⟩ := first.mapM
            (fun item among _ other read alike taken => ih item among alike (each item among) taken)
            outcome
          exact ⟨.array again, by simp [json?, outcomeToo], rfl, rfl⟩
  | object members ih =>
      obtain ⟨aligned, others, first, moved, _, rfl⟩ := reordered
      cases distinct with
      | object keys each =>
      cases nesting with
      | zero => simp [json?] at read
      | succ nesting =>
          rw [json?, Option.map_eq_some_iff] at read
          obtain ⟨bag, outcome, rfl⟩ := read
          have textual := textual_of_foldMembers outcome
          rw [foldMembers_put _ textual keys] at outcome
          obtain ⟨again, outcomeToo, both⟩ := mapEntries_reordered keys first moved
            (fun member among _ other read alike taken =>
              ih member among alike (each member among) taken) outcome
          have matching := Matching.of_reordered keys first moved
          have textualToo := textual.of_reordered first moved
          refine ⟨.object again, ?_, rfl, ?_⟩
          · rw [json?, foldMembers_put _ textualToo matching.right_distinct, outcomeToo,
              Option.map_some]
          · simp only [Json.asObject?, Option.map_some, Option.some.injEq, described, Bag.get?]
            rcases both.lookups "description" with
              ⟨missing, missingToo⟩ | ⟨_, _, there, same, alike⟩
            · rw [missing, missingToo]
            · rw [there, same]
              exact alike.1
  | _ =>
      obtain rfl := reordered
      exact ⟨value, read, rfl, rfl⟩

/-! Data. -/

/-- What is read of a reordered tree is related to what is read of the tree. -/
def Carries (place : Place) (kind : Kind) (R : Datum → Datum → Prop) : Prop :=
  ∀ (nesting : Nat) (tree other : ParseTree) (found : Datum), tree.Reordered place other →
    tree.Distinct → datum? nesting kind tree = some found →
      ∃ again, datum? nesting kind other = some again ∧ R found again

theorem Carries.imp {kind : Kind} {R S : Datum → Datum → Prop} (carries : Carries place kind R)
    (weaker : ∀ found again, R found again → S found again) : Carries place kind S := by
  intro nesting tree other found reordered distinct read
  obtain ⟨again, readToo, related⟩ := carries nesting tree other found reordered distinct read
  exact ⟨again, readToo, weaker found again related⟩

theorem carries_scalar {kind : Kind} (plain : kind = .text ∨ kind = .integer ∨ kind = .flag)
    (place : Place) : Carries place kind Eq := by
  intro nesting tree other found reordered distinct read
  rw [datum?_scalar plain] at read
  refine ⟨found, ?_, rfl⟩
  rw [datum?_scalar plain]
  cases tree with
  | string written =>
      obtain ⟨again, same, rfl⟩ := reordered
      rcases plain with rfl | rfl | rfl
      · simpa [scalar?, same] using read
      · contradiction
      · contradiction
  | array items => rcases plain with rfl | rfl | rfl <;> contradiction
  | object members => rcases plain with rfl | rfl | rfl <;> contradiction
  | _ =>
      obtain rfl := reordered
      exact read

/-- Lists whose items are related one by one. -/
inductive ListOf (R : Datum → Datum → Prop) : Datum → Datum → Prop
  | intro {items others : List Datum} (related : List.Forall₂ R items others) :
      ListOf R (.list items) (.list others)

theorem carries_list {item : Kind} {R : Datum → Datum → Prop}
    (inner : ∀ index, Carries (place.item index) item R) :
    Carries place (.list item) (ListOf R) := by
  intro nesting tree other found reordered distinct read
  obtain ⟨nesting, rfl, inside⟩ := bracketed?_of_datum? read nofun fun _ => rfl
  cases distinct with
  | array each =>
      obtain ⟨others, first, rfl⟩ := reordered
      rw [bracketed?, Option.map_eq_some_iff] at inside
      obtain ⟨items, outcome, rfl⟩ := inside
      obtain ⟨again, outcomeToo, all⟩ := first.mapM
        (fun item among index other read alike taken =>
          inner index nesting item other read alike (each item among) taken) outcome
      exact ⟨.list again, by simp [datum?, bracketed?, outcomeToo], .intro all⟩
  | _ => contradiction

/-- Tables with related values under the same keys. -/
inductive TableOf (R : Datum → Datum → Prop) : Datum → Datum → Prop
  | intro {entries others : List (String × Datum)}
      (matching : Matching (fun _ => R) entries others) :
      TableOf R (.table entries) (.table others)

theorem carries_table {item : Kind} {R : Datum → Datum → Prop}
    (inner : ∀ key, Carries (place.member (some key)) item R) :
    Carries place (.table item) (TableOf R) := by
  intro nesting tree other found reordered distinct read
  obtain ⟨nesting, rfl, inside⟩ := bracketed?_of_datum? read nofun fun _ => rfl
  cases distinct with
  | object keys each =>
      obtain ⟨aligned, others, first, moved, _, rfl⟩ := reordered
      rw [bracketed?, Option.map_eq_some_iff] at inside
      obtain ⟨entries, outcome, rfl⟩ := inside
      have textual := textual_of_foldMembers outcome
      rw [foldMembers_table _ textual] at outcome
      obtain ⟨again, outcomeToo, both⟩ := mapEntries_reordered keys first moved
        (fun member among key other read alike taken =>
          inner key nesting member.2 other read alike (each member among) taken) outcome
      refine ⟨.table again, ?_, .intro both⟩
      rw [datum?_succ (by simp), bracketed?, foldMembers_table _ (textual.of_reordered first moved),
        outcomeToo, Option.map_some]
  | _ => contradiction

/-- Open objects with values that are alike under the same keys. -/
inductive BagOf : Datum → Datum → Prop
  | intro {bag other : Bag} (matching : Matching (fun _ => Alike) bag other) :
      BagOf (.bag bag) (.bag other)

theorem carries_bag : Carries .elsewhere .bag BagOf := by
  intro nesting tree other found reordered distinct read
  obtain ⟨nesting, rfl, inside⟩ := bracketed?_of_datum? read nofun fun _ => rfl
  cases distinct with
  | object keys each =>
      obtain ⟨aligned, others, first, moved, _, rfl⟩ := reordered
      rw [bracketed?, Option.map_eq_some_iff] at inside
      obtain ⟨bag, outcome, rfl⟩ := inside
      have textual := textual_of_foldMembers outcome
      rw [foldMembers_put _ textual keys] at outcome
      obtain ⟨again, outcomeToo, both⟩ := mapEntries_reordered keys first moved
        (fun member among _ other read alike taken =>
          json?_reordered alike (each member among) taken) outcome
      have matching := Matching.of_reordered keys first moved
      refine ⟨.bag again, ?_, .intro both⟩
      rw [datum?_succ (by simp), bracketed?, foldMembers_put _ (textual.of_reordered first moved)
        matching.right_distinct, outcomeToo, Option.map_some]
  | _ => contradiction

theorem carries_resources : Carries .resources .bag Eq := by
  intro nesting tree other found reordered distinct read
  obtain ⟨nesting, rfl, inside⟩ := bracketed?_of_datum? read nofun fun _ => rfl
  refine ⟨found, ?_, rfl⟩
  cases distinct with
  | object keys each =>
      obtain ⟨aligned, others, first, _, inPlace, rfl⟩ := reordered
      obtain rfl := inPlace rfl
      rw [bracketed?, Option.map_eq_some_iff] at inside
      obtain ⟨bag, outcome, rfl⟩ := inside
      rw [datum?_succ (by simp), bracketed?, Option.map_eq_some_iff]
      refine ⟨bag, first.fold ?_ outcome, rfl⟩
      intro member _ key state next other alike taken
      obtain ⟨value, found, rfl⟩ := Option.map_eq_some_iff.1 taken
      exact Option.map_eq_some_iff.2 ⟨value, json?_unmoved alike found, rfl⟩
  | _ => contradiction

/-! Records. -/

/-- Values for the members of a record, related one by one. -/
def Memberwise (R : String → Datum → Datum → Prop) (known : List (Member Kind))
    (values others : List (Option Datum)) : Prop :=
  ∃ f g : String → Option Datum, values = known.map (fun member => f member.key) ∧
    others = known.map (fun member => g member.key) ∧
      ∀ member ∈ known, Option.Rel (R member.key) (f member.key) (g member.key)

/-- Records whose members are related one by one. -/
inductive RecordOf (R : String → Datum → Datum → Prop) (known : List (Member Kind)) :
    Datum → Datum → Prop
  | intro {values others : List (Option Datum)} (related : Memberwise R known values others) :
      RecordOf R known (.record values) (.record others)

variable {R : String → Datum → Datum → Prop} {known : List (Member Kind)}

theorem Memberwise.cons {member : Member Kind} (fresh : member.key ∉ known.map Member.key)
    {value other : Option Datum} (first : Option.Rel (R member.key) value other)
    {values others : List (Option Datum)} (later : Memberwise R known values others) :
    Memberwise R (member :: known) (value :: values) (other :: others) := by
  obtain ⟨f, g, rfl, rfl, each⟩ := later
  have unlike {further : Member Kind} (among : further ∈ known) : further.key ≠ member.key :=
    fun same => fresh (same ▸ List.mem_map_of_mem among)
  refine ⟨fun key => if key = member.key then value else f key,
    fun key => if key = member.key then other else g key, map_key_cons fresh f value,
    map_key_cons fresh g other, List.forall_mem_cons.2 ⟨?_, ?_⟩⟩
  · simpa using first
  · intro further among
    simpa [unlike among] using each further among

theorem Reordered.eq_null {tree other : ParseTree} (reordered : tree.Reordered place other) :
    tree = .null ↔ other = .null := by
  cases tree with
  | null => exact iff_of_true rfl reordered
  | string written =>
      obtain ⟨again, _, rfl⟩ := reordered
      exact iff_of_false nofun nofun
  | array items =>
      obtain ⟨others, _, rfl⟩ := reordered
      exact iff_of_false nofun nofun
  | object members =>
      obtain ⟨aligned, others, _, _, _, rfl⟩ := reordered
      exact iff_of_false nofun nofun
  | _ =>
      obtain rfl := reordered
      exact iff_of_false nofun nofun

theorem memberDatum?_reordered {member : Member Kind} {S : Datum → Datum → Prop}
    (absent : member.presence = .lenient) (carries : Carries place member.kind S) {nesting : Nat}
    {tree other : ParseTree} (reordered : tree.Reordered place other) (distinct : tree.Distinct)
    {found : Option Datum} (read : memberDatum? (datum? nesting) member tree = some found) :
    ∃ again, memberDatum? (datum? nesting) member other = some again ∧
      Option.Rel S found again := by
  by_cases nothing : tree = .null
  · obtain rfl := reordered.eq_null.1 nothing
    subst nothing
    rw [memberDatum?_null absent] at read
    obtain rfl := Option.some.inj read
    exact ⟨none, memberDatum?_null absent, .none⟩
  · rw [memberDatum?_of_ne_null nothing, Option.map_eq_some_iff] at read
    obtain ⟨datum, outcome, rfl⟩ := read
    obtain ⟨again, outcomeToo, related⟩ :=
      carries nesting tree other datum reordered distinct outcome
    refine ⟨some again, ?_, .some related⟩
    rw [memberDatum?_of_ne_null fun nothingToo => nothing (reordered.eq_null.2 nothingToo),
      outcomeToo, Option.map_some]

theorem positional?_reordered {nesting : Nat}
    (absent : ∀ member ∈ known, member.presence = .lenient)
    (keys : (known.map Member.key).Nodup) {items others : List ParseTree} {index : Nat}
    (reordered : ReorderedItems place index items others)
    (distinct : ∀ item ∈ items, item.Distinct)
    (carries : ∀ offset member, known[offset]? = some member →
      Carries (place.item (index + offset)) member.kind (R member.key))
    {values : List (Option Datum)} (read : positional? (datum? nesting) known items = some values) :
    ∃ again, positional? (datum? nesting) known others = some again ∧
      Memberwise R known values again := by
  induction items generalizing known others index values with
  | nil =>
      obtain rfl : others = [] := reordered
      refine ⟨values, read, ?_⟩
      rw [positional?_nil absent] at read
      obtain rfl := Option.some.inj read
      exact ⟨fun _ => none, fun _ => none, rfl, rfl, fun _ _ => .none⟩
  | cons item items ih =>
      obtain ⟨other, later, first, further, rfl⟩ := reordered
      cases known with
      | nil => contradiction
      | cons member known =>
          obtain ⟨here, elsewhere⟩ := List.forall_mem_cons.1 absent
          obtain ⟨fresh, apart⟩ := List.nodup_cons.1 keys
          obtain ⟨whole, parts⟩ := List.forall_mem_cons.1 distinct
          simp only [positional?, Option.bind_eq_bind, Option.bind_eq_some_iff,
            Option.some.injEq] at read
          obtain ⟨value, taken, rest, outcome, rfl⟩ := read
          obtain ⟨again, takenToo, related⟩ :=
            memberDatum?_reordered here (carries 0 member rfl) first whole taken
          obtain ⟨agains, outcomeToo, all⟩ := ih elsewhere apart further parts
            (fun offset member found => by
              have shifted := carries (offset + 1) member found
              rwa [Nat.add_comm offset, ← Nat.add_assoc] at shifted) outcome
          exact ⟨again :: agains, by simp [positional?, takenToo, outcomeToo],
            all.cons fresh related⟩

/-- The values that were gathered for known keys are related. -/
theorem gatherAll_reordered {nesting : Nat}
    (absent : ∀ member ∈ known, member.presence = .lenient)
    (keys : ((named members).map Prod.fst).Nodup)
    {aligned : List (List UInt8 × ParseTree)} (first : ReorderedMembers place members aligned)
    (moved : aligned.Perm others) (distinct : ∀ member ∈ members, member.2.Distinct)
    (carries : ∀ member ∈ known,
      Carries (place.member (some member.key)) member.kind (R member.key))
    {final : Gathered} (read : gatherAll (datum? nesting) known (named members) [] = some final) :
    ∃ again, gatherAll (datum? nesting) known (named others) [] = some again ∧
      ∀ member ∈ known, Option.Rel (R member.key) (final.lookup member.key).join
        (again.lookup member.key).join := by
  have matching := Matching.of_reordered keys first moved
  obtain ⟨_, _, each⟩ := isSome_gatherAll.1 (Option.isSome_of_eq_some read)
  -- What the members on both sides stand for, where both are there.
  have values {member : Member Kind} {key : String} (given : field? known key = some member)
      {tree other : ParseTree} (here : (named members).lookup key = some tree)
      (alike : tree.Reordered (place.member (some key)) other) :
      ∃ value again, memberDatum? (datum? nesting) member tree = some value ∧
        memberDatum? (datum? nesting) member other = some again ∧
        Option.Rel (R member.key) value again := by
    obtain ⟨among, rfl⟩ := field?_eq_some given
    have entry := KeyMap.mem_of_lookup here
    obtain ⟨spelled, inside, _, rfl⟩ := mem_named.1 entry
    obtain ⟨value, taken⟩ := Option.isSome_iff_exists.1 (each _ entry member given)
    obtain ⟨again, takenToo, related⟩ := memberDatum?_reordered (absent member among)
      (carries member among) alike (distinct spelled inside) taken
    exact ⟨value, again, taken, takenToo, related⟩
  have accepted : (gatherAll (datum? nesting) known (named others) []).isSome := by
    refine isSome_gatherAll.2 ⟨matching.right_distinct.filter _, fun _ _ => rfl, ?_⟩
    intro entry among member given
    have there := KeyMap.lookup_of_mem matching.right_distinct among
    rcases matching.lookups entry.1 with ⟨_, missing⟩ | ⟨tree, other, here, same, alike⟩
    · simp [there] at missing
    · obtain rfl := Option.some.inj (same.symm.trans there)
      obtain ⟨_, _, _, takenToo, _⟩ := values given here alike
      exact Option.isSome_of_eq_some takenToo
  obtain ⟨again, readToo⟩ := Option.isSome_iff_exists.1 accepted
  refine ⟨again, readToo, fun member among => ?_⟩
  obtain ⟨found, given⟩ := exists_field? among
  rw [lookup_of_gatherAll read, lookup_of_gatherAll readToo, given]
  rcases matching.lookups member.key with ⟨missing, missingToo⟩ | ⟨tree, other, here, same, alike⟩
  · simp only [missing, missingToo, List.lookup_nil, Option.none_or, Option.bind_some,
      Option.bind_none, Option.join_none]
    exact .none
  · obtain ⟨value, again, taken, takenToo, related⟩ := values given here alike
    rw [(field?_eq_some given).2] at related
    simpa [here, same, taken, takenToo] using related

theorem carries_record {label : String}
    (absent : ∀ member ∈ known, member.presence = .lenient)
    (keys : (known.map Member.key).Nodup)
    (agree : ∀ part ∈ known.zipIdx, place.item part.2 = place.member (some part.1.key))
    (inner : ∀ member ∈ known,
      Carries (place.member (some member.key)) member.kind (R member.key)) :
    Carries place (.record label known) (RecordOf R known) := by
  intro nesting tree other found reordered distinct read
  obtain ⟨nesting, rfl, inside⟩ := bracketed?_of_datum? read nofun fun _ => rfl
  cases distinct with
  | array each =>
      obtain ⟨others, first, rfl⟩ := reordered
      rw [bracketed?, Option.map_eq_some_iff] at inside
      obtain ⟨values, outcome, rfl⟩ := inside
      obtain ⟨again, outcomeToo, all⟩ := positional?_reordered absent keys first each
        (fun offset member found => by
          have same := agree (member, offset) (List.mk_mem_zipIdx_iff_getElem?.2 found)
          rw [Nat.zero_add, same]
          exact inner member (List.mem_of_getElem? found)) outcome
      refine ⟨.record again, ?_, .intro all⟩
      rw [datum?_succ (by simp), bracketed?, outcomeToo, Option.map_some]
  | object distinctKeys each =>
      obtain ⟨aligned, others, first, moved, _, rfl⟩ := reordered
      rw [bracketed?, Option.bind_eq_some_iff] at inside
      obtain ⟨final, outcome, arranged⟩ := inside
      have textual := textual_of_foldMembers outcome
      rw [foldMembers_named _ _ textual, ← gatherAll] at outcome
      obtain ⟨again, outcomeToo, all⟩ :=
        gatherAll_reordered absent distinctKeys first moved each inner outcome
      rw [arrange_lenient absent, toOption_ok, Option.map_some] at arranged
      obtain rfl := Option.some.inj arranged
      refine ⟨_, ?_, .intro ⟨fun key => (final.lookup key).join,
        fun key => (again.lookup key).join, rfl, rfl, all⟩⟩
      rw [datum?_succ (by simp), bracketed?,
        foldMembers_named _ _ (textual.of_reordered first moved), ← gatherAll, outcomeToo,
        Option.bind_some, arrange_lenient absent]
      rfl
  | _ => contradiction

/-! Kinds without tables and open objects. -/

/-- Nothing in it is kept in the order in which it was written, but the items of lists. -/
inductive Flat : Kind → Prop
  | text : Flat .text
  | integer : Flat .integer
  | flag : Flat .flag
  | list {item : Kind} (inner : Flat item) : Flat (.list item)
  | record {label : String} {known : List (Member Kind)}
      (absent : ∀ member ∈ known, member.presence = .lenient)
      (keys : (known.map Member.key).Nodup)
      (inner : ∀ member ∈ known, Flat member.kind) : Flat (.record label known)

attribute [simp] Flat.text Flat.integer Flat.flag

@[simp] theorem flat_list {item : Kind} : Flat (.list item) ↔ Flat item := by
  constructor
  · rintro ⟨⟩
    assumption
  · exact .list

@[simp] theorem flat_record {label : String} :
    Flat (.record label known) ↔ (known.map Member.key).Nodup ∧
      ∀ member ∈ known, member.presence = .lenient ∧ Flat member.kind := by
  constructor
  · rintro ⟨⟩
    next absent keys inner =>
      exact ⟨keys, fun member among => ⟨absent member among, inner member among⟩⟩
  · exact fun ⟨keys, each⟩ => .record (fun member among => (each member among).1) keys
      fun member among => (each member among).2

/-- What is read of a flat kind does not depend on the order of members. -/
theorem carries_flat {kind : Kind} (flat : Flat kind) : Carries .elsewhere kind Eq := by
  induction flat with
  | text => exact carries_scalar (by simp) _
  | integer => exact carries_scalar (by simp) _
  | flag => exact carries_scalar (by simp) _
  | list inner ih =>
      refine (@carries_list .elsewhere _ Eq fun _ => ih).imp ?_
      rintro _ _ ⟨all⟩
      rw [List.forall₂_eq_eq_eq] at all
      rw [all]
  | record absent keys inner ih =>
      refine (@carries_record .elsewhere (fun _ => Eq) _ _ absent keys (fun _ _ => rfl) ih).imp ?_
      rintro _ _ ⟨f, g, rfl, rfl, each⟩
      rw [List.map_congr_left fun member among => rel_eq.1 (each member among)]

end CatalogSeed.Document.ParseTree
