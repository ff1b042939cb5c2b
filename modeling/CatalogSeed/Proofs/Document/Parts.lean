import CatalogSeed.Proofs.Document.Conforming
import Mathlib.Data.List.Nodup

/-!
What is read of records, tables and lists, told by their parts.
-/

namespace CatalogSeed.Document.ParseTree

/-- A null stands for nothing. -/
def given? : ParseTree → Option ParseTree
  | .null => none
  | tree => some tree

def membersOf : Kind → List (Member Kind)
  | .record _ known => known
  | _ => []

/-- What stands under the keys of a record: members of an object, or items of an array in the order
of the keys. -/
def entriesOf (known : List (Member Kind)) : ParseTree → List (String × ParseTree)
  | .object members => named members
  | .array items => (known.map Member.key).zip items
  | _ => []

/-- The part of a record under a key, unless it is left out or null. -/
def part? (key : String) (kind : Kind) (tree : ParseTree) : Option ParseTree :=
  ((entriesOf (membersOf kind) tree).lookup key).bind given?

/-- The last member of an object under a key. -/
def last? (key : String) : ParseTree → Option ParseTree
  | .object members => (named members).reverse.lookup key
  | _ => none

/-- Something is read of a part exactly if there is one. -/
def ReadPart (nesting : Nat) (kind : Kind) : Option ParseTree → Option Datum → Prop :=
  Option.Rel fun tree found => datum? nesting kind tree = some found

variable {nesting : Nat} {known : List (Member Kind)} {label : String} {item : Kind}
  {tree : ParseTree} {found : Datum}

theorem readPart_given {member : Member Kind} (absent : member.presence = .lenient)
    {value : Option Datum} (read : memberDatum? (datum? nesting) member tree = some value) :
    ReadPart nesting member.kind (given? tree) value := by
  by_cases nothing : tree = .null
  · subst nothing
    rw [memberDatum?_null absent] at read
    obtain rfl := Option.some.inj read
    exact .none
  · have present : given? tree = some tree := by
      cases tree with
      | null => contradiction
      | _ => rfl
    rw [memberDatum?_of_ne_null nothing, Option.map_eq_some_iff] at read
    obtain ⟨datum, outcome, rfl⟩ := read
    rw [present]
    exact .some outcome

theorem gatherAll_parts {entries : List (String × ParseTree)} {gathered : Gathered}
    (absent : ∀ member ∈ known, member.presence = .lenient)
    (distinct : (known.map Member.key).Nodup)
    (read : gatherAll (datum? nesting) known entries [] = some gathered) :
    ∀ member ∈ known, ReadPart nesting member.kind ((entries.lookup member.key).bind given?)
      (gathered.lookup member.key).join := by
  intro member among
  have values := (isSome_gatherAll.1 (Option.isSome_of_eq_some read)).2.2
  have field : field? known member.key = some member := by
    obtain ⟨other, found⟩ := exists_field? among
    obtain ⟨otherAmong, same⟩ := field?_eq_some found
    rw [found, List.inj_on_of_nodup_map distinct otherAmong among same]
  have gathering := lookup_of_gatherAll read member.key
  rw [List.lookup_nil, Option.none_or, field, Option.bind_some] at gathering
  rw [gathering]
  cases given : entries.lookup member.key with
  | none => exact .none
  | some tree =>
      have taken := values (member.key, tree) (KeyMap.mem_of_lookup given) member field
      obtain ⟨value, outcome⟩ := Option.isSome_iff_exists.1 taken
      rw [Option.bind_some, Option.bind_some, outcome]
      exact readPart_given (absent member among) outcome

theorem positional?_parts {items : List ParseTree} {values : List (Option Datum)}
    (absent : ∀ member ∈ known, member.presence = .lenient)
    (distinct : (known.map Member.key).Nodup)
    (read : positional? (datum? nesting) known items = some values) :
    ∃ f : String → Option Datum, values = known.map (fun member => f member.key) ∧
      ∀ member ∈ known, ReadPart nesting member.kind
        ((((known.map Member.key).zip items).lookup member.key).bind given?) (f member.key) := by
  induction known generalizing items values with
  | nil =>
      cases items with
      | nil => exact ⟨fun _ => none, (Option.some.inj read).symm, nofun⟩
      | cons item items => contradiction
  | cons member known ih =>
      obtain ⟨first, later⟩ := List.forall_mem_cons.1 absent
      obtain ⟨fresh, apart⟩ := List.nodup_cons.1 distinct
      cases items with
      | nil =>
          rw [positional?_nil absent] at read
          refine ⟨fun _ => none, (Option.some.inj read).symm, fun other _ => ?_⟩
          rw [List.zip_nil_right]
          exact .none
      | cons item items =>
          simp only [positional?, Option.bind_eq_bind, Option.bind_eq_some_iff,
            Option.some.injEq] at read
          obtain ⟨value, taken, others, onwards, rfl⟩ := read
          obtain ⟨f, rfl, each⟩ := ih later apart onwards
          refine ⟨fun key => if key = member.key then value else f key,
            map_key_cons fresh f value, List.forall_mem_cons.2 ⟨?_, fun other among => ?_⟩⟩
          · rw [List.map_cons, List.zip_cons_cons, KeyMap.lookup_cons_eq, if_pos rfl]
            simpa using readPart_given first taken
          · have unlike : other.key ≠ member.key :=
              fun same => fresh (same ▸ List.mem_map_of_mem among)
            rw [List.map_cons, List.zip_cons_cons, KeyMap.lookup_cons_eq, if_neg unlike]
            simpa [unlike] using each other among

/-- Every member of a record is read of its part, one level further in. -/
theorem record_parts (absent : ∀ member ∈ known, member.presence = .lenient)
    (distinct : (known.map Member.key).Nodup)
    (read : datum? nesting (.record label known) tree = some found) :
    ∃ (inner : Nat) (f : String → Option Datum), nesting = inner + 1 ∧
      found = .record (known.map fun member => f member.key) ∧
      ∀ member ∈ known, ReadPart inner member.kind (part? member.key (.record label known) tree)
        (f member.key) := by
  obtain ⟨inner, rfl, inside⟩ := bracketed?_of_datum? read (by simp) fun _ => rfl
  cases tree with
  | object members =>
      simp only [bracketed?, Option.bind_eq_some_iff, Option.map_eq_some_iff] at inside
      obtain ⟨gathered, outcome, values, arranged, rfl⟩ := inside
      rw [foldMembers_named _ _ (textual_of_foldMembers outcome), ← gatherAll] at outcome
      rw [arrange_lenient absent] at arranged
      obtain rfl := Option.some.inj arranged
      exact ⟨inner, fun key => (gathered.lookup key).join, rfl, rfl,
        gatherAll_parts absent distinct outcome⟩
  | array items =>
      rw [bracketed?, Option.map_eq_some_iff] at inside
      obtain ⟨values, outcome, rfl⟩ := inside
      obtain ⟨f, rfl, each⟩ := positional?_parts absent distinct outcome
      exact ⟨inner, f, rfl, rfl, each⟩
  | _ => contradiction

/-! Lists and tables. -/

theorem list_parts (read : datum? nesting (.list item) tree = some found) :
    ∃ (inner : Nat) (items : List ParseTree) (values : List Datum), nesting = inner + 1 ∧
      tree = .array items ∧ found = .list values ∧
      List.Forall₂ (fun tree value => datum? inner item tree = some value) items values := by
  obtain ⟨inner, rfl, inside⟩ := bracketed?_of_datum? read (by simp) fun _ => rfl
  cases tree with
  | array items =>
      rw [bracketed?, Option.map_eq_some_iff] at inside
      obtain ⟨values, outcome, rfl⟩ := inside
      exact ⟨inner, items, values, rfl, rfl, rfl, mapM_forall₂ outcome⟩
  | _ => contradiction

theorem mapEntries_reverse {α β : Type} {f : String → α → Option β}
    {entries : List (String × α)} {read : List (String × β)}
    (outcome : mapEntries f entries = some read) :
    mapEntries f entries.reverse = some read.reverse := by
  induction entries generalizing read with
  | nil =>
      obtain rfl : [] = read := Option.some.inj outcome
      rfl
  | cons entry entries ih =>
      obtain ⟨key, value⟩ := entry
      rw [mapEntries_cons, Option.bind_eq_some_iff] at outcome
      obtain ⟨first, taken, rest⟩ := outcome
      obtain ⟨later, further, rfl⟩ := Option.map_eq_some_iff.1 rest
      have before := ih further
      rw [mapEntries] at before
      rw [List.reverse_cons, List.reverse_cons, mapEntries, List.mapM_append, before]
      simp [taken]

/-- Every entry of a table is read of its member. -/
theorem table_parts (read : datum? nesting (.table item) tree = some found) :
    ∃ (inner : Nat) (members : List (List UInt8 × ParseTree)) (entries : List (String × Datum)),
      nesting = inner + 1 ∧ tree = .object members ∧ Textual members ∧ found = .table entries ∧
      mapEntries (fun _ => datum? inner item) (named members) = some entries := by
  obtain ⟨inner, rfl, inside⟩ := bracketed?_of_datum? read (by simp) fun _ => rfl
  cases tree with
  | object members =>
      rw [bracketed?, Option.map_eq_some_iff] at inside
      obtain ⟨entries, outcome, rfl⟩ := inside
      have textual := textual_of_foldMembers outcome
      rw [foldMembers_table _ textual] at outcome
      exact ⟨inner, members, entries, rfl, rfl, textual, rfl, outcome⟩
  | _ => contradiction

/-- The value of a map under a key is that of the last entry under it. -/
theorem get?_asTable {α β : Type} {f : β → Option Datum} {change : Datum → α}
    {members : List (String × β)} {entries : List (String × Datum)}
    (outcome : mapEntries (fun _ => f) members = some entries) (key : String) :
    (Datum.asTable change (some (.table entries))).get? key =
      ((members.reverse.lookup key).bind f).map change := by
  have reading := lookup_of_mapEntries (mapEntries_reverse outcome) key
  simp only [Datum.asTable, KeyMap.get?_ofList]
  rw [← List.map_reverse, KeyMap.lookup_map_values fun _ => change, reading]

/-- The entry of a map is read of the last member under its key. -/
theorem table_part {α : Type} {change : Datum → α} {key : String} {value : α}
    (read : datum? nesting (.table item) tree = some found)
    (held : (Datum.asTable change (some found)).get? key = some value) :
    ∃ (inner : Nat) (part : ParseTree) (datum : Datum), nesting = inner + 1 ∧
      tree.last? key = some part ∧ datum? inner item part = some datum ∧
      change datum = value := by
  obtain ⟨inner, members, entries, nested, rfl, _, rfl, outcome⟩ := table_parts read
  rw [get?_asTable outcome] at held
  obtain ⟨datum, taken, changed⟩ := Option.map_eq_some_iff.1 held
  obtain ⟨part, last, origin⟩ := Option.bind_eq_some_iff.1 taken
  exact ⟨inner, part, datum, nested, last, origin, changed⟩

end CatalogSeed.Document.ParseTree
