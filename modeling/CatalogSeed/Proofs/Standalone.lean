import CatalogSeed.Proofs.Batch
import CatalogSeed.Proofs.Document.Deepening
import CatalogSeed.Proofs.Document.Texts
import CatalogSeed.Proofs.Entries

/-!
Entries on their own: the text of each member of the registry is read by itself as it is read within
its catalog.
-/

namespace CatalogSeed

open Document ParseTree

theorem filter_key {α : Type} {entries : List (String × α)}
    (distinct : (entries.map Prod.fst).Nodup) (key : String) :
    entries.filter (fun entry => entry.1 = key) =
      (entries.lookup key).toList.map fun value => (key, value) := by
  induction entries with
  | nil => rfl
  | cons entry entries ih =>
      obtain ⟨other, value⟩ := entry
      obtain ⟨fresh, later⟩ := List.nodup_cons.1 distinct
      rw [KeyMap.lookup_cons_eq]
      by_cases here : key = other
      · subst here
        have others : entries.filter (fun entry => entry.1 = key) = [] := by
          rw [List.filter_eq_nil_iff]
          intro entry among same
          have shared : entry.1 = key := by simpa using same
          exact fresh (List.mem_map.2 ⟨entry, among, shared⟩)
        simp [others]
      · have skipped : ¬ other = key := fun same => here same.symm
        simp [skipped, here, ih later]

namespace Seed

/-- The descriptor with the name of a key is that of the entry under it, if it is taken in. -/
theorem build_filter_key (includeRemote : Bool) (catalog : Catalog) (key : String) :
    (build includeRemote catalog).filter (fun server => server.name = Server.nameOf key) =
      ((catalog.get? key).filter fun entry => includeRemote || !entry.isRemote).toList.map
        (Server.ofEntry key) := by
  have named (entry : String × Entry) :
      (Server.ofEntry entry.1 entry.2).name = Server.nameOf key ↔ entry.1 = key := by
    rw [Server.ofEntry_name]
    exact ⟨Server.nameOf_injective, congrArg Server.nameOf⟩
  have single : catalog.registry.entries.filter (fun entry => entry.1 = key) =
      (catalog.get? key).toList.map fun entry => (key, entry) :=
    filter_key catalog.registry.keys_nodup key
  have order (entry : String × Entry) :
      (decide (entry.1 = key) && (includeRemote || !entry.2.isRemote)) =
        ((includeRemote || !entry.2.isRemote) && decide (entry.1 = key)) := Bool.and_comm _ _
  simp only [build, List.filter_map, Function.comp_def, named, List.filter_filter, order]
  rw [← List.filter_filter, single]
  cases catalog.get? key with
  | none => rfl
  | some entry =>
      simp only [Option.toList_some, List.map_cons, List.map_nil, List.filter_cons,
        List.filter_nil, Option.filter_some]
      split <;> rfl

end Seed

theorem exists_of_mapEntries {α β : Type} {f : String → α → Option β} {entries : List (String × α)}
    {read : List (String × β)} (outcome : mapEntries f entries = some read)
    {entry : String × α} (among : entry ∈ entries) : ∃ found, f entry.1 entry.2 = some found := by
  have each := isSome_mapM.1 (Option.isSome_of_eq_some outcome) entry among
  rw [Option.isSome_map] at each
  exact Option.isSome_iff_exists.1 each

namespace Entry

/-- What is read of an entry within a catalog is read of its text alone. -/
theorem decode_of_datum? {inner : Nat} (within : inner ≤ nestingLimit) {part : ParseTree}
    {found : Datum} (read : datum? inner kind part = some found) {text : List UInt8}
    (spells : part.Spells text) : decode text = .ok (ofDatum found) := by
  have whole : part.SpellsDocument text :=
    ⟨[], text, [], Blank.nil, spells, Blank.nil, by simp⟩
  have outcome : (Document.read kind text).toOption = some found := by
    rw [read_document kind whole]
    exact datum?_of_le within kind part found read
  rw [decode, toOption_eq_some.1 outcome]
  rfl

end Entry

namespace Catalog

/-- The trees of the entries under their keys. -/
def entryTrees (tree : ParseTree) : List (String × ParseTree) :=
  match part? "registry" kind tree with
  | some (.object members) => named members
  | _ => []

/-- The texts of the entries under their keys: the members of the registry, of which there are none
if it is left out or null. -/
def EntryTexts (document : List UInt8) (members : List (String × List UInt8)) : Prop :=
  ∃ before text behind parts, Blank before ∧ Blank behind ∧
    document = before ++ (text ++ behind) ∧ RecordTexts (membersOf kind) parts text ∧
    match parts.lookup "registry" with
    | none => members = []
    | some part => part = 0x6E :: wordNull ∧ members = [] ∨
        ∃ body, MemberTexts true members body ∧ part = 0x7B :: body

theorem registry_read {nesting : Nat} {tree : ParseTree} {datum : Datum}
    (read : datum? nesting kind tree = some datum) :
    ∃ inner entries, inner ≤ nesting ∧
      mapEntries (fun _ => datum? inner Entry.kind) (entryTrees tree) = some entries ∧
      (ofDatum datum).registry = Datum.asTable Entry.ofDatum (some (.table entries)) := by
  obtain ⟨inner, f, rfl, rfl, each⟩ := record_parts (by decide) (by decide) read
  have registry : ReadPart inner (.table Entry.kind) (part? "registry" kind tree) (f "registry") :=
    each (lenient "registry" (.table Entry.kind)) (by simp)
  change ∃ deeper entries, _ ∧ _ ∧
    Datum.asTable Entry.ofDatum (f "registry") = Datum.asTable Entry.ofDatum _
  unfold entryTrees
  generalize part? "registry" kind tree = part at registry ⊢
  generalize f "registry" = value at registry ⊢
  cases registry with
  | none => exact ⟨inner, [], by omega, rfl, rfl⟩
  | some outcome =>
      obtain ⟨deeper, members, entries, rfl, rfl, _, rfl, taken⟩ := table_parts outcome
      exact ⟨deeper, entries, by omega, taken, rfl⟩

theorem EntryTexts.trees {document : List UInt8} {members : List (String × List UInt8)}
    (texts : EntryTexts document members) :
    ∃ tree : ParseTree, tree.SpellsDocument document ∧
      List.Forall₂ SpellsMember (entryTrees tree) members := by
  obtain ⟨before, text, behind, parts, blank, trailing, rfl, record, registry⟩ := texts
  obtain ⟨tree, spells, along⟩ := record.tree
  refine ⟨tree, ⟨before, text, behind, blank, spells, trailing, rfl⟩, ?_⟩
  have looked := lookup_forall₂ along "registry"
  unfold entryTrees part?
  generalize (entriesOf (membersOf kind) tree).lookup "registry" = given at looked ⊢
  generalize parts.lookup "registry" = written at looked registry
  cases looked with
  | none =>
      have nothing : members = [] := registry
      subst nothing
      exact .nil
  | @some part written spelled =>
      rcases registry with ⟨null, nothing⟩ | ⟨body, object, braces⟩
      · have absent : part = .null := Spells.unique part .null _ spelled null
        subst absent
        subst nothing
        exact .nil
      · obtain ⟨trees, whole, inside⟩ := object.trees
        have table : part = .object trees :=
          Spells.unique part (.object trees) _ spelled ⟨body, whole, braces⟩
        subst table
        exact inside

theorem exists_entryTexts {nesting : Nat} {tree : ParseTree} {datum : Datum}
    (read : datum? nesting kind tree = some datum) {document : List UInt8}
    (spells : tree.SpellsDocument document) : ∃ members, EntryTexts document members := by
  obtain ⟨before, text, behind, blank, spelled, trailing, rfl⟩ := spells
  obtain ⟨parts, record, along⟩ := spelled.recordTexts read
  have looked : Option.Rel Spells ((entriesOf (membersOf kind) tree).lookup "registry")
      (parts.lookup "registry") := lookup_forall₂ along "registry"
  obtain ⟨inner, f, rfl, rfl, each⟩ := record_parts (by decide) (by decide) read
  have registry : ReadPart inner (.table Entry.kind) (part? "registry" kind tree) (f "registry") :=
    each (lenient "registry" (.table Entry.kind)) (by simp)
  -- What is needed of the registry is only its own text.
  suffices ∃ members, match parts.lookup "registry" with
      | none => members = []
      | some part => part = 0x6E :: wordNull ∧ members = [] ∨
          ∃ body, MemberTexts true members body ∧ part = 0x7B :: body by
    obtain ⟨members, written⟩ := this
    exact ⟨members, before, text, behind, parts, blank, trailing, rfl, record, written⟩
  unfold part? at registry
  generalize (entriesOf (membersOf kind) tree).lookup "registry" = given at looked registry
  generalize parts.lookup "registry" = written at looked ⊢
  cases looked with
  | none => exact ⟨[], rfl⟩
  | @some part written spells =>
      by_cases null : part = .null
      · subst null
        exact ⟨[], Or.inl ⟨spells, rfl⟩⟩
      · have present : given? part = some part := by
          cases part with
          | null => contradiction
          | _ => rfl
        rw [Option.bind_some, present] at registry
        generalize f "registry" = value at registry
        cases registry with
        | some outcome =>
            obtain ⟨_, trees, _, _, rfl, textual, _, _⟩ := table_parts outcome
            obtain ⟨body, inside, rfl⟩ := spells
            obtain ⟨members, texts, _⟩ := inside.texts textual
            exact ⟨members, Or.inr ⟨body, texts, rfl⟩⟩

section Accepted

variable {document : List UInt8} {catalog : Catalog} {members : List (String × List UInt8)}

/-- What the registry of an accepted catalog is read of has these texts. -/
theorem EntryTexts.read (texts : EntryTexts document members)
    (accepted : decode document = .ok catalog) :
    ∃ inner trees entries, inner ≤ nestingLimit ∧
      mapEntries (fun _ => datum? inner Entry.kind) trees = some entries ∧
      catalog.registry = Datum.asTable Entry.ofDatum (some (.table entries)) ∧
      List.Forall₂ SpellsMember trees members := by
  obtain ⟨datum, read, rfl⟩ := decode_eq_ok.1 accepted
  obtain ⟨tree, spelled, outcome⟩ := read_unique read
  obtain ⟨other, spells, along⟩ := texts.trees
  have same : other = tree := (spelled other).1 spells
  subst same
  obtain ⟨inner, entries, within, taken, registry⟩ := registry_read outcome
  exact ⟨inner, entryTrees other, entries, within, taken, registry, along⟩

theorem EntryTexts.decode_member (texts : EntryTexts document members)
    (accepted : decode document = .ok catalog) {member : String × List UInt8}
    (among : member ∈ members) : ∃ entry, Entry.decode member.2 = .ok entry := by
  obtain ⟨inner, trees, entries, within, taken, _, along⟩ := texts.read accepted
  obtain ⟨entry, inside, _, spells⟩ := mem_of_forall₂ along among
  obtain ⟨found, read⟩ := exists_of_mapEntries taken inside
  exact ⟨Entry.ofDatum found, Entry.decode_of_datum? within read spells⟩

theorem EntryTexts.get? (texts : EntryTexts document members)
    (accepted : decode document = .ok catalog) (key : String) :
    catalog.get? key =
      (members.reverse.lookup key).bind fun text => (Entry.decode text).toOption := by
  obtain ⟨inner, trees, entries, within, taken, registry, along⟩ := texts.read accepted
  rw [Catalog.get?, registry, get?_asTable taken]
  have looked := lookup_forall₂ (List.rel_reverse along) key
  have inside (part : ParseTree) (given : trees.reverse.lookup key = some part) :
      (key, part) ∈ trees := List.mem_reverse.1 (KeyMap.mem_of_lookup given)
  generalize trees.reverse.lookup key = given at looked inside ⊢
  generalize members.reverse.lookup key = written at looked ⊢
  cases looked with
  | none => rfl
  | @some part text spells =>
      obtain ⟨found, read⟩ := exists_of_mapEntries taken (inside part rfl)
      have alone := Entry.decode_of_datum? within read spells
      have whole : (datum? inner Entry.kind part).map Entry.ofDatum =
          (Entry.decode text).toOption := by
        rw [alone, toOption_ok]
        exact congrArg (Option.map Entry.ofDatum) read
      exact whole

end Accepted

/-- The last member under a key, read by itself. -/
def readLast? (members : List (String × List UInt8)) (key : String) : Option Entry :=
  (members.reverse.lookup key).bind fun text => (Entry.decode text).toOption

/-- A catalog of entries that are each read by themselves, and what is built of it. -/
structure Assembled (members : List (String × List UInt8)) (catalog : Catalog) : Prop where
  read : ∀ member ∈ members, ∃ entry, Entry.decode member.2 = .ok entry
  held : ∀ key, catalog.get? key = readLast? members key
  built : ∀ includeRemote key,
    (Seed.build includeRemote catalog).filter (fun server => server.name = Server.nameOf key) =
      ((readLast? members key).filter fun entry =>
        includeRemote || !entry.isRemote).toList.map (Server.ofEntry key)

/-- A catalog that is accepted has the entries of its members, each read by itself: the last one
under each key and no others. A document with a member that is refused by itself is refused. -/
theorem decode_entries (document : List UInt8) :
    (∀ catalog, decode document = .ok catalog →
      (∃ members, EntryTexts document members) ∧
        ∀ members, EntryTexts document members → Assembled members catalog) ∧
      ∀ members, EntryTexts document members →
        (∃ member ∈ members, ∃ error, Entry.decode member.2 = .error error) →
          ∃ error, decode document = .error error := by
  constructor
  · intro catalog accepted
    obtain ⟨datum, read, _⟩ := decode_eq_ok.1 accepted
    obtain ⟨tree, spelled, outcome⟩ := read_unique read
    refine ⟨exists_entryTexts outcome ((spelled tree).2 rfl), fun members texts => ?_⟩
    have held (key : String) : catalog.get? key = readLast? members key :=
      texts.get? accepted key
    refine ⟨fun member among => texts.decode_member accepted among, held, ?_⟩
    intro includeRemote key
    rw [Seed.build_filter_key, held key]
  · rintro members texts ⟨member, among, error, refused⟩
    cases outcome : decode document with
    | error failure => exact ⟨failure, rfl⟩
    | ok catalog =>
        obtain ⟨entry, accepted⟩ := texts.decode_member outcome among
        rw [refused] at accepted
        contradiction

/-- Entries with a key twice, one of them written as an array. -/
def repeatedKey : Bag := [
  ("k", .object [("title", .string "a")]),
  ("j", .array [.null, .string "t"]),
  ("k", .object [("user", .string "")])]

theorem decode_entries_repeated :
    ∃ catalog,
      decode (Utf8.bytes (Json.array [.null, .null, .object repeatedKey]).compact) = .ok catalog ∧
        Assembled (repeatedKey.map fun member => (member.1, Utf8.bytes member.2.compact))
          catalog := by
  have found : (decode (Utf8.bytes
      (Json.array [.null, .null, .object repeatedKey]).compact)).toOption.isSome = true := by
    decide +kernel
  obtain ⟨catalog, accepted⟩ := exists_of_isSome_decode found
  refine ⟨catalog, accepted, ((decode_entries _).1 catalog accepted).2 _ ?_⟩
  have printed (json : Json) : ∃ tree : ParseTree, tree.Spells (Utf8.bytes json.compact) :=
    ⟨json.tree, json.compact_spells⟩
  have spelled (key : String) : text? (Json.written key) = some key := Json.text?_written key
  have members : MemberTexts true
      (repeatedKey.map fun member => (member.1, Utf8.bytes member.2.compact)) _ :=
    ⟨[], Json.written "k", [], [], _, Blank.nil, Json.content_written "k", spelled "k", Blank.nil,
      Blank.nil, printed _,
      ⟨[0x2C], Json.written "j", [], [], _, Json.leads_bare, Json.content_written "j", spelled "j",
        Blank.nil, Blank.nil, printed _,
        ⟨[0x2C], Json.written "k", [], [], _, Json.leads_bare, Json.content_written "k",
          spelled "k", Blank.nil, Blank.nil, printed _, ⟨[], Blank.nil, rfl⟩, rfl⟩, rfl⟩, rfl⟩
  have items : ItemTexts true [Utf8.bytes Json.null.compact, Utf8.bytes Json.null.compact,
      Utf8.bytes (Json.object repeatedKey).compact] _ :=
    ⟨[], _, Blank.nil, printed _, ⟨[0x2C], _, Json.leads_bare, printed _,
      ⟨[0x2C], _, Json.leads_bare, printed _, ⟨[], Blank.nil, rfl⟩, rfl⟩, rfl⟩, rfl⟩
  refine ⟨[], _, [], _, Blank.nil, Blank.nil, by rw [List.nil_append, List.append_nil],
    Or.inr ⟨_, _, items, ?_, rfl⟩, Or.inr ⟨_, members, ?_⟩⟩
  · decide +kernel
  · decide +kernel

end Catalog

end CatalogSeed
