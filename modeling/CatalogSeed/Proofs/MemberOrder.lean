import CatalogSeed.Proofs.Acceptance
import CatalogSeed.Proofs.Document.Carrying
import CatalogSeed.Proofs.Relevance

/-!
Seeds do not depend on the order in which the members of a catalog were written, except within the
resources of its entries.
-/

namespace CatalogSeed

open Document ParseTree

/-! Configuration blocks, and the descriptions that are looked up in them. -/

/-- Two blocks with one name and properties that are alike. -/
def SameBlock (block other : ConfigBlock) : Prop :=
  block.name = other.name ∧ Matching (fun _ => Alike) block.properties other.properties

namespace ConfigIndex

/-- The definitions of one block. -/
def definitionsOf (block : ConfigBlock) : List (String × Bag) :=
  block.properties.filterMap fun (property, value) =>
    value.asObject?.map fun schema => (block.name ++ "." ++ property, schema)

theorem mem_definitionsOf {block : ConfigBlock} {key : String} {schema : Bag} :
    (key, schema) ∈ definitionsOf block ↔ ∃ property value, (property, value) ∈ block.properties ∧
      value.asObject? = some schema ∧ key = block.name ++ "." ++ property := by
  simp only [definitionsOf, List.mem_filterMap, Option.map_eq_some_iff, Prod.mk.injEq]
  constructor
  · rintro ⟨⟨property, value⟩, among, found, object, rfl, rfl⟩
    exact ⟨property, value, among, object, rfl⟩
  · rintro ⟨property, value, among, object, rfl⟩
    exact ⟨(property, value), among, schema, object, rfl, rfl⟩

theorem definitionsOf_nodup {block : ConfigBlock}
    (distinct : (block.properties.map Prod.fst).Nodup) :
    ((definitionsOf block).map Prod.fst).Nodup := by
  refine List.pairwise_map.2 ((List.pairwise_map.1 distinct).filterMap _ ?_)
  intro first second different left leftFound right rightFound same
  obtain ⟨_, _, rfl⟩ := Option.map_eq_some_iff.1 leftFound
  obtain ⟨_, _, rfl⟩ := Option.map_eq_some_iff.1 rightFound
  exact different ((String.append_right_inj _).1 same)

theorem lookup_definitionsOf {block : ConfigBlock}
    (distinct : (block.properties.map Prod.fst).Nodup) (property : String) :
    (definitionsOf block).lookup (block.name ++ "." ++ property) =
      (block.properties.lookup property).bind Json.asObject? := by
  refine Option.ext fun schema => ?_
  rw [Option.bind_eq_some_iff]
  constructor
  · intro found
    obtain ⟨other, value, among, object, same⟩ :=
      mem_definitionsOf.1 (KeyMap.mem_of_lookup found)
    obtain rfl : property = other := (String.append_right_inj _).1 same
    exact ⟨value, KeyMap.lookup_of_mem distinct among, object⟩
  · rintro ⟨value, found, object⟩
    exact KeyMap.lookup_of_mem (definitionsOf_nodup distinct)
      (mem_definitionsOf.2 ⟨property, value, KeyMap.mem_of_lookup found, object, rfl⟩)

theorem definitionsOf_same {block other : ConfigBlock} (same : SameBlock block other)
    (key : String) : ((definitionsOf block).lookup key).map described =
      ((definitionsOf other).lookup key).map described := by
  obtain ⟨name, matching⟩ := same
  by_cases dotted : ∃ property, key = block.name ++ "." ++ property
  · obtain ⟨property, rfl⟩ := dotted
    rw [lookup_definitionsOf matching.left_distinct, name,
      lookup_definitionsOf matching.right_distinct]
    rcases matching.lookups property with ⟨missing, missingToo⟩ | ⟨_, _, here, there, alike⟩
    · rw [missing, missingToo]
    · rw [here, there]
      exact alike.2
  · have absent {block : ConfigBlock} (other : ¬∃ property, key = block.name ++ "." ++ property) :
        (definitionsOf block).lookup key = none := by
      rw [Option.eq_none_iff_forall_ne_some]
      intro schema found
      obtain ⟨property, _, _, _, same⟩ := mem_definitionsOf.1 (KeyMap.mem_of_lookup found)
      exact other ⟨property, same⟩
    rw [absent dotted, absent (name ▸ dotted)]

/-- Blocks that are the same one by one describe the same properties in the same way. -/
theorem description?_same {blocks others : List ConfigBlock}
    (same : List.Forall₂ SameBlock blocks others) (key : String) :
    (build blocks).description? key = (build others).description? key := by
  have parted (blocks : List ConfigBlock) : (build blocks).description? key =
      (((definitions blocks).reverse.lookup key).map described).join.filter (· ≠ "") := by
    rw [description?, get?, build, KeyMap.get?_ofList]
    cases (definitions blocks).reverse.lookup key with
    | none => rfl
    | some schema =>
        have taken : (described schema).bind (fun text => if text = "" then none else some text) =
            (described schema).filter (· ≠ "") := by
          cases described schema with
          | none => rfl
          | some text => by_cases empty : text = "" <;> simp [Option.filter, empty]
        exact taken
  rw [parted, parted]
  refine congrArg (fun found => (Option.join found).filter _) ?_
  induction same with
  | nil => rfl
  | @cons block other blocks others first later ih =>
      have split (block : ConfigBlock) (blocks : List ConfigBlock) :
          definitions (block :: blocks) = definitionsOf block ++ definitions blocks := rfl
      rw [split, split, List.reverse_append, List.reverse_append, List.lookup_append,
        List.lookup_append, Option.map_or, Option.map_or, ih]
      refine congrArg _ ?_
      -- The last of equal keys counts, but within one block no two are equal.
      have left := definitionsOf_nodup first.2.left_distinct
      have right := definitionsOf_nodup first.2.right_distinct
      rw [← KeyMap.lookup_perm left (List.reverse_perm _).symm,
        ← KeyMap.lookup_perm right (List.reverse_perm _).symm]
      exact definitionsOf_same first key

end ConfigIndex

/-- Two entries that differ in the order of properties only. -/
def SameEntry (entry other : Entry) : Prop :=
  ∃ blocks, List.Forall₂ SameBlock entry.config blocks ∧ other = { entry with config := blocks }

theorem SameEntry.isRemote {entry other : Entry} (same : SameEntry entry other) :
    entry.isRemote = other.isRemote := by
  obtain ⟨blocks, _, rfl⟩ := same
  rfl

/-- They have one descriptor. -/
theorem Server.ofEntry_same {entry other : Entry} (same : SameEntry entry other) (key : String) :
    ofEntry key entry = ofEntry key other := by
  obtain ⟨blocks, alike, rfl⟩ := same
  have container : entry.SameContainer { entry with config := blocks } :=
    { image := rfl, env := rfl, secrets := rfl, command := rfl, volumes := rfl, user := rfl
      described := fun _ _ => ConfigIndex.description?_same alike _ }
  simp only [ofEntry, Package.ofEntry_congr container]
  rfl

/-! Catalogs. -/

/-- Two registries have the same keys, and under each of them entries that are the same. -/
def SameRegistry (registry other : KeyMap Entry) : Prop :=
  ∀ key, Option.Rel SameEntry (registry.get? key) (other.get? key)

theorem Seed.build_same {catalog other : Catalog}
    (same : SameRegistry catalog.registry other.registry) (includeRemote : Bool) :
    build includeRemote catalog = build includeRemote other := by
  have parts (catalog : Catalog) : build includeRemote catalog =
      ((catalog.registry.entries.map fun pair =>
        (pair.1, (pair.2.isRemote, Server.ofEntry pair.1 pair.2))).filter
          fun part => includeRemote || !part.2.1).map fun part => part.2.2 := by
    rw [build, List.filter_map, List.map_map]
    rfl
  have each (key : String) :
      (catalog.registry.get? key).map (fun entry => (entry.isRemote, Server.ofEntry key entry)) =
        (other.registry.get? key).map fun entry => (entry.isRemote, Server.ofEntry key entry) :=
    map_eq_of_rel (same key) fun _ _ same => by rw [same.isRemote, Server.ofEntry_same same]
  have servers := KeyMap.map_entries_eq
    (fun key (entry : Entry) => (entry.isRemote, Server.ofEntry key entry)) each
  rw [parts, parts, servers]

/-! What is read for a catalog and its parts. -/

namespace Datum

variable {found again : Option Datum}

theorem asBag_same (related : Option.Rel BagOf found again) :
    Matching (fun _ => Alike) (asBag found) (asBag again) := by
  rcases related with ⟨⟨matching⟩⟩ | _
  · exact matching
  · exact ⟨.nil, .nil, fun _ => .none⟩

theorem asList_same {α : Type} {R : Datum → Datum → Prop} {S : α → α → Prop}
    (related : Option.Rel (ListOf R) found again) (item : Datum → α)
    (each : ∀ first second, R first second → S (item first) (item second)) :
    List.Forall₂ S (asList item found) (asList item again) := by
  rcases related with ⟨⟨all⟩⟩ | _
  · refine List.forall₂_map_left_iff.2 (List.forall₂_map_right_iff.2 (all.imp ?_))
    exact fun first second => each first second
  · exact .nil

theorem asTable_same {α : Type} {R : Datum → Datum → Prop} {S : α → α → Prop}
    (related : Option.Rel (TableOf R) found again) (item : Datum → α)
    (each : ∀ first second, R first second → S (item first) (item second)) (key : String) :
    Option.Rel S ((asTable item found).get? key) ((asTable item again).get? key) := by
  rcases related with ⟨⟨matching⟩⟩ | _
  · have values {entries : List (String × Datum)} (distinct : (entries.map Prod.fst).Nodup) :
        (asTable item (some (.table entries))).get? key = (entries.lookup key).map item := by
      rw [asTable, KeyMap.get?_ofList_nodup (by simpa [Function.comp_def] using distinct)]
      exact KeyMap.lookup_map_values (fun _ => item) entries key
    rw [values matching.left_distinct, values matching.right_distinct]
    rcases matching.lookups key with ⟨missing, missingToo⟩ | ⟨first, second, here, there, both⟩
    · rw [missing, missingToo]
      exact .none
    · rw [here, there]
      exact .some (each first second both)
  · exact .none

end Datum

/-- Flat members and one of another kind. -/
theorem carries_beside {known : List (Member Kind)} {key : String} {S : Datum → Datum → Prop}
    (flat : ∀ member ∈ known, member.key ≠ key → Flat member.kind)
    (other : ∀ member ∈ known, member.key = key → Carries .elsewhere member.kind S) :
    ∀ member ∈ known, Carries .elsewhere member.kind (if member.key = key then S else Eq) := by
  intro member among
  split
  next same => exact other member among same
  next different => exact carries_flat (flat member among different)

theorem ConfigBlock.carries : Carries .elsewhere ConfigBlock.kind fun found again =>
    SameBlock (ofDatum found) (ofDatum again) := by
  refine (@carries_record .elsewhere (fun key => if key = "properties" then BagOf else Eq) _ _ ?_ ?_
    (fun _ _ => rfl) (carries_beside ?_ ?_)).imp ?_
  · simp [lenient]
  · decide
  · simp [lenient]
  · simpa [lenient] using carries_bag
  · rintro _ _ ⟨f, g, rfl, rfl, each⟩
    simp only [lenient, List.forall_mem_cons, reduceIte, String.reduceEq, rel_eq] at each
    obtain ⟨name, _, _, properties, _⟩ := each
    exact ⟨congrArg Datum.asText name, Datum.asBag_same properties⟩

theorem Remote.carries : Carries .elsewhere Remote.kind fun found again =>
    ofDatum found = ofDatum again := by
  refine (@carries_record .elsewhere (fun key => if key = "headers" then TableOf Eq else Eq) _ _
    ?_ ?_ (fun _ _ => rfl) (carries_beside ?_ ?_)).imp ?_
  · simp [lenient]
  · decide
  · simp [lenient]
  · simpa [lenient] using @carries_table .elsewhere .text Eq fun _ => carries_flat .text
  · rintro _ _ ⟨f, g, rfl, rfl, each⟩
    simp only [lenient, List.forall_mem_cons, reduceIte, String.reduceEq, rel_eq] at each
    obtain ⟨transport, url, headers, _⟩ := each
    have values := Datum.asTable_same (S := Eq) headers (fun value => Datum.asText (some value))
      fun _ _ same => by rw [same]
    simp only [lenient, List.map_cons, List.map_nil, ofDatum, transport, url, Remote.mk.injEq,
      true_and]
    exact KeyMap.ext_get? fun key => rel_eq.1 (values key)

theorem Entry.carries : Carries .entry Entry.kind fun found again =>
    SameEntry (ofDatum found) (ofDatum again) := by
  refine (@carries_record .entry (fun key =>
    if key = "config" then ListOf fun found again =>
      SameBlock (ConfigBlock.ofDatum found) (ConfigBlock.ofDatum again)
    else if key = "remote" then fun found again => Remote.ofDatum found = Remote.ofDatum again
    else Eq) _ _ ?_ ?_ ?_ ?_).imp ?_
  · simp [lenient]
  · decide
  · decide
  · have config := @carries_list .elsewhere _ _ fun _ => ConfigBlock.carries
    have remote := Remote.carries
    have resources := carries_resources
    have flat {kind : Kind} (flat : Flat kind) := carries_flat flat
    have tools : Flat (.list Tool.kind) := by simp [Tool.kind, lenient]
    have metadata : Flat Metadata.kind := by simp [Metadata.kind, lenient]
    have secrets : Flat (.list Secret.kind) := by simp [Secret.kind, lenient]
    have env : Flat (.list EnvVar.kind) := by simp [EnvVar.kind, lenient]
    have oauth : Flat OAuth.kind := by simp [OAuth.kind, OAuthProvider.kind, lenient]
    simp [lenient, Place.member, config, remote, resources, flat, flat tools, flat metadata,
      flat secrets, flat env, flat oauth]
  · rintro _ _ ⟨f, g, rfl, rfl, each⟩
    simp only [lenient, List.forall_mem_cons, reduceIte, String.reduceEq, rel_eq] at each
    obtain ⟨description, title, type, dateAdded, image, ref, readme, toolsUrl, source, upstream,
      icon, tools, prompts, resources, metadata, secrets, env, command, volumes, config, remote,
      user, longLived, allowHosts, oauth, _⟩ := each
    have remotes : (f "remote").map Remote.ofDatum = (g "remote").map Remote.ofDatum :=
      map_eq_of_rel remote fun _ _ same => same
    refine ⟨Datum.asList ConfigBlock.ofDatum (g "config"),
      Datum.asList_same config _ fun _ _ same => same, ?_⟩
    simp only [lenient, List.map_cons, List.map_nil, ofDatum, ofMembers, description, title, type,
      dateAdded, image, ref, readme, toolsUrl, source, upstream, icon, tools, prompts, resources,
      metadata, secrets, env, command, volumes, remotes, user, longLived, allowHosts, oauth]

theorem Catalog.carries : Carries .catalog Catalog.kind fun found again =>
    SameRegistry (ofDatum found).registry (ofDatum again).registry := by
  refine (@carries_record .catalog (fun key =>
    if key = "registry" then TableOf fun found again =>
      SameEntry (Entry.ofDatum found) (Entry.ofDatum again)
    else Eq) _ _ ?_ ?_ ?_ ?_).imp ?_
  · simp [lenient]
  · decide
  · decide
  · have registry := @carries_table .registry _ _ fun _ => Entry.carries
    simp [lenient, Place.member, registry, carries_flat]
  · rintro _ _ ⟨f, g, rfl, rfl, each⟩
    simp only [lenient, List.forall_mem_cons, reduceIte, String.reduceEq, rel_eq] at each
    obtain ⟨_, _, registry, _⟩ := each
    exact Datum.asTable_same registry Entry.ofDatum fun _ _ same => same

/-- The same tree with its members in another order outside the resources of entries, however it
is written, is taken for a catalog too, and both catalogs have one seed. -/
theorem Seed.encode_build_reordered {tree other : ParseTree} (distinct : tree.Distinct)
    (reordered : tree.Reordered .catalog other) {document again : List UInt8}
    (spells : tree.SpellsDocument document) (spellsToo : other.SpellsDocument again)
    {catalog : Catalog} (accepted : Catalog.decode document = .ok catalog) :
    ∃ found, Catalog.decode again = .ok found ∧ ∀ includeRemote,
      encode (build includeRemote found) = encode (build includeRemote catalog) := by
  obtain ⟨datum, outcome, rfl⟩ := Catalog.decode_eq_ok.1 accepted
  have value := (read_document Catalog.kind spells).symm.trans (toOption_eq_some.2 outcome)
  obtain ⟨moved, valueToo, same⟩ := Catalog.carries _ _ _ _ reordered distinct value
  have outcomeToo := (read_document Catalog.kind spellsToo).trans valueToo
  refine ⟨Catalog.ofDatum moved,
    Catalog.decode_eq_ok.2 ⟨moved, toOption_eq_some.1 outcomeToo, rfl⟩, fun includeRemote => ?_⟩
  rw [build_same same]

/-- A catalog, and the same with its members and those of its entry in another order. -/
def ordered : Json :=
  .object [("name", .string "n"), ("registry", .object [("k", .object
    [("title", .string "t"), ("resources", .object [("b", .null), ("a", .null)])])])]

def swapped : Json :=
  .object [("registry", .object [("k", .object
    [("resources", .object [("b", .null), ("a", .null)]), ("title", .string "t")])]),
    ("name", .string "n")]

theorem ordered_reordered : ordered.tree.Reordered .catalog swapped.tree := by
  have entry : ReorderedMembers .registry (Json.memberTrees [("k", .object
      [("title", .string "t"), ("resources", .object [("b", .null), ("a", .null)])])])
      (Json.memberTrees [("k", .object
        [("resources", .object [("b", .null), ("a", .null)]), ("title", .string "t")])]) := by
    refine ⟨_, _, _, rfl, ⟨_, _, ?_, .swap _ _ _, nofun, rfl⟩, rfl, rfl⟩
    exact ⟨_, _, _, rfl, .refl _ _, ⟨_, _, _, rfl, .refl _ _, rfl, rfl⟩, rfl⟩
  have place : Place.member .catalog (text? (Json.written "registry")) = .registry := by
    rw [Json.text?_written]
    rfl
  refine ⟨_, _, ⟨_, _, _, rfl, .refl _ _, ⟨_, _, _, rfl, ?_, rfl, rfl⟩, rfl⟩, .swap _ _ _,
    nofun, rfl⟩
  rw [place]
  exact ⟨_, _, entry, .refl _, nofun, rfl⟩

/-- Both are taken for catalogs with one seed. -/
theorem Seed.encode_build_swapped :
    ∃ catalog found, Catalog.decode (Utf8.bytes (ordered.pretty 0)) = .ok catalog ∧
      Catalog.decode (Utf8.bytes (swapped.pretty 0)) = .ok found ∧
      encode (build true found) = encode (build true catalog) := by
  have document (json : Json) : json.tree.SpellsDocument (Utf8.bytes (json.pretty 0)) :=
    ⟨[], _, [], Blank.nil, json.pretty_spells 0, Blank.nil, by simp⟩
  have distinct : ordered.tree.Distinct := distinct_tree (by simp [ordered])
  have taken : (Catalog.decode (Utf8.bytes (ordered.pretty 0))).toOption.isSome = true := by
    decide +kernel
  obtain ⟨catalog, accepted⟩ := Option.isSome_iff_exists.1 taken
  obtain ⟨found, acceptedToo, same⟩ := encode_build_reordered distinct ordered_reordered
    (document ordered) (document swapped) (toOption_eq_some.1 accepted)
  exact ⟨catalog, found, toOption_eq_some.1 accepted, acceptedToo, same true⟩

end CatalogSeed
