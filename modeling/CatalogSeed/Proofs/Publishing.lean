import CatalogSeed.Proofs.Acceptance
import CatalogSeed.Proofs.Document.Denoting
import CatalogSeed.Proofs.Pipeline
import CatalogSeed.Proofs.Shape

/-!
What publishers provide, from the document of a catalog to the text of its seed: every field of an
entry that is passed on is shown as the document has it.
-/

namespace CatalogSeed

open Document ParseTree

namespace Metadata

theorem parts {nesting : Nat} {part : Option ParseTree} {found : Option Datum}
    (read : ReadPart nesting kind part found) :
    ∃ (inner : Nat) (f : String → Option Datum),
      (found.map ofDatum).getD empty = ofDatum (.record [f "pulls", f "stars", f "githubStars",
        f "category", f "tags", f "license", f "owner"]) ∧
      ∀ member ∈ membersOf kind,
        ReadPart inner member.kind (part.bind (part? member.key kind)) (f member.key) := by
  cases read with
  | none => exact ⟨nesting, fun _ => none, rfl, fun _ _ => .none⟩
  | some outcome =>
      obtain ⟨inner, f, _, rfl, each⟩ := record_parts (by decide) (by decide) outcome
      exact ⟨inner, f, rfl, each⟩

end Metadata

namespace Entry

/-- A field of an entry that is passed on: what the document has for it, the value it has where the
document has nothing, and its value in the entry. -/
structure Field where
  key : String
  part : Option ParseTree
  missing : Json
  value : Json

def metadataPart? (key : String) (tree : ParseTree) : Option ParseTree :=
  (part? "metadata" kind tree).bind (part? key Metadata.kind)

def metadataFields (tree : ParseTree) (metadata : Metadata) : List Field := [
  ⟨"pulls", metadataPart? "pulls" tree, .int 0, .int metadata.pulls⟩,
  ⟨"githubStars", metadataPart? "githubStars" tree, .int 0, .int metadata.githubStars⟩,
  ⟨"category", metadataPart? "category" tree, .string "", .string metadata.category⟩,
  ⟨"tags", metadataPart? "tags" tree, .array [], .strings metadata.tags⟩,
  ⟨"license", metadataPart? "license" tree, .string "", .string metadata.license⟩,
  ⟨"owner", metadataPart? "owner" tree, .string "", .string metadata.owner⟩]

def ownFields (tree : ParseTree) (entry : Entry) : List Field := [
  ⟨"source", part? "source" kind tree, .string "", .string entry.source⟩,
  ⟨"icon", part? "icon" kind tree, .string "", .string entry.icon⟩,
  ⟨"prompts", part? "prompts" kind tree, .int 0, .int entry.prompts⟩,
  ⟨"title", part? "title" kind tree, .string "", .string entry.title⟩,
  ⟨"readme", part? "readme" kind tree, .string "", .string entry.readme⟩,
  ⟨"toolsUrl", part? "toolsUrl" kind tree, .string "", .string entry.toolsUrl⟩,
  ⟨"dateAdded", part? "dateAdded" kind tree, .string "", .string entry.dateAdded⟩,
  ⟨"upstream", part? "upstream" kind tree, .string "", .string entry.upstream⟩,
  ⟨"resources", part? "resources" kind tree, .object [], .object entry.resources⟩]

/-- The names of the tools, each from the item in its place. -/
inductive ShowsTools : Option ParseTree → List Tool → Prop
  | missing : ShowsTools none []
  | given {items : List ParseTree} {tools : List Tool}
      (each : List.Forall₂ (fun item tool =>
        Shown (.string "") (part? "name" Tool.kind item) (.string tool.name)) items tools) :
      ShowsTools (some (.array items)) tools

/-- All that is passed on of an entry and of the part of a document that it was read of. -/
structure Provided (tree : ParseTree) (entry : Entry) (bag : Bag) : Prop where
  keys : bag.map Prod.fst = ["pulls", "githubStars", "category", "tags", "license", "owner",
    "tools", "source", "icon", "prompts", "title", "readme", "toolsUrl", "dateAdded", "upstream",
    "resources"] ++ if 0 < entry.metadata.stars then ["stars"] else []
  fields : ∀ field ∈ metadataFields tree entry.metadata ++ ownFields tree entry,
    bag.lookup field.key = some field.value ∧ Shown field.missing field.part field.value
  tools : bag.lookup "tools" =
      some (.array (entry.tools.map fun tool => .object [("name", .string tool.name)])) ∧
    ShowsTools (part? "tools" kind tree) entry.tools
  stars : (0 < entry.metadata.stars → bag.lookup "stars" = some (.int entry.metadata.stars)) ∧
    Shown (.int 0) (metadataPart? "stars" tree) (.int entry.metadata.stars)

theorem tools_shown {nesting : Nat} {part : Option ParseTree} {found : Option Datum}
    (read : ReadPart nesting (.list Tool.kind) part found) :
    ShowsTools part (Datum.asList Tool.ofDatum found) := by
  cases read with
  | none => exact .missing
  | some outcome =>
      obtain ⟨inner, items, values, _, rfl, rfl, along⟩ := list_parts outcome
      refine .given (List.forall₂_map_right_iff.2 (along.imp fun item value taken => ?_))
      obtain ⟨nesting, f, _, rfl, each⟩ := record_parts (by decide) (by decide) taken
      exact text_shown (each (lenient "name" .text) (by simp))

theorem metadataFields_shown {nesting : Nat} {tree : ParseTree} {found : Option Datum}
    (read : ReadPart nesting Metadata.kind (part? "metadata" kind tree) found) :
    (∀ field ∈ metadataFields tree ((found.map Metadata.ofDatum).getD .empty),
      Shown field.missing field.part field.value) ∧
    Shown (.int 0) (metadataPart? "stars" tree)
      (.int ((found.map Metadata.ofDatum).getD .empty).stars) := by
  obtain ⟨inner, f, same, each⟩ := Metadata.parts read
  have member (key : String) (field : Kind)
      (among : lenient key field ∈ membersOf Metadata.kind) :
      ReadPart inner field (metadataPart? key tree) (f key) := each _ among
  rw [same]
  simp only [metadataFields, List.forall_mem_cons]
  refine ⟨⟨?_, ?_, ?_, ?_, ?_, ?_, List.forall_mem_nil _⟩, ?_⟩
  · exact integer_shown (member "pulls" .integer (by simp [membersOf, Metadata.kind]))
  · exact integer_shown (member "githubStars" .integer (by simp [membersOf, Metadata.kind]))
  · exact text_shown (member "category" .text (by simp [membersOf, Metadata.kind]))
  · exact texts_shown (member "tags" (.list .text) (by simp [membersOf, Metadata.kind]))
  · exact text_shown (member "license" .text (by simp [membersOf, Metadata.kind]))
  · exact text_shown (member "owner" .text (by simp [membersOf, Metadata.kind]))
  · exact integer_shown (member "stars" .integer (by simp [membersOf, Metadata.kind]))

theorem fields_shown {nesting : Nat} {tree : ParseTree} {found : Datum}
    (read : datum? nesting kind tree = some found)
    (unreal : (Json.object (ofDatum found).resources).Unreal) :
    (∀ field ∈ metadataFields tree (ofDatum found).metadata ++ ownFields tree (ofDatum found),
      Shown field.missing field.part field.value) ∧
    ShowsTools (part? "tools" kind tree) (ofDatum found).tools ∧
    Shown (.int 0) (metadataPart? "stars" tree) (.int (ofDatum found).metadata.stars) := by
  obtain ⟨inner, f, _, rfl, each⟩ := record_parts (by decide) (by decide) read
  have member (key : String) (field : Kind) (among : lenient key field ∈ membersOf kind) :
      ReadPart inner field (part? key kind tree) (f key) := each _ among
  have text (key : String) (among : lenient key .text ∈ membersOf kind) :
      Shown (.string "") (part? key kind tree) (.string (Datum.asText (f key))) :=
    text_shown (member key .text among)
  have tools := tools_shown (member "tools" (.list Tool.kind) (by simp [membersOf, kind]))
  obtain ⟨metadata, stars⟩ :=
    metadataFields_shown (member "metadata" Metadata.kind (by simp [membersOf, kind]))
  refine ⟨List.forall_mem_append.2 ⟨metadata, ?_⟩, tools, stars⟩
  simp only [ownFields, List.forall_mem_cons]
  -- All of them are texts but the number of prompts and the resources.
  refine ⟨text "source" ?_, text "icon" ?_, ?_, text "title" ?_, text "readme" ?_,
    text "toolsUrl" ?_, text "dateAdded" ?_, text "upstream" ?_, ?_, List.forall_mem_nil _⟩
  case refine_3 => exact integer_shown (member "prompts" .integer (by simp [membersOf, kind]))
  case refine_9 => exact bag_shown (member "resources" .bag (by simp [membersOf, kind])) unreal
  all_goals simp [membersOf, kind]

end Entry

namespace Server

theorem publisherBag_fields (tree : ParseTree) (entry : Entry) :
    ∀ field ∈ Entry.metadataFields tree entry.metadata ++ Entry.ownFields tree entry,
      (publisherBag entry).lookup field.key = some field.value := by
  simp [Entry.metadataFields, Entry.ownFields, publisherBag, List.lookup_cons]

theorem publisherBag_provided {nesting : Nat} {tree : ParseTree} {found : Datum}
    (read : datum? nesting Entry.kind tree = some found)
    (unreal : (Json.object (Entry.ofDatum found).resources).Unreal) :
    Entry.Provided tree (Entry.ofDatum found) (publisherBag (Entry.ofDatum found)) := by
  obtain ⟨fields, tools, stars⟩ := Entry.fields_shown read unreal
  generalize Entry.ofDatum found = entry at fields tools stars ⊢
  constructor
  case keys =>
    rw [publisherBag, List.map_append]
    split
    next => rfl
    next => rfl
  case fields =>
    intro field among
    exact ⟨publisherBag_fields tree entry field among, fields field among⟩
  case tools => exact ⟨by simp [publisherBag, List.lookup_cons, Tool.toJson], tools⟩
  case stars => exact ⟨fun starred => by simp [publisherBag, List.lookup_cons, starred], stars⟩

/-- The object of a publisher is found in the printed descriptor of its entry. -/
theorem ofEntry_provides (key : String) (entry : Entry) :
    ∃ members, (ofEntry key entry).toJson = .object members ∧
      members.lookup "name" = some (.string (nameOf key)) ∧
      members.lookup "_meta" = some (.object [(publisherKey, .object (publisherBag entry))]) := by
  rcases ofEntry_members key entry with ⟨remote, members⟩ | members
  · refine ⟨_, members, rfl, ?_⟩
    simp [headMembers, lastMembers, List.lookup_cons]
  · refine ⟨_, members, rfl, ?_⟩
    cases upstream : entry.upstream? with
    | none => simp [headMembers, repositoryMembers, lastMembers, upstream, List.lookup_cons]
    | some url => simp [headMembers, repositoryMembers, lastMembers, upstream, List.lookup_cons]

end Server

namespace Seed

/-- A document whose resources hold no real numbers spells one tree, and so does the text of its
seed. For every entry that is taken in, the tree of the text has a descriptor under its name, with
an object that is read as all that the last member of the registry under its key provides, and
nothing else. -/
theorem encode_build_provided {document : List UInt8} {catalog : Catalog}
    (accepted : Catalog.decode document = .ok catalog)
    (unreal : ∀ pair ∈ catalog.registry.entries, (Json.object pair.2.resources).Unreal)
    (includeRemote : Bool) :
    ∃ (tree : ParseTree) (items : List Json),
      (∀ other : ParseTree, other.SpellsDocument document ↔ other = tree) ∧
      (∀ other : ParseTree, other.SpellsDocument
        (Utf8.encode (encode (build includeRemote catalog))) ↔ other = (Json.array items).tree) ∧
      ∀ key entry, (key, entry) ∈ catalog.registry.entries →
        includeRemote = true ∨ entry.isRemote = false →
        ∃ part members bag, Catalog.entryPart? key tree = some part ∧ .object members ∈ items ∧
          members.lookup "name" = some (.string (Server.nameOf key)) ∧
          members.lookup "_meta" = some (.object [(Server.publisherKey, .object bag)]) ∧
          (∀ nesting, (Json.object bag).depth ≤ nesting →
            (Json.object bag).tree.json? nesting = some (.object bag)) ∧
          Entry.Provided part entry bag := by
  have tidy := Catalog.decode_tidy accepted
  obtain ⟨datum, read, rfl⟩ := Catalog.decode_eq_ok.1 accepted
  obtain ⟨tree, spelled, outcome⟩ := read_unique read
  refine ⟨tree, (build includeRemote (Catalog.ofDatum datum)).map Server.toJson, spelled,
    fun _ => spells_encode, fun key entry held taken => ?_⟩
  obtain ⟨_, part, found, _, placed, origin, rfl⟩ := Catalog.entry_read outcome held
  obtain ⟨members, printed, name, provided⟩ := Server.ofEntry_provides key (Entry.ofDatum found)
  have emitted : Server.ofEntry key (Entry.ofDatum found) ∈
      build includeRemote (Catalog.ofDatum datum) := by
    have kept : (includeRemote || !(Entry.ofDatum found).isRemote) = true := by
      simpa using taken
    exact List.mem_map.2 ⟨(key, Entry.ofDatum found), List.mem_filter.2 ⟨held, kept⟩, rfl⟩
  have distinct := Server.publisherBag_tidy (tidy _ held)
  have whole := Server.publisherBag_unreal (unreal _ held)
  refine ⟨part, members, _, placed, printed ▸ List.mem_map_of_mem emitted, name, provided, ?_,
    Server.publisherBag_provided origin (unreal _ held)⟩
  intro levels shallow
  exact (Json.json?_tree_iff distinct levels).2 (Json.faithful_of_unreal whole shallow)

/-- An entry whose tool is written as an array, and whose resources have a key twice. -/
def repeatedResource : List UInt8 :=
  Utf8.encode ("\x7b\"registry\":\x7b\"k\":\x7b\"title\":null,\"tools\":[[\"t\"]]," ++
    "\"metadata\":\x7b\"pulls\":-9223372036854775808,\"stars\":1\x7d," ++
    "\"resources\":\x7b\"b\":\"x\",\"a\":\"\",\"b\":\"\\u0079\"\x7d\x7d\x7d\x7d")

theorem encode_build_provided_repeated :
    ∃ (catalog : Catalog) (tree : ParseTree), Catalog.decode repeatedResource = .ok catalog ∧
      tree.SpellsDocument repeatedResource ∧ ∀ pair ∈ catalog.registry.entries,
        ∃ part bag, Catalog.entryPart? pair.1 tree = some part ∧
          Entry.Provided part pair.2 bag := by
  have found : (Catalog.decode repeatedResource).toOption.any (fun catalog =>
      decide (∀ pair ∈ catalog.registry.entries, ∀ member ∈ pair.2.resources,
        member.2.asString?.isSome)) = true := by decide +kernel
  obtain ⟨catalog, accepted, texts⟩ := Catalog.exists_of_any_decode found
  have unreal : ∀ pair ∈ catalog.registry.entries, (Json.object pair.2.resources).Unreal :=
    fun pair held => Json.unreal_object.2 fun member inside =>
      Json.unreal_of_asString? (texts pair held member inside)
  obtain ⟨tree, items, spelled, _, each⟩ := encode_build_provided accepted unreal true
  refine ⟨catalog, tree, accepted, (spelled tree).2 rfl, fun pair held => ?_⟩
  obtain ⟨part, _, bag, placed, _, _, _, _, provided⟩ := each pair.1 pair.2 held (Or.inl rfl)
  exact ⟨part, bag, placed, provided⟩

end Seed

end CatalogSeed
