import CatalogSeed.Proofs.Entries
import CatalogSeed.Proofs.Seed

/-!
From the document of a catalog to the text of its seed and back. The resources of an entry are
moved one level deeper than they stood, and their numbers are printed anew.
-/

namespace CatalogSeed

open Document

namespace Server

theorem ofEntry_attributes (key : String) (entry : Entry) :
    (Server.ofEntry key entry).attributes = [(publisherKey, .object (publisherBag entry))] := by
  unfold Server.ofEntry
  split <;> rfl

/-- A property of integers, texts, tags and tools holds of all that is passed on of an entry exactly
if it holds of the resources. -/
theorem forall_publisherBag {P : Json → Prop} {entry : Entry} (int : ∀ n, P (.int n))
    (string : ∀ text, P (.string text)) (tags : P (.strings entry.metadata.tags))
    (tools : P (.array (entry.tools.map Tool.toJson))) :
    (∀ member ∈ publisherBag entry, P member.2) ↔ P (.object entry.resources) := by
  simp only [publisherBag, List.forall_mem_append, List.forall_mem_cons, int, string, tags, tools,
    true_and, List.not_mem_nil, false_imp_iff, implies_true, and_true]
  split
  next => simp [int]
  next => simp

theorem publisherBag_tidy {entry : Entry} (tidy : (Json.object entry.resources).Tidy) :
    (Json.object (publisherBag entry)).Tidy := by
  refine Json.tidy_object.2 ⟨?_, ?_⟩
  · rw [publisherBag]
    split <;> simp
  · exact (@forall_publisherBag Json.Tidy entry (fun _ => Json.tidy_number _) Json.tidy_string
      (by simp [Json.strings]) (by simp [Tool.toJson])).2 tidy

theorem publisherBag_unreal {entry : Entry} (unreal : (Json.object entry.resources).Unreal) :
    (Json.object (publisherBag entry)).Unreal :=
  Json.unreal_object.2 <| (@forall_publisherBag Json.Unreal entry (fun _ => Json.unreal_whole _)
    Json.unreal_string (by simp [Json.strings]) (by simp [Tool.toJson])).2 unreal

/-- Of all that is passed on of an entry only its resources can be too deep or unstable. -/
theorem publisherBag_faithful (entry : Entry) (bound : Nat) :
    (∀ member ∈ publisherBag entry, member.2.Faithful (bound + 3)) ↔
      ∀ member ∈ entry.resources, member.2.Faithful (bound + 2) := by
  have string {bound : Nat} (text : String) : (Json.string text).Faithful bound :=
    Json.faithful_of_unreal (Json.unreal_string text) (Nat.zero_le _)
  refine Iff.trans (@forall_publisherBag (Json.Faithful (bound + 3)) entry ?_ string ?_ ?_)
    Json.faithful_object
  · exact fun n => Json.faithful_of_unreal (Json.unreal_whole _) (Nat.zero_le _)
  · exact Json.faithful_array.2 (by simp [string])
  · refine Json.faithful_array.2 ?_
    simp only [List.forall_mem_map, Tool.toJson, Json.faithful_object, List.forall_mem_singleton,
      string, implies_true]

end Server

namespace Seed

open ParseTree

variable {catalog : Catalog}

theorem build_tidy (tidy : ∀ pair ∈ catalog.registry.entries, (Json.object pair.2.resources).Tidy)
    (includeRemote : Bool) :
    ∀ server ∈ build includeRemote catalog, (Json.object server.attributes).Tidy := by
  intro server found
  obtain ⟨pair, among, rfl⟩ := List.mem_map.1 found
  rw [Server.ofEntry_attributes, Json.tidy_object]
  have kept := Server.publisherBag_tidy (tidy pair (List.mem_filter.1 among).1)
  simpa using kept

/-- The resources of the entries that are taken over can be read from where a seed puts them. -/
def Kept (includeRemote : Bool) (catalog : Catalog) : Prop :=
  ∀ pair ∈ catalog.registry.entries, (includeRemote || !pair.2.isRemote) = true →
    ∀ member ∈ pair.2.resources, member.2.Faithful 122

instance (includeRemote : Bool) (catalog : Catalog) : Decidable (Kept includeRemote catalog) :=
  inferInstanceAs (Decidable (∀ _ ∈ _, _ → _))

theorem comesBack_build
    (tidy : ∀ pair ∈ catalog.registry.entries, (Json.object pair.2.resources).Tidy)
    (includeRemote : Bool) :
    ComesBack (build includeRemote catalog) ↔ Kept includeRemote catalog := by
  have placed := build_tidy tidy includeRemote
  rw [comesBack_iff_decode_encode placed, decode_encode_iff placed, build, List.forall_mem_map]
  simp only [List.mem_filter, and_imp, Server.ofEntry_attributes, List.forall_mem_singleton]
  refine forall_congr' fun pair => forall₂_congr fun _ _ => ?_
  -- The publisher's object and that of the resources each take one of the 124 levels.
  exact Json.faithful_object.trans (Server.publisherBag_faithful pair.2 120)

/-- What is built from a catalog that was read comes back exactly if no value in the resources of
its entries nests deeper than 122 levels and their numbers are read as themselves; then nothing of
it has changed. -/
theorem build_comesBack_iff {document : List UInt8}
    (accepted : Catalog.decode document = .ok catalog) (includeRemote : Bool) :
    (ComesBack (build includeRemote catalog) ↔
        ∀ key entry, (key, entry) ∈ catalog.registry.entries →
          includeRemote = true ∨ entry.isRemote = false →
          ∀ member ∈ entry.resources, member.2.depth ≤ 122 ∧ member.2.Stable) ∧
      (ComesBack (build includeRemote catalog) →
        decode (Utf8.encode (encode (build includeRemote catalog))) =
          .ok (build includeRemote catalog)) := by
  have tidy := Catalog.decode_tidy accepted
  refine ⟨?_, (comesBack_iff_decode_encode (build_tidy tidy includeRemote)).1⟩
  rw [comesBack_build tidy]
  simp only [Kept, Prod.forall, Bool.or_eq_true, Bool.not_eq_eq_eq_not, Bool.not_true]
  exact Iff.rfl

/-- The document of a catalog with one entry and one value in its resources. -/
def withResource (value : List Char) : List UInt8 :=
  Utf8.encode ("\x7b\"registry\":\x7b\"k\":\x7b\"resources\":\x7b\"a\":" ++
    String.ofList value ++ "\x7d\x7d\x7d\x7d")

/-- As many lists in one another. -/
def nested (count : Nat) : List Char :=
  List.replicate count '[' ++ List.replicate count ']'

/-- Two catalogs that are read and whose seeds do not come back: a list is refused one level below
the deepest one that is read, and the text of a number is read as another number. -/
theorem build_comesBack_fails :
    (∃ catalog, Catalog.decode (withResource (nested 123)) = .ok catalog ∧
        ∀ includeRemote, ¬ ComesBack (build includeRemote catalog)) ∧
      ∃ catalog, Catalog.decode (withResource "1e-24".toList) = .ok catalog ∧
        ∀ includeRemote, ¬ ComesBack (build includeRemote catalog) := by
  have lost {value : List Char} (found : (Catalog.decode (withResource value)).toOption.any
      (fun catalog => decide (∀ includeRemote, ¬ Kept includeRemote catalog)) = true) :
      ∃ catalog, Catalog.decode (withResource value) = .ok catalog ∧
        ∀ includeRemote, ¬ ComesBack (build includeRemote catalog) := by
    obtain ⟨catalog, accepted, lost⟩ := Catalog.exists_of_any_decode found
    refine ⟨catalog, accepted, fun includeRemote => ?_⟩
    rw [comesBack_build (Catalog.decode_tidy accepted)]
    exact lost includeRemote
  exact ⟨lost (by decide +kernel), lost (by decide +kernel)⟩

theorem build_comesBack_nested :
    ∃ catalog, Catalog.decode (withResource (nested 122)) = .ok catalog ∧
      ComesBack (build false catalog) := by
  have found : (Catalog.decode (withResource (nested 122))).toOption.any
      (fun catalog => decide (Kept false catalog)) = true := by decide +kernel
  obtain ⟨catalog, accepted, kept⟩ := Catalog.exists_of_any_decode found
  refine ⟨catalog, accepted, (build_comesBack_iff accepted false).1.2 ?_⟩
  intro key entry among taken
  exact kept (key, entry) among (by simpa using taken)

end Seed

end CatalogSeed
