import Mathlib.Data.List.Nodup
import CatalogSeed.Proofs.ByteOrder
import CatalogSeed.Proofs.KeyMap
import CatalogSeed.Seed

/-!
The descriptors of a seed: one for each entry that is taken over, in the order of the keys.
-/

namespace CatalogSeed

namespace Server

theorem ofEntry_name (key : String) (entry : Entry) : (ofEntry key entry).name = nameOf key := by
  unfold ofEntry
  split <;> rfl

theorem ofEntry_remotes {entry : Entry} (own : entry.isRemote = false) (key : String) :
    (ofEntry key entry).remotes = [] := by
  simp only [ofEntry, own]
  rfl

theorem nameOf_injective {left right : String} (same : nameOf left = nameOf right) :
    left = right :=
  String.append_right_inj _ |>.1 same

theorem encode_nameOf_lt {left right : String} (less : Utf8.encode left < Utf8.encode right) :
    Utf8.encode (nameOf left) < Utf8.encode (nameOf right) := by
  have parts (key : String) : Utf8.encode (nameOf key) =
      Utf8.encode (registryNamespace ++ "/") ++ Utf8.encode key := by
    simp [nameOf, Utf8.encode]
  rw [parts, parts]
  exact List.append_left_lt less

end Server

namespace Seed

/-- The names of the servers that somebody else hosts. -/
def hostedNames (catalog : Catalog) : List String :=
  (catalog.registry.entries.filter fun (_, entry) => entry.type = remoteType).map
    fun (key, _) => Server.nameOf key

/-- A name is that of a hosted server exactly if the entry behind it is of that type: no other
entry shares the name. -/
theorem mem_hostedNames {catalog : Catalog} {key : String} {entry : Entry}
    (found : (key, entry) ∈ catalog.registry.entries) :
    Server.nameOf key ∈ hostedNames catalog ↔ entry.isRemote = true := by
  simp only [hostedNames, List.mem_map, List.mem_filter, decide_eq_true_eq, Entry.isRemote]
  constructor
  · rintro ⟨⟨other, hosted⟩, ⟨among, remote⟩, same⟩
    obtain rfl := Server.nameOf_injective same
    have first := KeyMap.lookup_of_mem catalog.registry.keys_nodup found
    have second := KeyMap.lookup_of_mem catalog.registry.keys_nodup among
    obtain rfl : entry = hosted := Option.some.inj (first.symm.trans second)
    exact remote
  · intro remote
    exact ⟨(key, entry), ⟨found, remote⟩, rfl⟩

theorem build_true (catalog : Catalog) :
    build true catalog =
      catalog.registry.entries.map fun (key, entry) => Server.ofEntry key entry := by
  have all : catalog.registry.entries.filter (fun _ => true) = catalog.registry.entries :=
    List.filter_eq_self.2 fun _ _ => rfl
  simp only [build, Bool.true_or, all]

theorem build_false (catalog : Catalog) :
    build false catalog =
      (build true catalog).filter fun server => server.name ∉ hostedNames catalog := by
  rw [build_true, List.filter_map]
  simp only [build, Bool.false_or]
  congr 1
  refine List.filter_congr fun (key, entry) found => ?_
  have hosted := mem_hostedNames found
  simp only [Function.comp, Server.ofEntry_name, hosted]
  cases entry.isRemote <;> rfl

theorem keys_increasing {α : Type} (map : KeyMap α) :
    map.keys.Pairwise fun left right => Utf8.encode left < Utf8.encode right :=
  List.pairwise_map.2 (map.ordered.imp Utf8.encode_lt)

theorem build_true_names (catalog : Catalog) :
    (build true catalog).map Server.name = catalog.registry.keys.map Server.nameOf := by
  rw [build_true, KeyMap.keys, List.map_map, List.map_map]
  exact List.map_congr_left fun entry _ => Server.ofEntry_name entry.1 entry.2

/-- With hosted servers there is one descriptor for each entry, and keys and names come in strictly
increasing order of their bytes. Without them, just the descriptors of entries of that type are
missing, and no descriptor that is left has a remote transport. -/
theorem build_in_order (catalog : Catalog) :
    build true catalog = catalog.registry.entries.map
        (fun (key, entry) => Server.ofEntry key entry) ∧
      (catalog.registry.keys.Pairwise fun left right => Utf8.encode left < Utf8.encode right) ∧
      ((build true catalog).map Server.name).Nodup ∧
      (((build true catalog).map Server.name).Pairwise
        fun left right => Utf8.encode left < Utf8.encode right) ∧
      (build false catalog =
        (build true catalog).filter fun server => server.name ∉ hostedNames catalog) ∧
      ∀ server ∈ build false catalog, server.remotes = [] ∧ server.isRemote = false := by
  have names : ((build true catalog).map Server.name).Pairwise
      fun left right => Utf8.encode left < Utf8.encode right := by
    rw [build_true_names]
    exact List.pairwise_map.2 ((keys_increasing catalog.registry).imp Server.encode_nameOf_lt)
  refine ⟨build_true catalog, keys_increasing catalog.registry, ?_, names, build_false catalog, ?_⟩
  · refine names.imp fun less same => ?_
    rw [same] at less
    exact List.lt_irrefl _ less
  · intro server taken
    obtain ⟨⟨key, entry⟩, kept, rfl⟩ := List.mem_map.1 taken
    have own : entry.isRemote = false := by simpa using (List.mem_filter.1 kept).2
    have remotes := Server.ofEntry_remotes own key
    exact ⟨remotes, by simp [Server.isRemote, remotes]⟩

/-! Entries that differ under one key. -/

/-- The descriptors without that of one key are those of the other entries. -/
theorem build_filter_name (includeRemote : Bool) (catalog : Catalog) (key : String) :
    (build includeRemote catalog).filter (fun server => server.name ≠ Server.nameOf key) =
      build includeRemote { catalog with registry := catalog.registry.erase key } := by
  have named (entry : String × Entry) :
      (Server.ofEntry entry.1 entry.2).name ≠ Server.nameOf key ↔ entry.1 ≠ key := by
    rw [Server.ofEntry_name]
    exact not_congr ⟨Server.nameOf_injective, congrArg Server.nameOf⟩
  simp only [build, KeyMap.erase, List.filter_map, List.filter_filter]
  refine congrArg _ (List.filter_congr fun entry _ => ?_)
  simp only [Function.comp, named, Bool.and_comm]

theorem build_names_nodup (includeRemote : Bool) (catalog : Catalog) :
    ((build includeRemote catalog).map Server.name).Nodup := by
  have names : (build includeRemote catalog).map Server.name =
      ((catalog.registry.entries.filter fun (_, entry) => includeRemote || !entry.isRemote).map
        Prod.fst).map Server.nameOf := by
    rw [build, List.map_map, List.map_map]
    exact List.map_congr_left fun (key, entry) _ => Server.ofEntry_name key entry
  rw [names]
  refine List.Nodup.map (fun _ _ => Server.nameOf_injective) ?_
  exact catalog.registry.keys_nodup.sublist (List.filter_sublist.map _)

/-- Two catalogs that have the same entries under all keys but one have the same descriptors but
for that of this key, of which there is at most one in each. -/
theorem build_isolated {first second : Catalog} {key : String}
    (agree : ∀ other, other ≠ key → first.get? other = second.get? other) (includeRemote : Bool) :
    (∀ catalog ∈ [first, second],
        ((build includeRemote catalog).filter fun server =>
          server.name = Server.nameOf key).length ≤ 1) ∧
      ((build includeRemote first).filter fun server => server.name ≠ Server.nameOf key) =
        (build includeRemote second).filter fun server => server.name ≠ Server.nameOf key := by
  constructor
  · intro catalog _
    have distinct := build_names_nodup includeRemote catalog
    have once := List.nodup_iff_count_le_one.1 distinct (Server.nameOf key)
    rwa [List.count_eq_countP, List.countP_map, List.countP_eq_length_filter] at once
  · have others : first.registry.erase key = second.registry.erase key :=
      KeyMap.erase_eq agree
    rw [build_filter_name, build_filter_name]
    simp only [build, others]

/-- Of two catalogs the first one has a hosted server under the key, the second one nothing. -/
theorem build_isolated_hosted :
    let plain := Entry.ofMembers []
    let hosted := { Entry.ofMembers [] with
      type := remoteType
      config := [⟨"a", "", "", [("b", .null)], []⟩] }
    let first : Catalog := ⟨"n", "", (KeyMap.empty.insert "a" plain).insert "k" hosted⟩
    let second : Catalog := ⟨"", "", KeyMap.empty.insert "a" plain⟩
    ((build true first).filter fun server => server.name ≠ Server.nameOf "k") =
      (build true second).filter fun server => server.name ≠ Server.nameOf "k" := by
  intro plain hosted first second
  refine (build_isolated (fun other different => ?_) true).2
  simp only [Catalog.get?, first, KeyMap.get?_insert, if_neg different, second]

end Seed

end CatalogSeed
