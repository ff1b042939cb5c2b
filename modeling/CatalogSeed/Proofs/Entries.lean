import CatalogSeed.Proofs.Acceptance
import CatalogSeed.Proofs.Document.Parts
import CatalogSeed.Proofs.Document.Tidy
import CatalogSeed.Proofs.Document.Unambiguous

/-!
The entries of a catalog that was read, and the open objects in them: each is read of the last
member under its key, and leaves the levels that are around it in the document.
-/

namespace CatalogSeed

open Document ParseTree

namespace Document.ParseTree

/-- An open object without a repeated key, whose values leave so many levels. -/
def KeptBag (bag : Bag) (levels : Nat) : Prop :=
  (Json.object bag).Tidy ∧ ∀ member ∈ bag, member.2.depth ≤ levels

theorem keptBag_nil (levels : Nat) : KeptBag [] levels :=
  ⟨Json.tidy_object.2 (by simp), nofun⟩

theorem bag_kept {nesting : Nat} {part : Option ParseTree} {found : Option Datum}
    (read : ReadPart nesting .bag part found) : KeptBag (Datum.asBag found) (nesting - 1) := by
  cases read with
  | none => exact keptBag_nil _
  | @some tree datum outcome =>
      obtain ⟨inner, rfl, inside⟩ := bracketed?_of_datum? outcome (by simp) fun _ => rfl
      cases tree with
      | object members =>
          obtain ⟨bag, gathered, rfl⟩ := Option.map_eq_some_iff.1 inside
          have opened : json? (inner + 1) (.object members) = some (.object bag) :=
            Option.map_eq_some_iff.2 ⟨bag, gathered, rfl⟩
          obtain ⟨tidy, shallow⟩ := json?_kept opened
          exact ⟨tidy, Json.depth_object_le.1 shallow⟩
      | _ => contradiction

end Document.ParseTree

/-- The open objects of an entry are kept in full within so many levels around the entry. -/
structure Entry.Kept (levels : Nat) (entry : Entry) : Prop where
  resources : KeptBag entry.resources (levels - 2)
  config : ∀ block ∈ entry.config, KeptBag block.properties (levels - 4)

theorem ConfigBlock.properties_kept {nesting : Nat} {tree : ParseTree} {found : Datum}
    (read : datum? nesting kind tree = some found) :
    KeptBag (ofDatum found).properties (nesting - 2) := by
  obtain ⟨inner, f, rfl, rfl, each⟩ := record_parts (by decide) (by decide) read
  exact bag_kept (each (lenient "properties" .bag) (by simp))

theorem ConfigBlock.list_kept {nesting : Nat} {part : Option ParseTree} {found : Option Datum}
    (read : ReadPart nesting (.list kind) part found) :
    ∀ block ∈ Datum.asList ofDatum found, KeptBag block.properties (nesting - 3) := by
  intro block among
  cases read with
  | none => contradiction
  | some outcome =>
      obtain ⟨inner, items, values, rfl, _, rfl, along⟩ := list_parts outcome
      obtain ⟨value, inside, rfl⟩ := List.mem_map.1 among
      obtain ⟨item, _, taken⟩ := mem_of_forall₂ along inside
      exact properties_kept taken

theorem Entry.ofDatum_kept {nesting : Nat} {tree : ParseTree} {found : Datum}
    (read : datum? nesting kind tree = some found) : (ofDatum found).Kept nesting := by
  obtain ⟨inner, f, rfl, rfl, each⟩ := record_parts (by decide) (by decide) read
  have resources := each (lenient "resources" .bag) (by simp)
  have config := each (lenient "config" (.list ConfigBlock.kind)) (by simp)
  exact ⟨bag_kept resources, ConfigBlock.list_kept config⟩

namespace Catalog

/-- What an entry is read of: the last member of the registry under its key. -/
def entryPart? (key : String) (tree : ParseTree) : Option ParseTree :=
  (part? "registry" kind tree).bind (last? key)

/-- Entries stand two levels within the catalog. -/
theorem entry_read {nesting : Nat} {tree : ParseTree} {datum : Datum}
    (read : datum? nesting kind tree = some datum) {key : String} {entry : Entry}
    (held : (key, entry) ∈ (ofDatum datum).registry.entries) :
    ∃ (inner : Nat) (part : ParseTree) (found : Datum), nesting = inner + 2 ∧
      entryPart? key tree = some part ∧ datum? inner Entry.kind part = some found ∧
      Entry.ofDatum found = entry := by
  obtain ⟨inner, f, rfl, rfl, each⟩ := record_parts (by decide) (by decide) read
  have registry : ReadPart inner (.table Entry.kind) (part? "registry" kind tree) (f "registry") :=
    each (lenient "registry" (.table Entry.kind)) (by simp)
  have stored : (Datum.asTable Entry.ofDatum (f "registry")).get? key = some entry :=
    KeyMap.mem_entries_iff.1 held
  unfold entryPart?
  generalize part? "registry" kind tree = part at registry ⊢
  generalize f "registry" = value at registry stored
  cases registry with
  | none => contradiction
  | some outcome =>
      obtain ⟨deeper, part, found, rfl, last, taken, same⟩ := table_part outcome stored
      exact ⟨deeper, part, found, rfl, last, taken, same⟩

theorem decode_kept {document : List UInt8} {catalog : Catalog}
    (accepted : decode document = .ok catalog) :
    ∀ pair ∈ catalog.registry.entries, pair.2.Kept (nestingLimit - 2) := by
  obtain ⟨datum, read, rfl⟩ := decode_eq_ok.1 accepted
  obtain ⟨tree, _, outcome⟩ := read_unique read
  rintro ⟨key, entry⟩ held
  obtain ⟨inner, part, found, levels, _, origin, rfl⟩ := entry_read outcome held
  rw [levels]
  exact Entry.ofDatum_kept origin

/-- The resources of all entries that come from a document are tidy. -/
theorem decode_tidy {document : List UInt8} {catalog : Catalog}
    (accepted : decode document = .ok catalog) :
    ∀ pair ∈ catalog.registry.entries, (Json.object pair.2.resources).Tidy := by
  intro pair held
  exact (decode_kept accepted pair held).resources.1

end Catalog

end CatalogSeed
