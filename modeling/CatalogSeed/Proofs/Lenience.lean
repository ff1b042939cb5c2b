import CatalogSeed.Proofs.Acceptance
import CatalogSeed.Proofs.Document.Changing
import CatalogSeed.Proofs.Document.Unambiguous

/-!
Catalogs do not depend on members that nobody asked for, nor on those that are null.
-/

namespace CatalogSeed.Catalog

open Document ParseTree

/-- A document that is accepted spells one tree. Put a null under a known key that is missing, or
anything under a key that is not known, into an object of it that is read as a record, or take such
a member away, and every document of the changed tree is the same catalog. -/
theorem decode_changed {document : List UInt8} {catalog : Catalog}
    (accepted : decode document = .ok catalog) :
    ∃ tree : ParseTree, (∀ other : ParseTree, other.SpellsDocument document ↔ other = tree) ∧
      ∀ other, Changed Inserted kind tree other ∨ Changed Deleted kind tree other →
        ∀ changed, other.SpellsDocument changed → decode changed = .ok catalog := by
  obtain ⟨found, read, rfl⟩ := decode_eq_ok.1 accepted
  obtain ⟨tree, spelled, outcome⟩ := read_unique read
  refine ⟨tree, spelled, fun other change changed spells => ?_⟩
  have kept : other.datum? nestingLimit kind = some found := by
    rcases change with inserted | deleted
    · exact inserted.datum? harmless_inserted kind_lenient outcome
    · exact deleted.datum? harmless_deleted kind_lenient outcome
  refine decode_eq_ok.2 ⟨found, ?_, rfl⟩
  rw [← toOption_eq_some, read_document kind spells, kept]

/-- Lists in one another. -/
def lists : Nat → Json
  | 0 => .array []
  | depth + 1 => .array [lists depth]

/-- A catalog of one entry with one tool. -/
def singleTool (members : Bag) : Json :=
  .object [("registry", .object [("k", .object [("tools", .array [.object members])])])]

/-- A tool that also has more lists in one another than may be read. -/
theorem decode_changed_deep :
    ∃ catalog, decode (Utf8.bytes ((singleTool [("name", .string "t")]).pretty 0)) = .ok catalog ∧
      decode (Utf8.bytes ((singleTool [("x", lists 200), ("name", .string "t")]).pretty 0)) =
        .ok catalog := by
  have found : (decode (Utf8.bytes ((singleTool [("name", .string "t")]).pretty 0))).toOption.isSome
      = true := by decide +kernel
  obtain ⟨catalog, accepted⟩ := exists_of_isSome_decode found
  refine ⟨catalog, accepted, ?_⟩
  obtain ⟨tree, spelled, kept⟩ := decode_changed accepted
  have document (json : Json) : json.tree.SpellsDocument (Utf8.bytes (json.pretty 0)) :=
    ⟨[], _, [], Blank.nil, json.pretty_spells 0, Blank.nil, by simp⟩
  obtain rfl := (spelled _).1 (document _)
  refine kept _ (Or.inl ?_) _ (document _)
  have unknown : Inserted [lenient "name" .text] (Json.memberTrees [("name", .string "t")])
      (Json.memberTrees [("x", lists 200), ("name", .string "t")]) :=
    ⟨[], _, _, "x", _, rfl, rfl, Json.text?_written "x", Or.inl rfl⟩
  have step {known : List (Member Kind)} {field : Member Kind} {key : String}
      (found : field? known key = some field) :
      (text? (Json.written key)).bind (field? known) = some field := by
    rw [Json.text?_written]
    exact found
  -- From the registry to its entry, and from there to the only one of its tools.
  exact @Changed.member _ "DockerCatalog" _ (lenient "registry" (.table Entry.kind)) _ _ _ [] []
    (step rfl) (.entry [] [] (@Changed.member _ "CatalogEntry" _
      (lenient "tools" (.list Tool.kind)) _ _ _ [] [] (step rfl) (.item [] [] (.here unknown))))

end CatalogSeed.Catalog
