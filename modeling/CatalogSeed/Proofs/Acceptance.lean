import CatalogSeed.Proofs.Document.Conforming
import CatalogSeed.Proofs.Document.Printing
import CatalogSeed.Proofs.Document.Truncation
import CatalogSeed.Source

/-!
Which documents are taken for catalogs: those of the trees that conform, and never a part of one.
-/

namespace CatalogSeed

open Document ParseTree

namespace Catalog

/-- Every member of a catalog, an entry and their parts may be left out or null. -/
theorem kind_lenient : Lenient kind := by
  simp [kind, Entry.kind, Tool.kind, Metadata.kind, Secret.kind, EnvVar.kind, ConfigBlock.kind,
    Remote.kind, OAuth.kind, OAuthProvider.kind, lenient]

theorem decode_eq_ok {document : List UInt8} {catalog : Catalog} :
    decode document = .ok catalog ↔
      ∃ found, read kind document = .ok found ∧ ofDatum found = catalog := by
  simp only [decode, ← toOption_eq_some, toOption_map, Option.map_eq_some_iff]

theorem exists_of_any_decode {document : List UInt8} {P : Catalog → Prop} [DecidablePred P]
    (found : (decode document).toOption.any (fun catalog => decide (P catalog)) = true) :
    ∃ catalog, decode document = .ok catalog ∧ P catalog := by
  obtain ⟨catalog, accepted, property⟩ := (Option.any_eq_true _ _).1 found
  exact ⟨catalog, toOption_eq_some.1 accepted, of_decide_eq_true property⟩

theorem exists_of_isSome_decode {document : List UInt8}
    (found : (decode document).toOption.isSome = true) :
    ∃ catalog, decode document = .ok catalog := by
  obtain ⟨catalog, accepted⟩ := Option.isSome_iff_exists.1 found
  exact ⟨catalog, toOption_eq_some.1 accepted⟩

/-- A document is taken for a catalog exactly if its tree conforms to the kind of catalogs. -/
theorem decode_iff_conforms {tree : ParseTree} (readable : tree.Readable)
    (shallow : tree.depth ≤ nestingLimit) {document : List UInt8}
    (spells : tree.SpellsDocument document) :
    (∃ catalog, decode document = .ok catalog) ↔ tree.Conforms kind := by
  have outcome := read_document kind spells
  rw [← isSome_datum? kind_lenient readable shallow, ← outcome]
  simp only [decode, ← toOption_eq_some, toOption_map, ← Option.isSome_iff_exists,
    Option.isSome_map]

/-- An entry that is written as an array and holds a null. -/
def positionalEntry : Json :=
  .object [("registry", .object [("k", .array [.null, .string "t"])])]

theorem decode_iff_conforms_positional :
    (∃ catalog, decode ([0x0A] ++ (Utf8.bytes (positionalEntry.pretty 0) ++ [])) = .ok catalog) ∧
      positionalEntry.tree.Conforms kind := by
  have readable : positionalEntry.tree.Readable := by
    have spelled (text : String) : (text? (Json.written text)).isSome := by
      simp [Json.text?_written]
    refine .object (List.forall_mem_singleton.2 (spelled "registry")) ?_
    refine List.forall_mem_singleton.2 (.object (List.forall_mem_singleton.2 (spelled "k")) ?_)
    refine List.forall_mem_singleton.2 (.array (List.forall_mem_cons.2 ⟨.null, ?_⟩))
    exact List.forall_mem_singleton.2 (.string (spelled "t"))
  have blank : Blank [0x0A] := by simp [Blank, isBlank]
  have taken : ∃ catalog, decode ([0x0A] ++ (Utf8.bytes (positionalEntry.pretty 0) ++ [])) =
      .ok catalog := exists_of_isSome_decode (by decide +kernel)
  exact ⟨taken, (decode_iff_conforms readable (by decide)
    ⟨[0x0A], _, [], blank, positionalEntry.pretty_spells 0, Blank.nil, rfl⟩).1 taken⟩

/-- No beginning of a document that leaves out more than blanks is taken for a catalog as well. -/
theorem decode_beginning {start rest : List UInt8} {catalog : Catalog}
    (accepted : decode (start ++ rest) = .ok catalog)
    (missing : ∃ b ∈ rest, b ∉ [0x20, 0x0A, 0x09, 0x0D]) :
    ∃ error, decode start = .error error ∧
      ∀ source environment tree, (Source.document source environment tree).1 = .ok start →
        (Source.load source environment tree).1 = .error (.document error) := by
  cases outcome : decode start with
  | ok found =>
      obtain ⟨part, first, _⟩ := decode_eq_ok.1 outcome
      obtain ⟨whole, second, _⟩ := decode_eq_ok.1 accepted
      obtain ⟨b, among, visible⟩ := missing
      have blank := blank_of_read (by simp [kind]) first second b among
      exact absurd blank (by simpa [isBlank, or_assoc] using visible)
  | error error =>
      refine ⟨error, rfl, fun source environment tree given => ?_⟩
      simp only [Source.load, given, Except.bind, outcome]
      rfl

/-- A document and its beginning up to the middle of a number. -/
theorem decode_beginning_number :
    (∃ catalog, decode (Utf8.encode "\x7b\"registry\":\x7b\"é\":\x7b\"prompts\":1" ++
        Utf8.encode "2\x7d\x7d\x7d\n") = .ok catalog) ∧
      ∃ error, decode (Utf8.encode "\x7b\"registry\":\x7b\"é\":\x7b\"prompts\":1") =
        .error error := by
  have found : (decode (Utf8.encode "\x7b\"registry\":\x7b\"é\":\x7b\"prompts\":1" ++
      Utf8.encode "2\x7d\x7d\x7d\n")).toOption.isSome = true := by decide +kernel
  obtain ⟨catalog, accepted⟩ := exists_of_isSome_decode found
  obtain ⟨error, refused, _⟩ := decode_beginning accepted ⟨0x7D, by decide +kernel, by decide⟩
  exact ⟨⟨catalog, accepted⟩, error, refused⟩

end Catalog

end CatalogSeed
