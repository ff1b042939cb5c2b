import CatalogSeed.Proofs.Document.Unambiguous
import CatalogSeed.Proofs.Registry
import CatalogSeed.Seed

/-!
Seeds that were printed, as they are read again.
-/

namespace CatalogSeed.Seed

open Document ParseTree

/-- The levels that a list, its descriptors and their attributes leave to a value there. -/
def attributeNesting : Nat := nestingLimit - 3

variable {servers : List Server}

/-- The text of a seed spells the tree that was printed, and no other. -/
theorem spells_encode {tree : ParseTree} :
    tree.SpellsDocument (Utf8.encode (encode servers)) ↔ tree = (toJson servers).tree := by
  have spells : (toJson servers).tree.SpellsDocument (Utf8.encode (encode servers)) :=
    ⟨[], _, [], Blank.nil, (toJson servers).pretty_spells 0, Blank.nil, by
      rw [encode, Utf8.encode_ofList, List.nil_append, List.append_nil]⟩
  exact spells.iff_eq tree

/-- The text of a seed is read descriptor by descriptor, and nothing but the values of open
attributes can change. -/
theorem decode_encode
    (tidy : ∀ server ∈ servers, (Json.object server.attributes).Tidy) :
    (decode (Utf8.encode (encode servers))).toOption =
      servers.mapM fun server =>
        (Server.readMembers attributeNesting server.attributes).map fun attributes =>
          { server with attributes } := by
  have read := read_spelled (.list Server.kind) Blank.nil ((toJson servers).pretty_spells 0)
    Blank.nil
  rw [List.nil_append, List.append_nil] at read
  have items (found : Option (List Datum)) :
      (found.map Datum.list).map (fun servers => Datum.asList Server.ofDatum (some servers)) =
        found.map (List.map Server.ofDatum) := by
    cases found <;> rfl
  rw [decode, encode, Utf8.encode_ofList, toOption_map, read, toJson, Json.tree,
    Json.itemTrees_eq_map, show nestingLimit = 126 + 1 from rfl, datum?_succ (by simp),
    bracketed?, items, List.mapM_map, List.mapM_map, mapM_map_some]
  -- The list has taken one of the 127 levels.
  exact mapM_congr fun server among =>
    @Server.datum?_tree 118 server (Json.tidy_object.1 (tidy server among)).1

theorem readMembers_iff {nesting : Nat} {attributes : Bag}
    (tidy : (Json.object attributes).Tidy) :
    Server.readMembers nesting attributes = some attributes ↔
      ∀ member ∈ attributes, member.2.Faithful nesting := by
  rw [Server.readMembers, mapM_eq_self]
  refine forall₂_congr fun member among => ?_
  rw [← Json.json?_tree_iff ((Json.tidy_object.1 tidy).2 member among)]
  simp [Prod.ext_iff]

/-- A seed is read back as itself exactly if the values of open attributes nest no deeper than the
reader allows there and their numbers are read as themselves. -/
theorem decode_encode_iff
    (tidy : ∀ server ∈ servers, (Json.object server.attributes).Tidy) :
    decode (Utf8.encode (encode servers)) = .ok servers ↔
      ∀ server ∈ servers, ∀ member ∈ server.attributes,
        member.2.Faithful attributeNesting := by
  rw [← toOption_eq_some, decode_encode tidy, mapM_eq_self]
  refine forall₂_congr fun server among => ?_
  rw [← readMembers_iff (tidy server among)]
  cases Server.readMembers attributeNesting server.attributes with
  | none => simp
  | some attributes =>
      simp only [Option.map_some, Option.some.injEq]
      constructor
      · exact congrArg Server.attributes
      · rintro rfl
        rfl

theorem attributes_eq_of_same {attributes found : Bag} (tidy : (Json.object attributes).Tidy)
    {nesting : Nat} (restored : Server.readMembers nesting attributes = some found)
    (same : Bag.same found attributes = true) : found = attributes := by
  have read : (Json.object attributes).tree.json? (nesting + 1) = some (.object found) := by
    simp only [Json.tree, json?, Json.json?_members (Json.tidy_object.1 tidy).1]
    exact congrArg (Option.map Json.object) restored
  exact Json.object.inj (Json.eq_of_same tidy read same)

theorem sameAll_cons (left right : Server) (lefts rights : List Server) :
    Server.sameAll (left :: lefts) (right :: rights) =
      (left.same right && Server.sameAll lefts rights) := by
  simp [Server.sameAll, Bool.and_left_comm]

theorem sameAll_self (tidy : ∀ server ∈ servers, (Json.object server.attributes).Tidy) :
    Server.sameAll servers servers = true := by
  induction servers with
  | nil => rfl
  | cons server servers ih =>
      obtain ⟨first, later⟩ := List.forall_mem_cons.1 tidy
      have same : Bag.same server.attributes server.attributes = true := Json.same_self first
      rw [sameAll_cons, ih later, Bool.and_true]
      simp [Server.same, same]

theorem servers_eq_of_same {found : List Server}
    (tidy : ∀ server ∈ servers, (Json.object server.attributes).Tidy) {nesting : Nat}
    (restored : (servers.mapM fun server =>
      (Server.readMembers nesting server.attributes).map fun attributes =>
        { server with attributes }) = some found)
    (same : Server.sameAll found servers = true) : found = servers := by
  induction servers generalizing found with
  | nil => simpa [eq_comm] using restored
  | cons server servers ih =>
      obtain ⟨first, later⟩ := List.forall_mem_cons.1 tidy
      simp only [List.mapM_cons, Option.bind_eq_bind, Option.bind_eq_some_iff, Option.pure_def,
        Option.some.injEq, Option.map_eq_some_iff] at restored
      obtain ⟨_, ⟨attributes, read, rfl⟩, others, onwards, rfl⟩ := restored
      rw [sameAll_cons, Bool.and_eq_true] at same
      have kept : Bag.same attributes server.attributes = true := by
        simpa [Server.same] using same.1
      rw [attributes_eq_of_same first read kept, ih later onwards same.2]

/-- Its text is read as the same descriptors, whatever the order of members. -/
def ComesBack (servers : List Server) : Prop :=
  ∃ found, decode (Utf8.encode (encode servers)) = .ok found ∧
    Server.sameAll found servers = true

/-- A seed that comes back comes back as it was, also in the order of its members. -/
theorem comesBack_iff_decode_encode
    (tidy : ∀ server ∈ servers, (Json.object server.attributes).Tidy) :
    ComesBack servers ↔ decode (Utf8.encode (encode servers)) = .ok servers := by
  refine ⟨fun ⟨found, restored, same⟩ => ?_,
    fun restored => ⟨servers, restored, sameAll_self tidy⟩⟩
  have outcome := decode_encode tidy
  rw [restored, toOption_ok] at outcome
  rw [restored, servers_eq_of_same tidy outcome.symm same]

/-- Without real numbers a seed is read again exactly if no value of open attributes nests too
deep, and then it is the same seed, also in the order of its members. -/
theorem decode_encode_unreal
    (tidy : ∀ server ∈ servers, (Json.object server.attributes).Tidy)
    (unreal : ∀ server ∈ servers, (Json.object server.attributes).Unreal) :
    ((∃ found, decode (Utf8.encode (encode servers)) = .ok found) ↔
        ∀ server ∈ servers, ∀ member ∈ server.attributes, member.2.depth ≤ 124) ∧
      ∀ found, decode (Utf8.encode (encode servers)) = .ok found →
        found = servers ∧ encode found = encode servers := by
  have same (shallow : ∀ server ∈ servers, ∀ member ∈ server.attributes, member.2.depth ≤ 124) :
      decode (Utf8.encode (encode servers)) = .ok servers := by
    refine (decode_encode_iff tidy).2 fun server among member inside => ?_
    have part : member.2.Unreal := Json.unreal_object.1 (unreal server among) member inside
    exact Json.faithful_of_unreal part (shallow server among member inside)
  have shallow {found : List Server}
      (restored : decode (Utf8.encode (encode servers)) = .ok found) :
      ∀ server ∈ servers, ∀ member ∈ server.attributes, member.2.depth ≤ 124 := by
    intro server among member inside
    refine Nat.le_of_not_lt fun deep => ?_
    have refused : member.2.tree.json? attributeNesting = none :=
      Json.json?_tree_deep ((Json.tidy_object.1 (tidy server among)).2 member inside) deep
    have unread : Server.readMembers attributeNesting server.attributes = none :=
      mapM_eq_none inside (by rw [refused]; rfl)
    have outcome := decode_encode tidy
    rw [mapM_eq_none among (by rw [unread]; rfl), restored] at outcome
    contradiction
  refine ⟨⟨fun ⟨_, restored⟩ => shallow restored, fun deep => ⟨servers, same deep⟩⟩, ?_⟩
  intro found restored
  obtain rfl : servers = found := Except.ok.inj ((same (shallow restored)).symm.trans restored)
  exact ⟨rfl, rfl⟩

/-- A descriptor whose attributes are not in the order of their keys. -/
def orderedAsGiven : Server :=
  { Server.new "com.docker.mcp/sample" "" with
    remotes := [⟨"sse", none, [.new "X-Key" "{key}" .empty]⟩]
    attributes := [
      ("b", .object [("z", .array [.null, .bool true, .array []]), ("a", .string "\"\n")]),
      ("a", .int (-1))] }

theorem decode_encode_orderedAsGiven :
    decode (Utf8.encode (encode [orderedAsGiven])) = .ok [orderedAsGiven] := by
  have tidy : ∀ server ∈ [orderedAsGiven], (Json.object server.attributes).Tidy := by
    simp only [List.forall_mem_cons, orderedAsGiven, Json.tidy_object, Json.tidy_array, Json.int]
    simp
  have unreal : ∀ server ∈ [orderedAsGiven], (Json.object server.attributes).Unreal := by
    simp only [List.forall_mem_cons, orderedAsGiven, Json.unreal_object, Json.unreal_array,
      Json.int]
    simp
  obtain ⟨accepted, same⟩ := decode_encode_unreal tidy unreal
  obtain ⟨found, restored⟩ := accepted.2 (by decide)
  obtain ⟨rfl, _⟩ := same found restored
  exact restored

end CatalogSeed.Seed
