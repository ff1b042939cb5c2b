import CatalogSeed.Proofs.Document.Numeric
import CatalogSeed.Proofs.Document.ParseTree
import CatalogSeed.Proofs.Json

/-!
Printed trees: what is printed with every item on a line of its own spells the tree again.
-/

namespace CatalogSeed

open Utf8 Document

namespace Json

/-- What is printed between the quotes of a text. -/
def written (text : String) : List UInt8 :=
  bytes (text.toList.flatMap escape)

mutual

/-- The tree that is printed. -/
def tree : Json → ParseTree
  | .null => .null
  | .bool value => .bool value
  | .number value => .number (bytes value.text)
  | .string value => .string (written value)
  | .array items => .array (itemTrees items)
  | .object members => .object (memberTrees members)

def itemTrees : List Json → List ParseTree
  | [] => []
  | item :: items => tree item :: itemTrees items

def memberTrees : List (String × Json) → List (List UInt8 × ParseTree)
  | [] => []
  | (key, value) :: members => (written key, tree value) :: memberTrees members

end

theorem itemTrees_eq_map (items : List Json) : itemTrees items = items.map tree := by
  induction items with
  | nil => rfl
  | cons item items ih => rw [itemTrees, List.map_cons, ih]

theorem memberTrees_eq_map (members : List (String × Json)) :
    memberTrees members = members.map fun member => (written member.1, tree member.2) := by
  induction members with
  | nil => rfl
  | cons member members ih => rw [memberTrees, List.map_cons, ih]

theorem blank_newLine (depth : Nat) : Blank (bytes (newLine depth)) := by
  intro b found
  obtain ⟨c, among, part⟩ := List.mem_flatMap.1 found
  rcases List.mem_cons.1 among with rfl | space
  · rw [List.mem_singleton.1 part]
    rfl
  · rw [List.eq_of_mem_replicate space] at part
    rw [List.mem_singleton.1 part]
    rfl

theorem leads_comma (depth : Nat) : ParseTree.Leads false (bytes (',' :: newLine depth)) :=
  ⟨[], bytes (newLine depth), Blank.nil, blank_newLine depth, rfl⟩

theorem content_written (text : String) : Content (written text) := (content_escape text).1

theorem text?_written (text : String) : text? (written text) = some text := (content_escape text).2

theorem bytes_quote (text : String) : bytes (quote text) = 0x22 :: (written text ++ [0x22]) := by
  rw [quote, bytes_cons, bytes_append]
  rfl

theorem prettyItems_spells {items : List Json} {depth : Nat} (outer : Nat)
    (each : ∀ item ∈ items, item.tree.Spells (bytes (item.pretty depth))) :
    ParseTree.SpellsItems false (itemTrees items)
      (bytes (prettyItems depth items ++ newLine outer ++ [']'])) := by
  induction items with
  | nil => exact ⟨_, blank_newLine outer, bytes_append _ _⟩
  | cons item items ih =>
      have later := ih fun item found => each item (List.mem_cons_of_mem _ found)
      refine ⟨_, _, _, leads_comma depth, each item List.mem_cons_self, later, ?_⟩
      simp only [prettyItems, ← bytes_append, List.append_assoc, List.cons_append]

theorem prettyMembers_spells {members : List (String × Json)} {depth : Nat} (outer : Nat)
    (each : ∀ member ∈ members, member.2.tree.Spells (bytes (member.2.pretty depth))) :
    ParseTree.SpellsMembers false (memberTrees members)
      (bytes (prettyMembers depth members ++ newLine outer ++ ['}'])) := by
  induction members with
  | nil => exact ⟨_, blank_newLine outer, bytes_append _ _⟩
  | cons member members ih =>
      obtain ⟨key, value⟩ := member
      have later := ih fun member found => each member (List.mem_cons_of_mem _ found)
      have space : Blank [0x20] := by simp [Blank, isBlank]
      refine ⟨_, [], _, _, _, leads_comma depth, content_written key, Blank.nil, space,
        each _ List.mem_cons_self, later, ?_⟩
      simp only [prettyMembers, bytes_append, bytes_cons, bytes_quote, List.append_assoc,
        List.cons_append, List.nil_append]
      rfl

/-- A tree is spelled by what is printed for it, at whatever depth. -/
theorem pretty_spells (json : Json) (depth : Nat) :
    json.tree.Spells (bytes (json.pretty depth)) := by
  induction json generalizing depth with
  | null => rfl
  | bool value => cases value <;> rfl
  | number value => exact ⟨value.numeral?_text, rfl⟩
  | string value => exact ⟨content_written value, bytes_quote value⟩
  | array items ih =>
      cases items with
      | nil => exact ⟨_, ⟨[], Blank.nil, rfl⟩, rfl⟩
      | cons item items =>
          have later := prettyItems_spells depth fun item found =>
            ih item (List.mem_cons_of_mem _ found) (depth + 1)
          refine ⟨_, ⟨_, _, _, blank_newLine (depth + 1), ih item List.mem_cons_self (depth + 1),
            later, rfl⟩, ?_⟩
          simp only [pretty, bytes_append, bytes_cons, List.append_assoc]
          rfl
  | object members ih =>
      cases members with
      | nil => exact ⟨_, ⟨[], Blank.nil, rfl⟩, rfl⟩
      | cons member members =>
          obtain ⟨key, value⟩ := member
          have later := prettyMembers_spells depth fun member found =>
            ih member (List.mem_cons_of_mem _ found) (depth + 1)
          have space : Blank [0x20] := by simp [Blank, isBlank]
          refine ⟨_, ⟨_, [], _, _, _, blank_newLine (depth + 1), content_written key, Blank.nil,
            space, ih _ List.mem_cons_self (depth + 1), later, rfl⟩, ?_⟩
          simp only [pretty, bytes_append, bytes_cons, bytes_quote, List.append_assoc,
            List.cons_append, List.nil_append]
          rfl

/-! On one line. -/

theorem leads_bare : ParseTree.Leads false [0x2C] :=
  ⟨[], [], Blank.nil, Blank.nil, rfl⟩

theorem compactItems_spells {first : Bool} {lead : List UInt8}
    (leads : ParseTree.Leads first lead) {item : Json} {items : List Json}
    (each : ∀ other ∈ item :: items, other.tree.Spells (bytes other.compact)) :
    ParseTree.SpellsItems first (itemTrees (item :: items))
      (lead ++ (bytes (compactItems (item :: items)) ++ [0x5D])) := by
  induction items generalizing first lead item with
  | nil => exact ⟨lead, _, [0x5D], leads, each item List.mem_cons_self, ⟨[], Blank.nil, rfl⟩, rfl⟩
  | cons next items ih =>
      have later := ih leads_bare fun other among => each other (List.mem_cons_of_mem _ among)
      refine ⟨lead, _, _, leads, each item List.mem_cons_self, later, ?_⟩
      simp only [compactItems, bytes_append, bytes_cons, List.append_assoc]
      rfl

theorem compactMembers_spells {first : Bool} {lead : List UInt8}
    (leads : ParseTree.Leads first lead) {member : String × Json} {members : List (String × Json)}
    (each : ∀ other ∈ member :: members, other.2.tree.Spells (bytes other.2.compact)) :
    ParseTree.SpellsMembers first (memberTrees (member :: members))
      (lead ++ (bytes (compactMembers (member :: members)) ++ [0x7D])) := by
  induction members generalizing first lead member with
  | nil =>
      obtain ⟨key, value⟩ := member
      refine ⟨lead, [], [], _, [0x7D], leads, content_written key, Blank.nil, Blank.nil,
        each _ List.mem_cons_self, ⟨[], Blank.nil, rfl⟩, ?_⟩
      simp only [compactMembers, bytes_append, bytes_cons, bytes_quote, List.append_assoc,
        List.cons_append, List.nil_append]
      rfl
  | cons next members ih =>
      obtain ⟨key, value⟩ := member
      have later := ih leads_bare fun other among => each other (List.mem_cons_of_mem _ among)
      refine ⟨lead, [], [], _, _, leads, content_written key, Blank.nil, Blank.nil,
        each _ List.mem_cons_self, later, ?_⟩
      simp only [compactMembers, bytes_append, bytes_cons, bytes_quote, List.append_assoc,
        List.cons_append, List.nil_append]
      rfl

/-- A tree is also spelled by what is printed for it on one line. -/
theorem compact_spells (json : Json) : json.tree.Spells (bytes json.compact) := by
  induction json with
  | null => rfl
  | bool value => cases value <;> rfl
  | number value => exact ⟨value.numeral?_text, rfl⟩
  | string value => exact ⟨content_written value, bytes_quote value⟩
  | array items ih =>
      cases items with
      | nil => exact ⟨_, ⟨[], Blank.nil, rfl⟩, rfl⟩
      | cons item items =>
          have leads : ParseTree.Leads true [] := Blank.nil
          refine ⟨_, compactItems_spells leads ih, ?_⟩
          simp only [compact, bytes_append, bytes_cons]
          rfl
  | object members ih =>
      cases members with
      | nil => exact ⟨_, ⟨[], Blank.nil, rfl⟩, rfl⟩
      | cons member members =>
          have leads : ParseTree.Leads true [] := Blank.nil
          refine ⟨_, compactMembers_spells leads ih, ?_⟩
          simp only [compact, bytes_append, bytes_cons]
          rfl

end Json

end CatalogSeed
