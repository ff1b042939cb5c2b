import CatalogSeed.Proofs.Document.Integral
import CatalogSeed.Proofs.Document.Named

/-!
Which trees the reader takes for a value of a kind, said of the tree alone. The kinds are those of
catalogs: records whose members may all be left out or null.
-/

namespace CatalogSeed.Document

/-- Records in it have only members that may be left out or null. A choice of names is none of these
kinds, nor is a value of any form. -/
inductive Lenient : Kind → Prop
  | text : Lenient .text
  | integer : Lenient .integer
  | flag : Lenient .flag
  | bag : Lenient .bag
  | list {item : Kind} (inner : Lenient item) : Lenient (.list item)
  | table {item : Kind} (inner : Lenient item) : Lenient (.table item)
  | record {label : String} {known : List (Member Kind)}
      (absent : ∀ member ∈ known, member.presence = .lenient)
      (inner : ∀ member ∈ known, Lenient member.kind) : Lenient (.record label known)

attribute [simp] Lenient.text Lenient.integer Lenient.flag Lenient.bag

@[simp] theorem lenient_list {item : Kind} : Lenient (.list item) ↔ Lenient item := by
  constructor
  · rintro ⟨⟩
    assumption
  · exact .list

@[simp] theorem lenient_table {item : Kind} : Lenient (.table item) ↔ Lenient item := by
  constructor
  · rintro ⟨⟩
    assumption
  · exact .table

@[simp] theorem lenient_record {label : String} {known : List (Member Kind)} :
    Lenient (.record label known) ↔
      ∀ member ∈ known, member.presence = .lenient ∧ Lenient member.kind := by
  constructor
  · rintro ⟨⟩
    next absent inner => exact fun member among => ⟨absent member among, inner member among⟩
  · exact fun each => .record (fun member among => (each member among).1)
      fun member among => (each member among).2

theorem Lenient.ne_json {kind : Kind} (lenient : Lenient kind) : kind ≠ .json := by
  rintro rfl
  cases lenient

namespace ParseTree

mutual

/-- How many levels of arrays and objects it nests. -/
def depth : ParseTree → Nat
  | .array items => depthItems items + 1
  | .object members => depthMembers members + 1
  | _ => 0

def depthItems : List ParseTree → Nat
  | [] => 0
  | item :: items => max (depth item) (depthItems items)

def depthMembers : List (List UInt8 × ParseTree) → Nat
  | [] => 0
  | (_, value) :: members => max (depth value) (depthMembers members)

end

theorem depthItems_le {items : List ParseTree} {bound : Nat} :
    depthItems items ≤ bound ↔ ∀ item ∈ items, item.depth ≤ bound := by
  induction items with
  | nil => simp [depthItems]
  | cons item items ih => rw [depthItems, Nat.max_le, ih, List.forall_mem_cons]

theorem depthMembers_le {members : List (List UInt8 × ParseTree)} {bound : Nat} :
    depthMembers members ≤ bound ↔ ∀ member ∈ members, member.2.depth ≤ bound := by
  induction members with
  | nil => simp [depthMembers]
  | cons member members ih => rw [depthMembers, Nat.max_le, ih, List.forall_mem_cons]

theorem depth_array_le {items : List ParseTree} {bound : Nat} :
    (ParseTree.array items).depth ≤ bound + 1 ↔ ∀ item ∈ items, item.depth ≤ bound := by
  rw [depth, Nat.add_le_add_iff_right, depthItems_le]

theorem depth_object_le {members : List (List UInt8 × ParseTree)} {bound : Nat} :
    (ParseTree.object members).depth ≤ bound + 1 ↔
      ∀ member ∈ members, member.2.depth ≤ bound := by
  rw [depth, Nat.add_le_add_iff_right, depthMembers_le]

/-- All strings and keys in it are texts, and all numbers have a value. -/
inductive Readable : ParseTree → Prop
  | null : Readable .null
  | bool (value : Bool) : Readable (.bool value)
  | number {written : List UInt8} (valued : (number? written).isSome) : Readable (.number written)
  | string {written : List UInt8} (textual : (text? written).isSome) : Readable (.string written)
  | array {items : List ParseTree} (each : ∀ item ∈ items, Readable item) :
      Readable (.array items)
  | object {members : List (List UInt8 × ParseTree)} (textual : Textual members)
      (each : ∀ member ∈ members, Readable member.2) : Readable (.object members)

/-- What may stand where a kind is wanted. A record is written as an object that has each known key
at most once, or as an array of its first members; a member may be null. -/
inductive Conforms : ParseTree → Kind → Prop
  | text (written : List UInt8) : Conforms (.string written) .text
  | flag (value : Bool) : Conforms (.bool value) .flag
  | integer {written : List UInt8} (integral : Integral written) :
      Conforms (.number written) .integer
  | bag (members : List (List UInt8 × ParseTree)) : Conforms (.object members) .bag
  | list {item : Kind} {items : List ParseTree} (each : ∀ tree ∈ items, Conforms tree item) :
      Conforms (.array items) (.list item)
  | table {item : Kind} {members : List (List UInt8 × ParseTree)}
      (each : ∀ member ∈ members, Conforms member.2 item) :
      Conforms (.object members) (.table item)
  | object {label : String} {known : List (Member Kind)}
      {members : List (List UInt8 × ParseTree)}
      (once : (knownKeys known (named members)).Nodup)
      (each : ∀ entry ∈ named members, ∀ member, field? known entry.1 = some member →
        entry.2 ≠ .null → Conforms entry.2 member.kind) :
      Conforms (.object members) (.record label known)
  | array {label : String} {known : List (Member Kind)} {items : List ParseTree}
      (few : items.length ≤ known.length)
      (each : ∀ part ∈ known.zip items, part.2 ≠ .null → Conforms part.2 part.1.kind) :
      Conforms (.array items) (.record label known)

/-! Parts. -/

theorem isSome_foldMembers {α σ : Type} {step : σ → String → ParseTree → Option σ}
    (item : ParseTree → Option α)
    (taken : ∀ state key tree, (step state key tree).isSome ↔ (item tree).isSome) {start : σ}
    {members : List (List UInt8 × ParseTree)} (textual : Textual members) :
    (foldMembers step start members).isSome ↔ ∀ member ∈ members, (item member.2).isSome := by
  induction members generalizing start with
  | nil => simp [foldMembers]
  | cons member members ih =>
      obtain ⟨first, later⟩ := List.forall_mem_cons.1 textual
      obtain ⟨key, spelled⟩ := Option.isSome_iff_exists.1 first
      rw [foldMembers, List.foldlM_cons, spelled, Option.bind_some, List.forall_mem_cons,
        ← taken start key member.2]
      cases step start key member.2 with
      | none => simp
      | some state =>
          rw [Option.isSome_some, eq_self, true_and, ← ih later]
          rfl

/-- Nothing is refused where any value may stand. -/
theorem isSome_json? {tree : ParseTree} (readable : tree.Readable) {nesting : Nat}
    (shallow : tree.depth ≤ nesting) : (json? nesting tree).isSome := by
  induction tree generalizing nesting with
  | null => simp [json?]
  | bool value => simp [json?]
  | number written =>
      cases readable with
      | number valued => simpa [json?] using valued
  | string written =>
      cases readable with
      | string textual => simpa [json?] using textual
  | array items ih =>
      cases readable with
      | array each =>
          cases nesting with
          | zero => simp [depth] at shallow
          | succ nesting =>
              rw [json?, Option.isSome_map, isSome_mapM]
              exact fun item among => ih item among (each item among)
                (depth_array_le.1 shallow item among)
  | object members ih =>
      cases readable with
      | object textual each =>
          cases nesting with
          | zero => simp [depth] at shallow
          | succ nesting =>
              rw [json?, Option.isSome_map,
                isSome_foldMembers (json? nesting) (by simp [putMember]) textual]
              exact fun member among => ih member among (each member among)
                (depth_object_le.1 shallow member among)

/-- What stands without brackets is taken by its form. -/
theorem isSome_scalar? {kind : Kind} (lenient : Lenient kind)
    {tree : ParseTree} (readable : tree.Readable) (flat : tree.depth = 0) :
    (scalar? kind tree).isSome ↔ tree.Conforms kind := by
  cases tree with
  | array items => simp [depth] at flat
  | object members => simp [depth] at flat
  | string written =>
      cases readable with
      | string textual =>
          cases lenient with
          | text => exact iff_of_true (by simpa [scalar?] using textual) (.text written)
          | _ => exact iff_of_false (by simp [scalar?]) (by rintro ⟨⟩)
  | number written =>
      cases readable with
      | number valued =>
          cases lenient with
          | integer =>
              have valid : (numeral? written).isSome := by
                rw [number?] at valued
                exact Option.isSome_of_isSome_bind valued
              rw [scalar?, Option.isSome_map, isSome_integer? valid]
              constructor
              · exact .integer
              · rintro ⟨⟩
                assumption
          | _ => exact iff_of_false (by simp [scalar?]) (by rintro ⟨⟩)
  | bool value =>
      cases lenient with
      | flag => exact iff_of_true rfl (.flag value)
      | _ => exact iff_of_false (by simp [scalar?]) (by rintro ⟨⟩)
  | null => cases lenient <;> exact iff_of_false (by simp [scalar?]) (by rintro ⟨⟩)

/-- A lenient member takes a null and whatever conforms. -/
theorem isSome_memberDatum? {datum : Kind → ParseTree → Option Datum} {member : Member Kind}
    (absent : member.presence = .lenient) {tree : ParseTree}
    (taken : (datum member.kind tree).isSome ↔ tree.Conforms member.kind) :
    (memberDatum? datum member tree).isSome ↔ (tree ≠ .null → tree.Conforms member.kind) := by
  cases tree with
  | null => simp [memberDatum?, absent]
  | _ => simpa [memberDatum?] using taken

theorem memberDatum?_of_ne_null {datum : Kind → ParseTree → Option Datum} {member : Member Kind}
    {tree : ParseTree} (given : tree ≠ .null) :
    memberDatum? datum member tree = (datum member.kind tree).map some := by
  cases tree with
  | null => contradiction
  | _ => rfl

theorem memberDatum?_null {datum : Kind → ParseTree → Option Datum} {member : Member Kind}
    (absent : member.presence = .lenient) : memberDatum? datum member .null = some none := by
  rw [memberDatum?, if_pos absent]

/-- A lenient record has what was gathered for each of its members, and nothing for the others. -/
theorem arrange_lenient {known : List (Member Kind)}
    (absent : ∀ member ∈ known, member.presence = .lenient) (gathered : Gathered) :
    arrange known gathered = .ok (known.map fun member => (gathered.lookup member.key).join) := by
  induction known with
  | nil => rfl
  | cons member known ih =>
      obtain ⟨first, later⟩ := List.forall_mem_cons.1 absent
      have arranged := ih later
      simp only [arrange, List.mapM_cons, first] at arranged ⊢
      rw [arranged]
      cases found : gathered.lookup member.key with
      | none => simp [found, bind, Except.bind, pure, Except.pure]
      | some value => simp [found, bind, Except.bind, pure, Except.pure]

theorem positional?_nil {datum : Kind → ParseTree → Option Datum} {known : List (Member Kind)}
    (absent : ∀ member ∈ known, member.presence = .lenient) :
    positional? datum known [] = some (known.map fun _ => none) := by
  cases known with
  | nil => rfl
  | cons member known =>
      have optional : (member :: known).any (·.presence = .required) = false := by
        rw [List.any_eq_false]
        intro other among
        simp [absent other among]
      simp [positional?, optional]

theorem isSome_positional? {datum : Kind → ParseTree → Option Datum}
    {known : List (Member Kind)} (absent : ∀ member ∈ known, member.presence = .lenient)
    {items : List ParseTree} :
    (positional? datum known items).isSome ↔ items.length ≤ known.length ∧
      ∀ part ∈ known.zip items, (memberDatum? datum part.1 part.2).isSome := by
  induction known generalizing items with
  | nil => cases items <;> simp [positional?]
  | cons member known ih =>
      obtain ⟨_, later⟩ := List.forall_mem_cons.1 absent
      cases items with
      | nil => simp [positional?_nil absent]
      | cons item items =>
          rw [positional?, List.length_cons, List.length_cons, Nat.add_le_add_iff_right,
            List.zip_cons_cons, List.forall_mem_cons]
          have rest := @ih later items
          cases memberDatum? datum member item with
          | none => simp
          | some found =>
              simp only [Option.isSome_some, true_and, ← rest]
              cases positional? datum known items <;> simp

theorem isSome_array? {datum : Kind → ParseTree → Option Datum} {json : ParseTree → Option Json}
    {kind : Kind} (lenient : Lenient kind) {items : List ParseTree}
    (inner : ∀ item ∈ items, ∀ kind, Lenient kind →
      ((datum kind item).isSome ↔ item.Conforms kind)) :
    (bracketed? datum json kind (.array items)).isSome ↔ (ParseTree.array items).Conforms kind := by
  cases lenient with
  | @list item lenient =>
      rw [bracketed?, Option.isSome_map, isSome_mapM]
      constructor
      · exact fun each => .list fun tree among =>
          (inner tree among item lenient).1 (each tree among)
      · rintro ⟨⟩
        next each => exact fun tree among => (inner tree among item lenient).2 (each tree among)
  | @record label known absent lenient =>
      have part {member : Member Kind} {tree : ParseTree}
          (among : (member, tree) ∈ known.zip items) :
          (memberDatum? datum member tree).isSome ↔
            (tree ≠ .null → tree.Conforms member.kind) := by
        obtain ⟨left, right⟩ := List.of_mem_zip among
        exact isSome_memberDatum? (absent member left)
          (inner tree right member.kind (lenient member left))
      rw [bracketed?, Option.isSome_map, isSome_positional? absent]
      constructor
      · exact fun ⟨few, each⟩ => .array few fun pair among => (part among).1 (each pair among)
      · rintro ⟨⟩
        next few each => exact ⟨few, fun pair among => (part among).2 (each pair among)⟩
  | _ => exact iff_of_false (by simp [bracketed?, scalar?]) nofun

theorem isSome_object? {datum : Kind → ParseTree → Option Datum} {json : ParseTree → Option Json}
    {kind : Kind} (lenient : Lenient kind)
    {members : List (List UInt8 × ParseTree)} (textual : Textual members)
    (inner : ∀ member ∈ members, ∀ kind, Lenient kind →
      ((datum kind member.2).isSome ↔ member.2.Conforms kind))
    (any : ∀ member ∈ members, (json member.2).isSome) :
    (bracketed? datum json kind (.object members)).isSome ↔
      (ParseTree.object members).Conforms kind := by
  cases lenient with
  | bag =>
      refine iff_of_true ?_ (.bag members)
      rw [bracketed?, Option.isSome_map, isSome_foldMembers json (by simp [putMember]) textual]
      exact any
  | @table item lenient =>
      rw [bracketed?, Option.isSome_map, isSome_foldMembers (datum item) (by simp) textual]
      constructor
      · exact fun each => .table fun member among =>
          (inner member among item lenient).1 (each member among)
      · rintro ⟨⟩
        next each =>
          exact fun member among => (inner member among item lenient).2 (each member among)
  | @record label known absent lenient =>
      have part {entry : String × ParseTree} (among : entry ∈ named members) {member : Member Kind}
          (found : field? known entry.1 = some member) :
          (memberDatum? datum member entry.2).isSome ↔
            (entry.2 ≠ .null → entry.2.Conforms member.kind) := by
        have inside := List.mem_of_find?_eq_some found
        obtain ⟨spelled, inMembers, _, same⟩ := mem_named.1 among
        refine isSome_memberDatum? (absent member inside) ?_
        rw [← same]
        exact inner spelled inMembers member.kind (lenient member inside)
      have gathered : (gatherAll datum known (named members) []).isSome ↔
          (ParseTree.object members).Conforms (.record label known) := by
        rw [isSome_gatherAll]
        constructor
        · rintro ⟨once, _, each⟩
          exact .object once fun entry among member found =>
            (part among found).1 (each entry among member found)
        · rintro ⟨⟩
          next once each =>
            exact ⟨once, fun _ _ => rfl, fun entry among member found =>
              (part among found).2 (each entry among member found)⟩
      rw [bracketed?, foldMembers_named _ _ textual, ← gathered, ← gatherAll]
      cases gatherAll datum known (named members) [] with
      | none => rfl
      | some final => simp [arrange_lenient absent, Except.toOption]
  | _ => exact iff_of_false (by simp [bracketed?, scalar?]) (by rintro ⟨⟩)

theorem datum?_flat {kind : Kind} (other : kind ≠ .json) {tree : ParseTree}
    (flat : tree.depth = 0) (nesting : Nat) : datum? nesting kind tree = scalar? kind tree := by
  cases tree with
  | array items => simp [depth] at flat
  | object members => simp [depth] at flat
  | _ => cases nesting <;> cases kind <;> simp_all [datum?, bracketed?]

/-- What is not read by the form of a scalar is read between brackets. -/
theorem bracketed?_of_datum? {kind : Kind} {nesting : Nat} {tree : ParseTree} {found : Datum}
    (read : datum? nesting kind tree = some found) (other : kind ≠ .json)
    (structured : ∀ tree, scalar? kind tree = none) :
    ∃ inner, nesting = inner + 1 ∧
      bracketed? (datum? inner) (json? inner) kind tree = some found := by
  cases nesting with
  | zero =>
      rw [datum?] at read
      · rw [structured tree] at read
        contradiction
      · exact other
  | succ inner => exact ⟨inner, rfl, datum?_succ other inner tree ▸ read⟩

theorem datum?_scalar {kind : Kind} (plain : kind = .text ∨ kind = .integer ∨ kind = .flag)
    (nesting : Nat) (tree : ParseTree) : datum? nesting kind tree = scalar? kind tree := by
  rcases plain with rfl | rfl | rfl
  · cases nesting <;> rfl
  · cases nesting <;> rfl
  · cases nesting <;> rfl

/-- A tree that is readable and not too deep is taken exactly if it conforms. -/
theorem isSome_datum? {nesting : Nat} {kind : Kind} (lenient : Lenient kind) {tree : ParseTree}
    (readable : tree.Readable) (shallow : tree.depth ≤ nesting) :
    (datum? nesting kind tree).isSome ↔ tree.Conforms kind := by
  induction tree generalizing nesting kind with
  | array items ih =>
      cases readable with
      | array each =>
          cases nesting with
          | zero => simp [depth] at shallow
          | succ nesting =>
              rw [datum?_succ lenient.ne_json]
              have within := depth_array_le.1 shallow
              exact isSome_array? lenient fun item among kind lenient =>
                ih item among lenient (each item among) (within item among)
  | object members ih =>
      cases readable with
      | object textual each =>
          cases nesting with
          | zero => simp [depth] at shallow
          | succ nesting =>
              rw [datum?_succ lenient.ne_json]
              have within := depth_object_le.1 shallow
              exact isSome_object? lenient textual
                (fun member among kind lenient =>
                  ih member among lenient (each member among) (within member among))
                fun member among => isSome_json? (each member among) (within member among)
  | _ =>
      rw [datum?_flat lenient.ne_json rfl]
      exact isSome_scalar? lenient readable rfl

end ParseTree

end CatalogSeed.Document
