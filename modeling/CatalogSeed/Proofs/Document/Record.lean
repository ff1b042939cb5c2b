import CatalogSeed.Proofs.Document.Restoring

/-!
Records that were printed member by member, in the order of their kind and some of them left out,
as they are read again.
-/

namespace CatalogSeed

open Document ParseTree

/-- How a member is printed, and what comes of reading it. -/
def Slot (datum : Kind → ParseTree → Option Datum) (member : Member Kind) (printed : Bag)
    (read : Option (Option Datum)) : Prop :=
  (printed = [] ∧ read = some none ∧ member.presence ≠ .required) ∨
    ∃ json, printed = [(member.key, json)] ∧ memberDatum? datum member json.tree = read

/-- The same of members one after the other. -/
inductive Slots (datum : Kind → ParseTree → Option Datum) :
    List (Member Kind) → Bag → List (Option (Option Datum)) → Prop
  | nil : Slots datum [] [] []
  | cons {member known printed bag read reads} :
      Slot datum member printed read → Slots datum known bag reads →
      Slots datum (member :: known) (printed ++ bag) (read :: reads)

variable {datum : Kind → ParseTree → Option Datum}

theorem Slots.last {member : Member Kind} {printed : Bag} {read : Option (Option Datum)}
    (slot : Slot datum member printed read) : Slots datum [member] printed [read] := by
  simpa using Slots.cons slot .nil

theorem arrange_other {front : List (Member Kind)} {key : String}
    (other : key ∉ front.map Member.key) (found : Option Datum) (gathered : Gathered) :
    arrange front ((key, found) :: gathered) = arrange front gathered := by
  induction front with
  | nil => rfl
  | cons member front ih =>
      obtain ⟨different, later⟩ : key ≠ member.key ∧ key ∉ front.map Member.key := by
        simpa using other
      have skipped : (member.key == key) = false := by simpa using Ne.symm different
      simp only [arrange, List.mapM_cons, List.lookup_cons, skipped] at ih ⊢
      rw [ih later]

theorem arrange_snoc {front : List (Member Kind)} {gathered : Gathered}
    {before : List (Option Datum)} (arranged : arrange front gathered = .ok before)
    {member : Member Kind} {found : Option Datum}
    (next : gathered.lookup member.key = some found ∨
      gathered.lookup member.key = none ∧ member.presence ≠ .required ∧ found = none) :
    arrange (front ++ [member]) gathered = .ok (before ++ [found]) := by
  simp only [arrange, List.mapM_append, List.mapM_cons, List.mapM_nil] at arranged ⊢
  rw [arranged]
  rcases next with given | ⟨missing, optional, rfl⟩
  · simp [given, bind, Except.bind, pure, Except.pure]
  · rw [missing]
    cases presence : member.presence with
    | required => contradiction
    | _ => rfl

theorem key_fresh {front later : List (Member Kind)} {member : Member Kind}
    (distinct : ((front ++ member :: later).map Member.key).Nodup) :
    member.key ∉ front.map Member.key ∧ member.key ∉ later.map Member.key := by
  simp only [List.map_append, List.map_cons, List.nodup_append, List.nodup_cons] at distinct
  exact ⟨fun among => distinct.2.2 _ among _ List.mem_cons_self rfl, distinct.2.1.1⟩

theorem find?_key {front later : List (Member Kind)} {member : Member Kind}
    (distinct : ((front ++ member :: later).map Member.key).Nodup) :
    (front ++ member :: later).find? (·.key = member.key) = some member := by
  rw [List.find?_eq_some_iff_append]
  refine ⟨by simp, front, later, rfl, fun other among => ?_⟩
  have unlike : other.key ≠ member.key := fun same =>
    (key_fresh distinct).1 (same ▸ List.mem_map_of_mem among)
  simpa using unlike

/-- The members that are left are gathered, and all of them arranged. -/
theorem Slots.gathered {front known : List (Member Kind)} {bag : Bag}
    {reads : List (Option (Option Datum))} (slots : Slots datum known bag reads)
    (distinct : ((front ++ known).map Member.key).Nodup) {gathered : Gathered}
    {before : List (Option Datum)} (arranged : arrange front gathered = .ok before)
    (fresh : ∀ member ∈ known, gathered.lookup member.key = none) :
    ((foldMembers (gather datum (front ++ known)) gathered (Json.memberTrees bag)).bind
        fun final => (arrange (front ++ known) final).toOption) =
      (reads.mapM id).map (before ++ ·) := by
  induction slots generalizing front gathered before with
  | nil => simp [foldMembers, Json.memberTrees, arranged]
  | @cons member known printed bag read reads slot slots ih =>
      have along : front ++ member :: known = front ++ [member] ++ known := by simp
      have missing := fresh member List.mem_cons_self
      rcases slot with ⟨rfl, rfl, optional⟩ | ⟨json, rfl, rfl⟩
      -- A member that was left out stands nowhere later, so it is arranged as absent at once.
      · have step := ih (by rwa [← along])
          (arrange_snoc arranged (Or.inr ⟨missing, optional, rfl⟩))
          (fun other among => fresh other (List.mem_cons_of_mem _ among))
        rw [List.nil_append, along, step, List.mapM_cons]
        cases reads.mapM id <;> simp
      · rw [List.singleton_append]
        have taken : gather datum (front ++ member :: known) gathered member.key json.tree =
            (memberDatum? datum member json.tree).map fun found =>
              (member.key, found) :: gathered := by
          simp only [gather, find?_key distinct, missing]
          rfl
        rw [foldMembers_cons, taken, List.mapM_cons]
        cases memberDatum? datum member json.tree with
        | none => rfl
        | some found =>
            obtain ⟨unused, unlike⟩ := key_fresh distinct
            have step := ih (by rwa [← along])
              (@arrange_snoc front ((member.key, found) :: gathered) before
                ((arrange_other unused found gathered).trans arranged) member found
                (Or.inl (by simp)))
              (fun other among => by
                have skipped : (other.key == member.key) = false := by
                  rw [beq_eq_false_iff_ne]
                  exact fun same => unlike (same ▸ List.mem_map_of_mem among)
                rw [List.lookup_cons, skipped]
                exact fresh other (List.mem_cons_of_mem _ among))
            rw [← along] at step
            rw [Option.map_some, Option.bind_some, step]
            cases reads.mapM id <;> simp

/-- A printed record is read member by member. -/
theorem Slots.record {known : List (Member Kind)} {bag : Bag}
    {reads : List (Option (Option Datum))} (slots : Slots datum known bag reads)
    (distinct : (known.map Member.key).Nodup) (json : ParseTree → Option Json) (label : String) :
    bracketed? datum json (.record label known) (Json.object bag).tree =
      (reads.mapM id).map .record := by
  have gathered := @Slots.gathered datum [] known bag reads slots distinct [] [] rfl
    fun _ _ => rfl
  simp only [List.nil_append] at gathered
  rw [Option.map_id'] at gathered
  rw [Json.tree, bracketed?, ← gathered, Option.map_bind]
  rfl

/-! Texts, lists and tables that were printed. -/

variable {α : Type} {nesting : Nat} {kind : Kind} {toJson : α → Json} {item : α → Datum}

theorem datum?_text (value : String) :
    datum? nesting .text (Json.string value).tree = some (.text value) := by
  cases nesting <;> simp [datum?, bracketed?, scalar?, Json.tree, Json.text?_written]

theorem datum?_list {items : List α}
    (read : ∀ value ∈ items, datum? nesting kind (toJson value).tree = some (item value)) :
    datum? (nesting + 1) (.list kind) (Json.array (items.map toJson)).tree =
      some (.list (items.map item)) := by
  have each : items.mapM (fun value => datum? nesting kind (toJson value).tree) =
      items.mapM fun value => pure (item value) := mapM_congr read
  simp only [datum?, Json.tree, bracketed?, Json.itemTrees_eq_map, List.mapM_map,
    Function.comp_def, each, List.mapM_pure]
  rfl

theorem datum?_table {entries : List (String × α)}
    (read : ∀ entry ∈ entries,
      datum? nesting kind (toJson entry.2).tree = some (item entry.2)) :
    datum? (nesting + 1) (.table kind)
        (Json.object (entries.map fun (key, value) => (key, toJson value))).tree =
      some (.table (entries.map fun (key, value) => (key, item value))) := by
  have gathered (before : List (String × Datum)) :
      foldMembers (fun entries key tree =>
          (datum? nesting kind tree).map fun found => entries ++ [(key, found)]) before
        (Json.memberTrees (entries.map fun (key, value) => (key, toJson value))) =
      some (before ++ entries.map fun (key, value) => (key, item value)) := by
    induction entries generalizing before with
    | nil => simp [Json.memberTrees, foldMembers]
    | cons entry entries ih =>
        obtain ⟨first, later⟩ := List.forall_mem_cons.1 read
        rw [List.map_cons, foldMembers_cons, first, Option.map_some, Option.bind_some, ih later]
        simp
  simp only [datum?, Json.tree, bracketed?, gathered]
  rfl

/-! Slots of members. -/

theorem slot_absent {member : Member Kind} (optional : member.presence ≠ .required) :
    Slot (datum? nesting) member [] (some none) :=
  Or.inl ⟨rfl, rfl, optional⟩

theorem memberDatum?_of_plain {member : Member Kind} (plain : member.presence ≠ .lenient)
    (datum : Kind → ParseTree → Option Datum) (tree : ParseTree) :
    memberDatum? datum member tree = (datum member.kind tree).map some := by
  cases tree <;> simp [memberDatum?, plain]

theorem slot_plain {member : Member Kind} (plain : member.presence ≠ .lenient) {json : Json}
    {found : Datum} (read : datum? nesting member.kind json.tree = some found) :
    Slot (datum? nesting) member [(member.key, json)] (some (some found)) := by
  refine Or.inr ⟨json, rfl, ?_⟩
  rw [memberDatum?_of_plain plain, read]
  rfl

end CatalogSeed
