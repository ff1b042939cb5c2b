import Mathlib.Data.List.Nodup
import CatalogSeed.Proofs.Document.Conforming

/-!
Changes to one record somewhere in a tree, and which of them leave what is read of the tree as it
was: members that a record does not know may come and go, and so may a null.
-/

namespace CatalogSeed.Document.ParseTree

variable {known : List (Member Kind)} {members others : List (List UInt8 × ParseTree)}

/-- A change to the members of an object that is read as a record, however deep it stands in a tree
of a kind. -/
inductive Changed (change : List (Member Kind) → List (List UInt8 × ParseTree) →
    List (List UInt8 × ParseTree) → Prop) : Kind → ParseTree → ParseTree → Prop
  | here {label : String} {known : List (Member Kind)}
      {members others : List (List UInt8 × ParseTree)} (changes : change known members others) :
      Changed change (.record label known) (.object members) (.object others)
  | item {kind : Kind} {tree other : ParseTree} (before after : List ParseTree)
      (inner : Changed change kind tree other) :
      Changed change (.list kind) (.array (before ++ tree :: after))
        (.array (before ++ other :: after))
  | entry {kind : Kind} {key : List UInt8} {tree other : ParseTree}
      (before after : List (List UInt8 × ParseTree)) (inner : Changed change kind tree other) :
      Changed change (.table kind) (.object (before ++ (key, tree) :: after))
        (.object (before ++ (key, other) :: after))
  | member {label : String} {known : List (Member Kind)} {member : Member Kind}
      {key : List UInt8} {tree other : ParseTree} (before after : List (List UInt8 × ParseTree))
      (found : (text? key).bind (field? known) = some member)
      (inner : Changed change member.kind tree other) :
      Changed change (.record label known) (.object (before ++ (key, tree) :: after))
        (.object (before ++ (key, other) :: after))
  | element {label : String} {known : List (Member Kind)} {member : Member Kind}
      {tree other : ParseTree} (before after : List ParseTree)
      (found : known[before.length]? = some member)
      (inner : Changed change member.kind tree other) :
      Changed change (.record label known) (.array (before ++ tree :: after))
        (.array (before ++ other :: after))

/-- One more member somewhere: a null under a known key that was not there, or anything under a key
that is not known. -/
def Inserted (known : List (Member Kind)) (members others : List (List UInt8 × ParseTree)) :
    Prop :=
  ∃ before after key name value, members = before ++ after ∧
    others = before ++ (key, value) :: after ∧ text? key = some name ∧
    (field? known name = none ∨
      value = .null ∧ ∀ member ∈ members, text? member.1 ≠ some name)

/-- One member less: a null, or anything under a key that is not known. -/
def Deleted (known : List (Member Kind)) (members others : List (List UInt8 × ParseTree)) :
    Prop :=
  ∃ before after key name value, members = before ++ (key, value) :: after ∧
    others = before ++ after ∧ text? key = some name ∧
    (field? known name = none ∨ value = .null)

/-! Parts that are exchanged for others with the same meaning. -/

section

variable {α σ : Type} {tree other : ParseTree}

theorem mapM_exchange {f : ParseTree → Option α} {before after : List ParseTree}
    {values : List α} (read : (before ++ tree :: after).mapM f = some values)
    (same : ∀ value, f tree = some value → f other = some value) :
    (before ++ other :: after).mapM f = some values := by
  simp only [List.mapM_append, List.mapM_cons, Option.bind_eq_bind,
    Option.bind_eq_some_iff] at read ⊢
  obtain ⟨first, outcome, later, ⟨value, taken, behind⟩, all⟩ := read
  exact ⟨first, outcome, later, ⟨value, same value taken, behind⟩, all⟩

theorem foldMembers_exchange {step : σ → String → ParseTree → Option σ} {start final : σ}
    {before after : List (List UInt8 × ParseTree)} {key : List UInt8}
    (read : foldMembers step start (before ++ (key, tree) :: after) = some final)
    (same : ∀ state name next, text? key = some name → step state name tree = some next →
      step state name other = some next) :
    foldMembers step start (before ++ (key, other) :: after) = some final := by
  simp only [foldMembers, List.foldlM_append, List.foldlM_cons, Option.bind_eq_bind,
    Option.bind_eq_some_iff] at read ⊢
  obtain ⟨state, outcome, next, ⟨name, spelled, taken⟩, behind⟩ := read
  exact ⟨state, outcome, next, ⟨name, spelled, same state name next spelled taken⟩, behind⟩

theorem positional?_exchange {datum : Kind → ParseTree → Option Datum}
    {before after : List ParseTree} {member : Member Kind} {values : List (Option Datum)}
    (read : positional? datum known (before ++ tree :: after) = some values)
    (found : known[before.length]? = some member)
    (same : ∀ value, memberDatum? datum member tree = some value →
      memberDatum? datum member other = some value) :
    positional? datum known (before ++ other :: after) = some values := by
  induction before generalizing known values with
  | nil =>
      cases known with
      | nil => contradiction
      | cons first known =>
          obtain rfl : first = member := Option.some.inj found
          simp only [List.nil_append, positional?, Option.bind_eq_bind,
            Option.bind_eq_some_iff] at read ⊢
          obtain ⟨value, taken, behind⟩ := read
          exact ⟨value, same value taken, behind⟩
  | cons item before ih =>
      cases known with
      | nil => contradiction
      | cons first known =>
          simp only [List.cons_append, positional?, Option.bind_eq_bind,
            Option.bind_eq_some_iff] at read ⊢
          obtain ⟨value, taken, later, behind, all⟩ := read
          exact ⟨value, taken, later, ih behind (by simpa using found), all⟩

end

/-! Members that mean the same to a record. -/

/-- Nothing is there, or a null. -/
def Void (tree : Option ParseTree) : Prop :=
  tree = none ∨ tree = some .null

/-- What a record knows of these members it also finds among the others, but for nulls. -/
structure Interchangeable (known : List (Member Kind))
    (entries others : List (String × ParseTree)) : Prop where
  once : (knownKeys known others).Nodup
  taken : ∀ entry ∈ others, (field? known entry.1).isSome → entry ∈ entries ∨ entry.2 = .null
  lookups : ∀ key, (field? known key).isSome → others.lookup key = entries.lookup key ∨
    Void (entries.lookup key) ∧ Void (others.lookup key)

theorem Interchangeable.gatherAll {entries others : List (String × ParseTree)}
    (alike : Interchangeable known entries others)
    (absent : ∀ member ∈ known, member.presence = .lenient)
    {datum : Kind → ParseTree → Option Datum} {final : Gathered}
    (read : gatherAll datum known entries [] = some final) :
    ∃ again, ParseTree.gatherAll datum known others [] = some again ∧
      ∀ member ∈ known, (again.lookup member.key).join = (final.lookup member.key).join := by
  obtain ⟨_, _, values⟩ := isSome_gatherAll.1 (Option.isSome_of_eq_some read)
  have lenient {key : String} {member : Member Kind} (found : field? known key = some member) :
      member.presence = .lenient :=
    absent member (List.mem_of_find?_eq_some found)
  have accepted : (ParseTree.gatherAll datum known others []).isSome := by
    refine isSome_gatherAll.2 ⟨alike.once, fun _ _ => rfl, fun entry among member found => ?_⟩
    rcases alike.taken entry among (Option.isSome_of_eq_some found) with kept | null
    · exact values entry kept member found
    · rw [null, memberDatum?_null (lenient found)]
      rfl
  obtain ⟨again, outcome⟩ := Option.isSome_iff_exists.1 accepted
  refine ⟨again, outcome, fun member _ => ?_⟩
  rw [lookup_of_gatherAll outcome, lookup_of_gatherAll read]
  cases found : field? known member.key with
  | none => rfl
  | some field =>
      have nothing {tree : Option ParseTree} (void : Void tree) :
          (tree.bind (memberDatum? datum field)).join = none := by
        rcases void with rfl | rfl
        · rfl
        · rw [Option.bind_some, memberDatum?_null (lenient found)]
          rfl
      simp only [List.lookup_nil, Option.none_or, Option.bind_some]
      rcases alike.lookups member.key (Option.isSome_of_eq_some found) with same | ⟨void, voidToo⟩
      · rw [same]
      · rw [nothing void, nothing voidToo]

/-- A change after which the members mean the same as before, if all keys are texts and no known
one is repeated. -/
def Harmless (change : List (Member Kind) → List (List UInt8 × ParseTree) →
    List (List UInt8 × ParseTree) → Prop) : Prop :=
  ∀ known members others, change known members others → Textual members →
    (knownKeys known (named members)).Nodup →
      Textual others ∧ Interchangeable known (named members) (named others)

theorem named_append (front back : List (List UInt8 × ParseTree)) :
    named (front ++ back) = named front ++ named back :=
  List.filterMap_append

theorem knownKeys_append (front back : List (String × ParseTree)) :
    knownKeys known (front ++ back) = knownKeys known front ++ knownKeys known back := by
  simp [knownKeys]

theorem knownKeys_unknown {name : String} (unknown : field? known name = none) (value : ParseTree)
    (before after : List (String × ParseTree)) :
    knownKeys known (before ++ (name, value) :: after) = knownKeys known (before ++ after) := by
  simp [knownKeys, unknown]

theorem knownKeys_known {name : String} (field : (field? known name).isSome) (value : ParseTree)
    (before after : List (String × ParseTree)) :
    (knownKeys known (before ++ (name, value) :: after)).Nodup ↔
      name ∉ (before ++ after).map Prod.fst ∧ (knownKeys known (before ++ after)).Nodup := by
  have keys : knownKeys known ((name, value) :: after) = name :: knownKeys known after := by
    simp [knownKeys, field]
  rw [knownKeys_append, keys, List.nodup_middle, List.nodup_cons, ← knownKeys_append]
  have among : name ∈ knownKeys known (before ++ after) ↔
      name ∈ (before ++ after).map Prod.fst := by
    rw [knownKeys, List.mem_filter, and_iff_left field]
  rw [among]

theorem lookup_extra {name key : String} (other : key ≠ name) (value : ParseTree)
    (before after : List (String × ParseTree)) :
    (before ++ (name, value) :: after).lookup key = (before ++ after).lookup key := by
  rw [List.lookup_append, List.lookup_append, KeyMap.lookup_cons_eq, if_neg other]

/-- One more member makes no difference if the record does not know it, or if it is a null and
repeats no key. -/
theorem alike_extra {name : String} {value : ParseTree} {before after : List (String × ParseTree)}
    (once : (knownKeys known (before ++ (name, value) :: after)).Nodup)
    (allowed : field? known name = none ∨ value = .null) :
    Interchangeable known (before ++ after) (before ++ (name, value) :: after) ∧
      Interchangeable known (before ++ (name, value) :: after) (before ++ after) := by
  have fewer : (knownKeys known (before ++ after)).Nodup := by
    have part : (before ++ after).Sublist (before ++ (name, value) :: after) :=
      (List.sublist_cons_self _ _).append_left before
    exact once.sublist ((part.map Prod.fst).filter _)
  have lookups (key : String) (field : (field? known key).isSome) :
      (before ++ (name, value) :: after).lookup key = (before ++ after).lookup key ∨
        Void ((before ++ after).lookup key) ∧
          Void ((before ++ (name, value) :: after).lookup key) := by
    by_cases other : key = name
    · subst other
      obtain rfl : value = .null := allowed.resolve_left (Option.isSome_iff_ne_none.1 field)
      have fresh := ((knownKeys_known field _ _ _).1 once).1
      have missing : (before ++ after).lookup key = none := by
        refine List.lookup_eq_none_iff.2 fun entry among => ?_
        have unlike : key ≠ entry.1 := fun same => fresh (same ▸ List.mem_map_of_mem among)
        simpa using unlike
      have front : before.lookup key = none := by
        rw [List.lookup_append, Option.or_eq_none_iff] at missing
        exact missing.1
      refine Or.inr ⟨Or.inl missing, Or.inr ?_⟩
      rw [List.lookup_append, front, Option.none_or, KeyMap.lookup_cons_eq, if_pos rfl]
    · exact Or.inl (lookup_extra other value before after)
  refine ⟨⟨once, fun entry among field => ?_, lookups⟩,
    ⟨fewer, fun entry among _ => Or.inl ?_, fun key field => ?_⟩⟩
  · rcases List.mem_append.1 among with first | last
    · exact Or.inl (List.mem_append_left _ first)
    rcases List.mem_cons.1 last with rfl | last
    · exact Or.inr (allowed.resolve_left (Option.isSome_iff_ne_none.1 field))
    · exact Or.inl (List.mem_append_right _ last)
  · exact ((List.sublist_cons_self _ _).append_left before).mem among
  · exact (lookups key field).imp Eq.symm And.symm

theorem harmless_inserted : Harmless Inserted := by
  rintro known _ _ ⟨before, after, key, name, value, rfl, rfl, spelled, allowed⟩ textual once
  obtain ⟨front, back⟩ := List.forall_mem_append.1 textual
  have text : (text? key).isSome := by simp [spelled]
  refine ⟨List.forall_mem_append.2 ⟨front, List.forall_mem_cons.2 ⟨text, back⟩⟩, ?_⟩
  rw [named_append] at once ⊢
  rw [named_append, named_cons spelled]
  refine (alike_extra ?_ (allowed.imp id And.left)).1
  cases field : field? known name with
  | none => rwa [knownKeys_unknown field]
  | some member =>
      obtain ⟨_, fresh⟩ := allowed.resolve_left (by simp [field])
      refine (knownKeys_known (by simp [field]) _ _ _).2 ⟨fun found => ?_, once⟩
      obtain ⟨entry, among, rfl⟩ := List.mem_map.1 found
      rw [← named_append] at among
      obtain ⟨member, inside, same, _⟩ := mem_named.1 among
      exact fresh member inside same

theorem harmless_deleted : Harmless Deleted := by
  rintro known _ _ ⟨before, after, key, name, value, rfl, rfl, spelled, allowed⟩ textual once
  obtain ⟨front, back⟩ := List.forall_mem_append.1 textual
  refine ⟨List.forall_mem_append.2 ⟨front, (List.forall_mem_cons.1 back).2⟩, ?_⟩
  rw [named_append, named_cons spelled] at once ⊢
  rw [named_append]
  exact (alike_extra once allowed).2

/-! What is read of a changed tree. -/

theorem Changed.ne_null {change : List (Member Kind) → List (List UInt8 × ParseTree) →
    List (List UInt8 × ParseTree) → Prop} {kind : Kind} {tree other : ParseTree}
    (changed : Changed change kind tree other) : tree ≠ .null ∧ other ≠ .null := by
  cases changed <;> exact ⟨nofun, nofun⟩

/-- What is read of a member that was changed stays the same if what is read of its tree does. -/
theorem Changed.memberDatum? {change : List (Member Kind) → List (List UInt8 × ParseTree) →
    List (List UInt8 × ParseTree) → Prop} {datum : Kind → ParseTree → Option Datum}
    {member : Member Kind} {tree other : ParseTree}
    (changed : Changed change member.kind tree other)
    (same : ∀ found, datum member.kind tree = some found → datum member.kind other = some found)
    {value : Option Datum} (read : memberDatum? datum member tree = some value) :
    ParseTree.memberDatum? datum member other = some value := by
  rw [memberDatum?_of_ne_null changed.ne_null.1, Option.map_eq_some_iff] at read
  obtain ⟨found, taken, rfl⟩ := read
  rw [memberDatum?_of_ne_null changed.ne_null.2, same found taken, Option.map_some]

/-- A harmless change to a record, however deep it stands, leaves what is read as it was. -/
theorem Changed.datum? {change : List (Member Kind) → List (List UInt8 × ParseTree) →
    List (List UInt8 × ParseTree) → Prop} (harmless : Harmless change) {kind : Kind}
    {tree other : ParseTree} (changed : Changed change kind tree other) (lenient : Lenient kind)
    {nesting : Nat} {found : Datum} (read : datum? nesting kind tree = some found) :
    ParseTree.datum? nesting kind other = some found := by
  -- From the changed object up to the root, one level at a time.
  induction changed generalizing nesting found with
  | here changes =>
      obtain ⟨nesting, rfl, inside⟩ := bracketed?_of_datum? read (by simp) fun _ => rfl
      cases lenient with
      | record absent inner =>
      rw [bracketed?, Option.bind_eq_some_iff] at inside
      obtain ⟨final, outcome, arranged⟩ := inside
      have textual := textual_of_foldMembers outcome
      rw [foldMembers_named _ _ textual, ← gatherAll] at outcome
      have once := (isSome_gatherAll.1 (Option.isSome_of_eq_some outcome)).1
      obtain ⟨textualToo, alike⟩ := harmless _ _ _ changes textual once
      obtain ⟨again, outcomeToo, same⟩ := alike.gatherAll absent outcome
      rw [datum?_succ (by simp), bracketed?, foldMembers_named _ _ textualToo, ← gatherAll,
        outcomeToo, ← arranged, Option.bind_some, arrange_lenient absent, arrange_lenient absent,
        List.map_congr_left same]
  | item before after inner ih =>
      obtain ⟨nesting, rfl, inside⟩ := bracketed?_of_datum? read (by simp) fun _ => rfl
      rw [bracketed?, Option.map_eq_some_iff] at inside
      obtain ⟨items, outcome, rfl⟩ := inside
      have kept := mapM_exchange outcome fun _ taken => ih (lenient_list.1 lenient) taken
      rw [datum?_succ (by simp), bracketed?, kept, Option.map_some]
  | @entry kind key tree other before after inner ih =>
      obtain ⟨nesting, rfl, inside⟩ := bracketed?_of_datum? read (by simp) fun _ => rfl
      rw [bracketed?, Option.map_eq_some_iff] at inside
      obtain ⟨entries, outcome, rfl⟩ := inside
      rw [datum?_succ (by simp), bracketed?, Option.map_eq_some_iff]
      refine ⟨entries, foldMembers_exchange outcome fun state name next _ taken => ?_, rfl⟩
      obtain ⟨value, first, rfl⟩ := Option.map_eq_some_iff.1 taken
      rw [ih (lenient_table.1 lenient) first, Option.map_some]
  | @member label known field key tree other before after given inner ih =>
      obtain ⟨nesting, rfl, inside⟩ := bracketed?_of_datum? read (by simp) fun _ => rfl
      cases lenient with
      | record absent lenient =>
      rw [bracketed?, Option.bind_eq_some_iff] at inside
      obtain ⟨final, outcome, arranged⟩ := inside
      rw [datum?_succ (by simp), bracketed?, Option.bind_eq_some_iff]
      refine ⟨final, foldMembers_exchange outcome fun state name next spelled taken => ?_, arranged⟩
      have found : field? known name = some field := by simpa [spelled] using given
      rw [gather_known found] at taken ⊢
      split at taken
      next => contradiction
      next fresh =>
        obtain ⟨value, first, rfl⟩ := Option.map_eq_some_iff.1 taken
        have within := lenient field (field?_eq_some found).1
        rw [if_neg fresh, inner.memberDatum? (fun _ => ih within) first, Option.map_some]
  | element before after given inner ih =>
      obtain ⟨nesting, rfl, inside⟩ := bracketed?_of_datum? read (by simp) fun _ => rfl
      cases lenient with
      | record absent lenient =>
      rw [bracketed?, Option.map_eq_some_iff] at inside
      obtain ⟨values, outcome, rfl⟩ := inside
      have within := lenient _ (List.mem_of_getElem? given)
      have kept := positional?_exchange outcome given fun _ taken =>
        inner.memberDatum? (fun _ => ih within) taken
      rw [datum?_succ (by simp), bracketed?, kept, Option.map_some]

end CatalogSeed.Document.ParseTree
