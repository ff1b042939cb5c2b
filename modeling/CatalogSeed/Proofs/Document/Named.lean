import CatalogSeed.Proofs.Document.ParseTree
import CatalogSeed.Proofs.Json
import Mathlib.Data.List.Forall2

/-!
The members of a spelled object under the texts of their keys. A record takes the value of each of
its members from there, whatever the order in which they were written.
-/

namespace CatalogSeed.Document.ParseTree

variable {α β σ : Type}

/-- The members whose keys are texts. -/
def named (members : List (List UInt8 × ParseTree)) : List (String × ParseTree) :=
  members.filterMap fun member => (text? member.1).map fun key => (key, member.2)

/-- All keys are texts. -/
def Textual (members : List (List UInt8 × ParseTree)) : Prop :=
  ∀ member ∈ members, (text? member.1).isSome

theorem named_cons {key : List UInt8} {text : String} (spelled : text? key = some text)
    (tree : ParseTree) (members : List (List UInt8 × ParseTree)) :
    named ((key, tree) :: members) = (text, tree) :: named members := by
  simp [named, spelled]

theorem mem_named {members : List (List UInt8 × ParseTree)} {key : String} {tree : ParseTree} :
    (key, tree) ∈ named members ↔
      ∃ member ∈ members, text? member.1 = some key ∧ member.2 = tree := by
  simp only [named, List.mem_filterMap, Option.map_eq_some_iff, Prod.mk.injEq]
  constructor
  · rintro ⟨member, among, text, spelled, rfl, same⟩
    exact ⟨member, among, spelled, same⟩
  · rintro ⟨member, among, spelled, same⟩
    exact ⟨member, among, key, spelled, rfl, same⟩

theorem textual_of_foldMembers {step : σ → String → ParseTree → Option σ} {start final : σ}
    {members : List (List UInt8 × ParseTree)} (read : foldMembers step start members = some final) :
    Textual members := by
  induction members generalizing start with
  | nil => exact List.forall_mem_nil _
  | cons member members ih =>
      simp only [foldMembers, List.foldlM_cons, Option.bind_eq_bind,
        Option.bind_eq_some_iff] at read
      obtain ⟨next, ⟨key, spelled, _⟩, later⟩ := read
      exact List.forall_mem_cons.2 ⟨by simp [spelled], ih later⟩

theorem foldMembers_named (step : σ → String → ParseTree → Option σ) (start : σ)
    {members : List (List UInt8 × ParseTree)} (textual : Textual members) :
    foldMembers step start members =
      (named members).foldlM (fun state member => step state member.1 member.2) start := by
  induction members generalizing start with
  | nil => rfl
  | cons member members ih =>
      obtain ⟨first, later⟩ := List.forall_mem_cons.1 textual
      obtain ⟨key, spelled⟩ := Option.isSome_iff_exists.1 first
      rw [foldMembers, List.foldlM_cons, spelled, named_cons spelled, List.foldlM_cons]
      cases next : step start key member.2 with
      | none => simp [next]
      | some state =>
          simp only [Option.bind_some, next, Option.bind_eq_bind]
          exact ih state later

/-! Entries that are read one by one. -/

theorem isSome_mapM {f : α → Option β} {items : List α} :
    (items.mapM f).isSome ↔ ∀ item ∈ items, (f item).isSome := by
  induction items with
  | nil => simp
  | cons item items ih =>
      rw [List.mapM_cons, List.forall_mem_cons, ← ih]
      cases f item with
      | none => simp
      | some first => cases items.mapM f <;> simp

theorem mapM_forall₂ {f : α → Option β} {items : List α} {values : List β}
    (outcome : items.mapM f = some values) :
    List.Forall₂ (fun item value => f item = some value) items values := by
  induction items generalizing values with
  | nil =>
      obtain rfl : [] = values := by simpa using outcome
      exact .nil
  | cons item items ih =>
      simp only [List.mapM_cons, Option.bind_eq_bind, Option.bind_eq_some_iff, Option.pure_def,
        Option.some.injEq] at outcome
      obtain ⟨value, first, others, later, rfl⟩ := outcome
      exact .cons first (ih later)

theorem mem_of_forall₂ {R : α → β → Prop} {items : List α} {values : List β}
    (along : List.Forall₂ R items values) {value : β} (among : value ∈ values) :
    ∃ item ∈ items, R item value := by
  induction along with
  | nil => contradiction
  | cons first later ih =>
      rcases List.mem_cons.1 among with rfl | further
      · exact ⟨_, List.mem_cons_self, first⟩
      · obtain ⟨item, inside, related⟩ := ih further
        exact ⟨item, List.mem_cons_of_mem _ inside, related⟩

variable {f : String → α → Option β}

/-- Reads the value of every entry. -/
def mapEntries (f : String → α → Option β) (entries : List (String × α)) :
    Option (List (String × β)) :=
  entries.mapM fun entry => (f entry.1 entry.2).map fun value => (entry.1, value)

theorem mapEntries_cons (key : String) (value : α) (entries : List (String × α)) :
    mapEntries f ((key, value) :: entries) =
      (f key value).bind fun read => (mapEntries f entries).map ((key, read) :: ·) := by
  rw [mapEntries, List.mapM_cons, ← mapEntries]
  cases f key value with
  | none => rfl
  | some read => cases mapEntries f entries <;> rfl

theorem isSome_mapEntries {entries : List (String × α)}
    (distinct : (entries.map Prod.fst).Nodup) :
    (mapEntries f entries).isSome ↔
      ∀ key value, entries.lookup key = some value → (f key value).isSome := by
  simp only [mapEntries, isSome_mapM, Option.isSome_map]
  constructor
  · exact fun each key value found => each (key, value) (KeyMap.mem_of_lookup found)
  · exact fun each entry among => each entry.1 entry.2 (KeyMap.lookup_of_mem distinct among)

theorem keys_of_mapEntries {entries : List (String × α)} {read : List (String × β)}
    (outcome : mapEntries f entries = some read) : read.map Prod.fst = entries.map Prod.fst := by
  induction entries generalizing read with
  | nil =>
      obtain rfl : [] = read := Option.some.inj outcome
      rfl
  | cons entry entries ih =>
      obtain ⟨key, value⟩ := entry
      rw [mapEntries_cons, Option.bind_eq_some_iff] at outcome
      obtain ⟨first, _, rest⟩ := outcome
      obtain ⟨later, further, rfl⟩ := Option.map_eq_some_iff.1 rest
      rw [List.map_cons, List.map_cons, ih further]

theorem lookup_of_mapEntries {entries : List (String × α)} {read : List (String × β)}
    (outcome : mapEntries f entries = some read) (key : String) :
    read.lookup key = (entries.lookup key).bind (f key) := by
  induction entries generalizing read with
  | nil =>
      obtain rfl : [] = read := Option.some.inj outcome
      rfl
  | cons entry entries ih =>
      obtain ⟨other, value⟩ := entry
      rw [mapEntries_cons, Option.bind_eq_some_iff] at outcome
      obtain ⟨first, taken, rest⟩ := outcome
      obtain ⟨later, further, rfl⟩ := Option.map_eq_some_iff.1 rest
      rw [KeyMap.lookup_cons_eq, KeyMap.lookup_cons_eq, ih further]
      split
      next same =>
        subst same
        exact taken.symm
      next => rfl

theorem fold_table (item : ParseTree → Option α) (before : List (String × α))
    (entries : List (String × ParseTree)) :
    entries.foldlM (fun found entry =>
        (item entry.2).map fun value => found ++ [(entry.1, value)]) before =
      (mapEntries (fun _ => item) entries).map (before ++ ·) := by
  induction entries generalizing before with
  | nil => simp [mapEntries]
  | cons entry entries ih =>
      rw [List.foldlM_cons, mapEntries_cons]
      cases item entry.2 with
      | none => rfl
      | some value =>
          simp only [Option.map_some, Option.bind_eq_bind, Option.bind_some, ih]
          cases mapEntries (fun _ => item) entries <;> simp

/-- Members with different keys go to the end of an object one by one. -/
theorem fold_put (value : ParseTree → Option Json) (before : Bag)
    {entries : List (String × ParseTree)}
    (distinct : (before.map Prod.fst ++ entries.map Prod.fst).Nodup) :
    entries.foldlM (fun bag entry => putMember value bag entry.1 entry.2) before =
      (mapEntries (fun _ => value) entries).map (before ++ ·) := by
  induction entries generalizing before with
  | nil => simp [mapEntries]
  | cons entry entries ih =>
      have fresh : entry.1 ∉ before.map Prod.fst := fun found =>
        (List.nodup_append.1 distinct).2.2 _ found _ List.mem_cons_self rfl
      rw [List.foldlM_cons, mapEntries_cons, putMember]
      cases value entry.2 with
      | none => rfl
      | some found =>
          have onwards := ih (before ++ [(entry.1, found)]) (by simpa using distinct)
          simp only [Option.map_some, Option.bind_eq_bind, Option.bind_some, put_new fresh, onwards]
          cases mapEntries (fun _ => value) entries <;> simp

theorem foldMembers_table (item : ParseTree → Option α)
    {members : List (List UInt8 × ParseTree)} (textual : Textual members) :
    foldMembers (fun found key tree => (item tree).map fun value => found ++ [(key, value)]) []
        members = mapEntries (fun _ => item) (named members) := by
  rw [foldMembers_named _ _ textual, fold_table]
  simp

theorem foldMembers_put (value : ParseTree → Option Json)
    {members : List (List UInt8 × ParseTree)} (textual : Textual members)
    (distinct : ((named members).map Prod.fst).Nodup) :
    foldMembers (putMember value) [] members = mapEntries (fun _ => value) (named members) := by
  rw [foldMembers_named _ _ textual, fold_put _ _ (by simpa using distinct)]
  simp

/-! Records. -/

variable {datum : Kind → ParseTree → Option Datum} {known : List (Member Kind)}

/-- The member of a record that has this key. -/
def field? (known : List (Member Kind)) (key : String) : Option (Member Kind) :=
  known.find? (·.key = key)

theorem field?_eq_some {key : String} {member : Member Kind}
    (found : field? known key = some member) : member ∈ known ∧ member.key = key :=
  ⟨List.mem_of_find?_eq_some found, by simpa using List.find?_some found⟩

theorem exists_field? {member : Member Kind} (among : member ∈ known) :
    ∃ found, field? known member.key = some found := by
  rw [← Option.isSome_iff_exists, field?, List.find?_isSome]
  exact ⟨member, among, by simp⟩

/-- Values that are told by the keys of a record, with one more before them. -/
theorem map_key_cons {member : Member Kind} (fresh : member.key ∉ known.map Member.key)
    (values : String → α) (first : α) :
    first :: known.map (fun member => values member.key) = (member :: known).map fun other =>
      if other.key = member.key then first else values other.key := by
  have unlike (other : Member Kind) (among : other ∈ known) : other.key ≠ member.key :=
    fun same => fresh (same ▸ List.mem_map_of_mem among)
  rw [List.map_cons, if_pos rfl, List.map_congr_left fun other among => if_neg (unlike other among)]

/-- The keys that a record knows, as they come. -/
def knownKeys (known : List (Member Kind)) (entries : List (String × ParseTree)) : List String :=
  (entries.map Prod.fst).filter fun key => (field? known key).isSome

def gatherAll (datum : Kind → ParseTree → Option Datum) (known : List (Member Kind))
    (entries : List (String × ParseTree)) (start : Gathered) : Option Gathered :=
  entries.foldlM (fun gathered entry => gather datum known gathered entry.1 entry.2) start

theorem gatherAll_cons (entry : String × ParseTree) (entries : List (String × ParseTree))
    (start : Gathered) :
    gatherAll datum known (entry :: entries) start =
      (gather datum known start entry.1 entry.2).bind (gatherAll datum known entries) := by
  rw [gatherAll, List.foldlM_cons]
  rfl

theorem gather_unknown {key : String} (unknown : field? known key = none) (start : Gathered)
    (tree : ParseTree) : gather datum known start key tree = some start := by
  have missing : known.find? (·.key = key) = none := unknown
  rw [gather, missing]

theorem gather_known {key : String} {member : Member Kind}
    (found : field? known key = some member) (start : Gathered) (tree : ParseTree) :
    gather datum known start key tree =
      if (start.lookup key).isSome then none
      else (memberDatum? datum member tree).map fun value => (key, value) :: start := by
  have given : known.find? (·.key = key) = some member := found
  rw [gather, given]

/-- All members are taken up exactly if no known key is there twice and each of them has a value of
its kind. -/
theorem isSome_gatherAll {entries : List (String × ParseTree)} {start : Gathered} :
    (gatherAll datum known entries start).isSome ↔
      (knownKeys known entries).Nodup ∧
        (∀ key ∈ knownKeys known entries, start.lookup key = none) ∧
        ∀ entry ∈ entries, ∀ member, field? known entry.1 = some member →
          (memberDatum? datum member entry.2).isSome := by
  induction entries generalizing start with
  | nil => simp [gatherAll, knownKeys]
  | cons entry entries ih =>
      obtain ⟨key, tree⟩ := entry
      rw [gatherAll_cons]
      cases found : field? known key with
      | none =>
          have keys : knownKeys known ((key, tree) :: entries) = knownKeys known entries := by
            simp [knownKeys, found]
          simp only [gather_unknown found, Option.bind_some, ih, keys, List.forall_mem_cons, found]
          simp
      | some member =>
          have keys : knownKeys known ((key, tree) :: entries) =
              key :: knownKeys known entries := by
            simp [knownKeys, found]
          rw [gather_known found, keys]
          simp only [List.nodup_cons, List.forall_mem_cons, found, Option.some.injEq,
            forall_eq']
          by_cases repeated : (start.lookup key).isSome = true
          · have given : start.lookup key ≠ none := by
              rw [← Option.isSome_iff_ne_none]
              exact repeated
            simp [repeated, given]
          · have fresh : start.lookup key = none := Option.not_isSome_iff_eq_none.1 repeated
            cases value : memberDatum? datum member tree with
            | none => simp [fresh]
            | some read =>
                have apart : (∀ other ∈ knownKeys known entries,
                      List.lookup other ((key, read) :: start) = none) ↔
                    key ∉ knownKeys known entries ∧
                      ∀ other ∈ knownKeys known entries, start.lookup other = none := by
                  constructor
                  · intro each
                    refine ⟨fun among => ?_, fun other among => ?_⟩
                    · simpa using each key among
                    · have missing := each other among
                      rw [KeyMap.lookup_cons_eq] at missing
                      split at missing
                      next => contradiction
                      next => exact missing
                  · rintro ⟨absent, each⟩ other among
                    have different : other ≠ key := fun same => absent (same ▸ among)
                    rw [KeyMap.lookup_cons_eq, if_neg different]
                    exact each other among
                simp only [fresh, Option.isSome_none, Bool.false_eq_true, if_false,
                  Option.map_some, Option.bind_some, ih, apart, Option.isSome_some, true_and]
                constructor
                · rintro ⟨distinct, ⟨absent, each⟩, values⟩
                  exact ⟨⟨absent, distinct⟩, each, values⟩
                · rintro ⟨⟨absent, distinct⟩, each, values⟩
                  exact ⟨distinct, ⟨absent, each⟩, values⟩

/-- What a record has for a key is what was there before, or the value of the first member under
that key. -/
theorem lookup_of_gatherAll {entries : List (String × ParseTree)} {start final : Gathered}
    (read : gatherAll datum known entries start = some final) (key : String) :
    final.lookup key =
      (start.lookup key).or ((field? known key).bind fun member =>
        (entries.lookup key).bind (memberDatum? datum member)) := by
  induction entries generalizing start with
  | nil =>
      obtain rfl : start = final := Option.some.inj read
      cases field? known key <;> simp
  | cons entry entries ih =>
      obtain ⟨other, tree⟩ := entry
      rw [gatherAll_cons, Option.bind_eq_some_iff] at read
      obtain ⟨next, first, later⟩ := read
      rw [ih later, KeyMap.lookup_cons_eq]
      cases found : field? known other with
      | none =>
          rw [gather_unknown found] at first
          obtain rfl := Option.some.inj first
          by_cases same : key = other
          · simp [same, found]
          · rw [if_neg same]
      | some member =>
          rw [gather_known found] at first
          split at first
          next => contradiction
          next repeated =>
            have fresh := Option.not_isSome_iff_eq_none.1 repeated
            obtain ⟨value, taken, rfl⟩ := Option.map_eq_some_iff.1 first
            rw [KeyMap.lookup_cons_eq]
            by_cases same : key = other
            · subst same
              simp [fresh, found, taken]
            · rw [if_neg same, if_neg same]

end CatalogSeed.Document.ParseTree
