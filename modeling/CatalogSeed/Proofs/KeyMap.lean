import CatalogSeed.KeyMap

/-!
What a map holds after its insertions: the last pair of a key counts, and the entries of a map
put together again give the same map.
-/

namespace CatalogSeed.KeyMap

variable {α : Type}

theorem ext {left right : KeyMap α} (same : left.entries = right.entries) : left = right := by
  cases left
  cases right
  simpa using same

theorem lookup_cons_eq {κ : Type} [BEq κ] [LawfulBEq κ] [DecidableEq κ] (key other : κ)
    (value : α) (rest : List (κ × α)) :
    ((other, value) :: rest).lookup key = if key = other then some value else rest.lookup key := by
  by_cases same : key = other
  · simp [same]
  · rw [List.lookup_cons, beq_eq_false_iff_ne.2 same, if_neg same]

theorem lookup_place (key other : String) (value : α) (entries : List (String × α)) :
    (place key value entries).lookup other =
      if other = key then some value else entries.lookup other := by
  induction entries with
  | nil => rw [place, lookup_cons_eq]
  | cons first rest ih =>
      obtain ⟨current, kept⟩ := first
      simp only [place]
      split
      · rw [lookup_cons_eq]
      · split
        next found =>
          subst found
          simp only [lookup_cons_eq]
          split <;> rfl
        next different =>
          simp only [lookup_cons_eq, ih]
          by_cases same : other = current
          · subst same
            simp [Ne.symm different]
          · simp only [same, if_false]

theorem mem_of_lookup {κ : Type} [BEq κ] [LawfulBEq κ] [DecidableEq κ] {key : κ} {value : α}
    {entries : List (κ × α)} (found : entries.lookup key = some value) : (key, value) ∈ entries := by
  induction entries with
  | nil => simp at found
  | cons first rest ih =>
      obtain ⟨other, kept⟩ := first
      rw [lookup_cons_eq] at found
      split at found
      next same =>
        simp only [Option.some.injEq] at found
        simp [same, found]
      next => exact List.mem_cons_of_mem _ (ih found)

theorem lookup_of_mem {key : String} {value : α} {entries : List (String × α)}
    (distinct : (entries.map Prod.fst).Nodup) (found : (key, value) ∈ entries) :
    entries.lookup key = some value := by
  induction entries with
  | nil => simp at found
  | cons first rest ih =>
      obtain ⟨fresh, later⟩ := List.nodup_cons.1 distinct
      rcases List.mem_cons.1 found with same | further
      · simp [← same]
      · have different : key ≠ first.1 := by
          rintro rfl
          exact fresh (List.mem_map.2 ⟨_, further, rfl⟩)
        rw [lookup_cons_eq, if_neg different, ih later further]

/-- Among different keys the order of the pairs does not matter. -/
theorem lookup_perm {left right : List (String × α)}
    (distinct : (left.map Prod.fst).Nodup) (same : left.Perm right) (key : String) :
    left.lookup key = right.lookup key := by
  have distinctToo := (same.map Prod.fst).nodup_iff.1 distinct
  refine Option.ext fun value => ⟨fun found => ?_, fun found => ?_⟩
  · exact lookup_of_mem distinctToo (same.mem_iff.1 (mem_of_lookup found))
  · exact lookup_of_mem distinct (same.mem_iff.2 (mem_of_lookup found))

theorem keys_nodup (map : KeyMap α) : (map.entries.map Prod.fst).Nodup := by
  refine List.pairwise_map.2 (map.ordered.imp ?_)
  intro left right below same
  exact String.lt_irrefl right.1 (by rwa [same] at below)

theorem mem_entries_iff {map : KeyMap α} {key : String} {value : α} :
    (key, value) ∈ map.entries ↔ map.get? key = some value :=
  ⟨lookup_of_mem map.keys_nodup, mem_of_lookup⟩

theorem mem_keys_iff {map : KeyMap α} {key : String} :
    key ∈ map.keys ↔ ∃ value, map.get? key = some value := by
  simp only [keys, List.mem_map]
  constructor
  · rintro ⟨⟨_, value⟩, among, rfl⟩
    exact ⟨value, mem_entries_iff.1 among⟩
  · rintro ⟨value, found⟩
    exact ⟨(key, value), mem_entries_iff.2 found, rfl⟩

theorem get?_insert (map : KeyMap α) (key other : String) (value : α) :
    (map.insert key value).get? other = if other = key then some value else map.get? other :=
  lookup_place key other value map.entries

theorem get?_foldl_insert (pairs : List (String × α)) (map : KeyMap α) (key : String) :
    (pairs.foldl (fun map pair => map.insert pair.1 pair.2) map).get? key =
      (pairs.reverse.lookup key).or (map.get? key) := by
  induction pairs generalizing map with
  | nil => simp
  | cons pair rest ih =>
      rw [List.foldl_cons, ih, get?_insert, List.reverse_cons, List.lookup_append, lookup_cons_eq,
        List.lookup_nil, Option.or_assoc]
      split <;> simp

/-- Of several pairs with a key the last counts. -/
theorem get?_ofList (pairs : List (String × α)) (key : String) :
    (ofList pairs).get? key = pairs.reverse.lookup key := by
  rw [ofList, get?_foldl_insert]
  exact Option.or_none

/-- When the value of a pair depends on its key alone, it does not matter which pair counts. -/
theorem get?_ofList_map (keys : List String) (value : String → α) (key : String) :
    (ofList (keys.map fun key => (key, value key))).get? key =
      if key ∈ keys then some (value key) else none := by
  have sameMember : key ∈ keys ↔ key ∈ keys.reverse := List.mem_reverse.symm
  rw [get?_ofList, ← List.map_reverse]
  simp only [sameMember]
  clear sameMember
  induction keys.reverse with
  | nil => rfl
  | cons first rest ih =>
      rw [List.map_cons, lookup_cons_eq, ih]
      by_cases same : key = first
      · simp [same]
      · simp [same]

theorem isEmpty_ofList (pairs : List (String × α)) : (ofList pairs).isEmpty = pairs.isEmpty := by
  rcases List.eq_nil_or_concat pairs with rfl | ⟨earlier, last, rfl⟩
  · rfl
  · rw [List.concat_eq_append]
    have found : (last.1, last.2) ∈ (ofList (earlier ++ [last])).entries := by
      rw [mem_entries_iff, get?_ofList, List.reverse_concat, lookup_cons_eq, if_pos rfl]
    rw [isEmpty, List.isEmpty_eq_false_iff.2 (List.ne_nil_of_mem found)]
    simp

theorem place_of_below {key : String} {value : α} {entries : List (String × α)}
    (below : ∀ pair ∈ entries, pair.1 < key) :
    place key value entries = entries ++ [(key, value)] := by
  induction entries with
  | nil => rfl
  | cons first rest ih =>
      have above := below first List.mem_cons_self
      have notBelow : ¬key < first.1 := fun less =>
        String.lt_irrefl _ (String.lt_trans less above)
      have different : key ≠ first.1 := fun same => String.lt_irrefl key (by rwa [← same] at above)
      simp only [place, notBelow, if_false, different, List.cons_append]
      rw [ih fun pair found => below pair (List.mem_cons_of_mem _ found)]

theorem entries_foldl_insert (pairs : List (String × α)) (map : KeyMap α)
    (ordered : (map.entries ++ pairs).Pairwise fun left right => left.1 < right.1) :
    (pairs.foldl (fun map pair => map.insert pair.1 pair.2) map).entries =
      map.entries ++ pairs := by
  induction pairs generalizing map with
  | nil => simp
  | cons pair rest ih =>
      have placed : (map.insert pair.1 pair.2).entries = map.entries ++ [pair] :=
        place_of_below fun other found =>
          (List.pairwise_append.1 ordered).2.2 other found pair List.mem_cons_self
      rw [List.foldl_cons, ih, placed, List.append_assoc, List.singleton_append]
      rwa [placed, List.append_assoc, List.singleton_append]

theorem entries_ofList {pairs : List (String × α)}
    (ordered : pairs.Pairwise fun left right => left.1 < right.1) :
    (ofList pairs).entries = pairs :=
  entries_foldl_insert pairs empty ordered

theorem ofList_entries (map : KeyMap α) : ofList map.entries = map :=
  ext (entries_ofList map.ordered)

theorem mem_of_mem_ofList {pairs : List (String × α)} {pair : String × α}
    (found : pair ∈ (ofList pairs).entries) : pair ∈ pairs := by
  obtain ⟨key, value⟩ := pair
  rw [mem_entries_iff, get?_ofList] at found
  exact List.mem_reverse.1 (mem_of_lookup found)

theorem get?_ofList_nodup {pairs : List (String × α)} (distinct : (pairs.map Prod.fst).Nodup)
    (key : String) : (ofList pairs).get? key = pairs.lookup key := by
  rw [get?_ofList, lookup_perm distinct (List.reverse_perm pairs).symm]

/-- A map is told by the values of its keys. -/
theorem ext_get? {left right : KeyMap α} (same : ∀ key, left.get? key = right.get? key) :
    left = right := by
  refine ext (List.Perm.eq_of_pairwise ?_ left.ordered right.ordered ?_)
  · intro first second _ _ below above
    exact absurd (String.lt_trans below above) (String.lt_irrefl _)
  · have distinct (map : KeyMap α) : map.entries.Nodup := by
      refine map.ordered.imp ?_
      rintro pair _ below rfl
      exact String.lt_irrefl pair.1 below
    refine (List.perm_ext_iff_of_nodup (distinct left) (distinct right)).2 fun pair => ?_
    rw [mem_entries_iff, mem_entries_iff, same]

/-- The map without a key. -/
def erase (map : KeyMap α) (key : String) : KeyMap α :=
  ⟨map.entries.filter fun pair => pair.1 ≠ key, map.ordered.filter _⟩

theorem lookup_filter_ne {κ : Type} [BEq κ] [LawfulBEq κ] [DecidableEq κ] {key other : κ}
    (different : other ≠ key) (entries : List (κ × α)) :
    (entries.filter fun pair => pair.1 ≠ key).lookup other = entries.lookup other := by
  induction entries with
  | nil => rfl
  | cons pair entries ih =>
      by_cases same : pair.1 = key
      · rw [List.filter_cons_of_neg (by simpa using same), ih, lookup_cons_eq,
          if_neg (same ▸ different)]
      · rw [List.filter_cons_of_pos (by simpa using same), lookup_cons_eq, lookup_cons_eq, ih]

theorem get?_erase (map : KeyMap α) (key other : String) :
    (map.erase key).get? other = if other = key then none else map.get? other := by
  split
  next same =>
    refine List.lookup_eq_none_iff.2 fun pair among => ?_
    have kept : pair.1 ≠ key := of_decide_eq_true (List.mem_filter.1 among).2
    rw [same, bne_iff_ne]
    exact kept.symm
  next different => exact lookup_filter_ne different map.entries

/-- Maps that agree on all keys but one are the same without it. -/
theorem erase_eq {left right : KeyMap α} {key : String}
    (agree : ∀ other, other ≠ key → left.get? other = right.get? other) :
    left.erase key = right.erase key := by
  refine ext_get? fun other => ?_
  rw [get?_erase, get?_erase]
  split
  next => rfl
  next different => exact agree other different

theorem lookup_map_values {β : Type} (change : String → α → β) (entries : List (String × α))
    (key : String) :
    (entries.map fun entry => (entry.1, change entry.1 entry.2)).lookup key =
      (entries.lookup key).map (change key) := by
  induction entries with
  | nil => rfl
  | cons entry entries ih =>
      rw [List.map_cons, lookup_cons_eq, lookup_cons_eq, ih]
      split
      next same => rw [same, Option.map_some]
      next => rfl

/-- The same keys with other values. -/
def mapValues {β : Type} (change : String → α → β) (map : KeyMap α) : KeyMap β :=
  ⟨map.entries.map fun entry => (entry.1, change entry.1 entry.2),
    List.pairwise_map.2 map.ordered⟩

theorem get?_mapValues {β : Type} (change : String → α → β) (map : KeyMap α) (key : String) :
    (map.mapValues change).get? key = (map.get? key).map (change key) :=
  lookup_map_values change map.entries key

theorem keys_mapValues {β : Type} (change : String → α → β) (map : KeyMap α) :
    (map.mapValues change).keys = map.keys :=
  List.map_map

/-- Maps have the same changed entries if they have the same changed values. -/
theorem map_entries_eq {β : Type} (change : String → α → β) {left right : KeyMap α}
    (same : ∀ key, (left.get? key).map (change key) = (right.get? key).map (change key)) :
    (left.entries.map fun entry => (entry.1, change entry.1 entry.2)) =
      right.entries.map fun entry => (entry.1, change entry.1 entry.2) := by
  have equal : left.mapValues change = right.mapValues change := ext_get? fun key => by
    rw [get?_mapValues, get?_mapValues, same]
  exact congrArg entries equal

end CatalogSeed.KeyMap
