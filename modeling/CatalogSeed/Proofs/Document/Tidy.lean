import CatalogSeed.Proofs.Document.Named

/-!
Whatever a document holds, no object that is kept of it has a key twice, and none nests deeper than
the levels that were allowed.
-/

namespace CatalogSeed

theorem mem_put {bag : Bag} {key : String} {value : Json} {member : String × Json}
    (found : member ∈ bag.put key value) : member.2 = value ∨ member ∈ bag := by
  induction bag with
  | nil =>
      obtain rfl : member = (key, value) := by simpa [Bag.put] using found
      exact Or.inl rfl
  | cons pair bag ih =>
      simp only [Bag.put] at found
      split at found
      · rcases List.mem_cons.1 found with rfl | later
        · exact Or.inl rfl
        · exact Or.inr (List.mem_cons_of_mem _ later)
      · rcases List.mem_cons.1 found with rfl | later
        · exact Or.inr List.mem_cons_self
        · exact (ih later).imp id (List.mem_cons_of_mem _)

theorem put_keys (bag : Bag) (key : String) (value : Json) :
    (bag.put key value).map Prod.fst =
      if key ∈ bag.map Prod.fst then bag.map Prod.fst else bag.map Prod.fst ++ [key] := by
  induction bag with
  | nil => rfl
  | cons pair bag ih =>
      by_cases same : pair.1 = key
      · simp [Bag.put, same]
      · simp only [Bag.put, same, if_false, List.map_cons, ih, List.mem_cons, Ne.symm same,
          false_or]
        split <;> rfl

theorem put_tidy {bag : Bag} (tidy : (Json.object bag).Tidy) (key : String) {value : Json}
    (added : value.Tidy) : (Json.object (bag.put key value)).Tidy := by
  obtain ⟨distinct, each⟩ := Json.tidy_object.1 tidy
  refine Json.tidy_object.2 ⟨?_, fun member found => ?_⟩
  · rw [put_keys]
    split
    next => exact distinct
    next fresh =>
      refine List.nodup_append.2 ⟨distinct, by simp, fun other among new only => ?_⟩
      obtain rfl := List.mem_singleton.1 only
      rintro rfl
      exact fresh among
  · rcases mem_put found with same | among
    · exact same ▸ added
    · exact each member among

namespace Document.ParseTree

/-- A state that every member keeps a property of has it in the end. -/
theorem foldMembers_keeps {σ : Type} {P : σ → Prop} {step : σ → String → ParseTree → Option σ}
    {start final : σ} {members : List (List UInt8 × ParseTree)}
    (read : foldMembers step start members = some final)
    (keeps : ∀ state key, P state → ∀ member ∈ members, ∀ next,
      step state key member.2 = some next → P next)
    (holds : P start) : P final := by
  induction members generalizing start with
  | nil =>
      have same : start = final := Option.some.inj read
      exact same ▸ holds
  | cons member members ih =>
      simp only [foldMembers, List.foldlM_cons, Option.bind_eq_bind,
        Option.bind_eq_some_iff] at read
      obtain ⟨next, ⟨key, _, first⟩, later⟩ := read
      have kept : P next := keeps start key holds member List.mem_cons_self next first
      refine ih later ?_ kept
      intro state key holds other among
      exact keeps state key holds other (List.mem_cons_of_mem _ among)

/-- What is read of a tree has no key twice, and nests no deeper than the levels it was given. -/
theorem json?_kept {nesting : Nat} {tree : ParseTree} {found : Json}
    (read : json? nesting tree = some found) : found.Tidy ∧ found.depth ≤ nesting := by
  induction tree generalizing nesting found with
  | null =>
      obtain rfl : Json.null = found := by simpa [json?] using read
      exact ⟨Json.tidy_null, Nat.zero_le _⟩
  | bool value =>
      obtain rfl : Json.bool value = found := by simpa [json?] using read
      exact ⟨Json.tidy_bool value, Nat.zero_le _⟩
  | number written =>
      rw [json?, Option.map_eq_some_iff] at read
      obtain ⟨value, _, rfl⟩ := read
      exact ⟨Json.tidy_number value, Nat.zero_le _⟩
  | string written =>
      rw [json?, Option.map_eq_some_iff] at read
      obtain ⟨text, _, rfl⟩ := read
      exact ⟨Json.tidy_string text, Nat.zero_le _⟩
  | array items ih =>
      cases nesting with
      | zero => contradiction
      | succ nesting =>
          rw [json?, Option.map_eq_some_iff] at read
          obtain ⟨founds, outcome, rfl⟩ := read
          have each : ∀ found ∈ founds, found.Tidy ∧ found.depth ≤ nesting := by
            intro found among
            obtain ⟨item, inside, taken⟩ := mem_of_forall₂ (mapM_forall₂ outcome) among
            exact ih item inside taken
          exact ⟨Json.tidy_array.2 fun found among => (each found among).1,
            Json.depth_array_le.2 fun found among => (each found among).2⟩
  | object members ih =>
      cases nesting with
      | zero => contradiction
      | succ nesting =>
          rw [json?, Option.map_eq_some_iff] at read
          obtain ⟨bag, outcome, rfl⟩ := read
          let Kept (bag : Bag) : Prop :=
            (Json.object bag).Tidy ∧ (Json.object bag).depth ≤ nesting + 1
          have start : Kept [] := ⟨Json.tidy_object.2 (by simp), Json.depth_object_le.2 nofun⟩
          have kept : Kept bag := by
            refine foldMembers_keeps outcome ?_ start
            intro before key holds member inside next put
            obtain ⟨value, taken, rfl⟩ := Option.map_eq_some_iff.1 put
            obtain ⟨tidy, shallow⟩ := ih member inside taken
            refine ⟨put_tidy holds.1 key tidy, Json.depth_object_le.2 ?_⟩
            intro other among
            rcases mem_put among with same | earlier
            · exact same ▸ shallow
            · exact Json.depth_object_le.1 holds.2 other earlier
          exact kept

end Document.ParseTree

end CatalogSeed
