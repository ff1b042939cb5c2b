/-!
Maps with text keys, kept as a list of pairs in strictly increasing order of the keys. Texts are
compared code point by code point, which is also the order of their bytes.
-/

namespace CatalogSeed

structure KeyMap (α : Type) where
  entries : List (String × α)
  ordered : entries.Pairwise fun left right => left.1 < right.1
  deriving DecidableEq

namespace KeyMap

variable {α β : Type}

def empty : KeyMap α := ⟨[], .nil⟩

instance : Inhabited (KeyMap α) := ⟨empty⟩

/-- Puts a pair in its place; a key that is already there takes the new value. -/
def place (key : String) (value : α) : List (String × α) → List (String × α)
  | [] => [(key, value)]
  | (other, kept) :: rest =>
      if key < other then (key, value) :: (other, kept) :: rest
      else if key = other then (key, value) :: rest
      else (other, kept) :: place key value rest

theorem mem_place {key : String} {value : α} {entries : List (String × α)} {pair : String × α}
    (found : pair ∈ place key value entries) : pair = (key, value) ∨ pair ∈ entries := by
  induction entries with
  | nil => simpa [place] using found
  | cons first rest ih =>
      obtain ⟨other, kept⟩ := first
      simp only [place] at found
      split at found
      · simpa using found
      · split at found
        · rcases List.mem_cons.1 found with same | later
          · exact Or.inl same
          · exact Or.inr (List.mem_cons_of_mem _ later)
        · rcases List.mem_cons.1 found with same | later
          · exact Or.inr (same ▸ List.mem_cons_self)
          · exact (ih later).imp id (List.mem_cons_of_mem _)

theorem place_ordered (key : String) (value : α) {entries : List (String × α)}
    (ordered : entries.Pairwise fun left right => left.1 < right.1) :
    (place key value entries).Pairwise fun left right => left.1 < right.1 := by
  induction entries with
  | nil => simp [place]
  | cons first rest ih =>
      obtain ⟨other, kept⟩ := first
      obtain ⟨above, later⟩ := List.pairwise_cons.1 ordered
      simp only [place]
      split
      next below =>
        refine List.pairwise_cons.2 ⟨fun pair found => ?_, ordered⟩
        rcases List.mem_cons.1 found with same | further
        · exact same ▸ below
        · exact String.lt_trans below (above pair further)
      next notBelow =>
        split
        next same =>
          subst same
          exact List.pairwise_cons.2 ⟨above, later⟩
        next different =>
          refine List.pairwise_cons.2 ⟨fun pair found => ?_, ih later⟩
          rcases mem_place found with same | further
          · subst same
            exact Std.lt_of_le_of_ne (Std.not_lt.1 notBelow) (Ne.symm different)
          · exact above pair further

def insert (key : String) (value : α) (map : KeyMap α) : KeyMap α :=
  ⟨place key value map.entries, place_ordered key value map.ordered⟩

/-- Later pairs win over earlier ones with the same key. -/
def ofList (pairs : List (String × α)) : KeyMap α :=
  pairs.foldl (fun map pair => map.insert pair.1 pair.2) empty

def get? (map : KeyMap α) (key : String) : Option α :=
  map.entries.lookup key

def keys (map : KeyMap α) : List String :=
  map.entries.map Prod.fst

def size (map : KeyMap α) : Nat :=
  map.entries.length

def isEmpty (map : KeyMap α) : Bool :=
  map.entries.isEmpty

end KeyMap

end CatalogSeed
