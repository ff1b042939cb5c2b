import CatalogSeed.Files.Writing

/-!
Removing, moving and copying items together with what is below them.
-/

namespace CatalogSeed.FileTree

/-- The names in the directory at a location, in order. -/
def children (tree : FileTree) (location : List String) : List String :=
  let names := tree.names.filterMap fun (other, _) =>
    if other ≠ [] ∧ other.dropLast = location then other.getLast? else none
  names.mergeSort fun a b => a ≤ b

/-- Takes away a name and all that is below it. -/
def remove (location : List String) (tree : FileTree) : FileTree :=
  { tree with
    names := tree.names.filter fun (other, _) => !location.isPrefixOf other
    numbered := fun name member => tree.numbered name (List.mem_filter.1 member).1
    }.changeAround location

/-- The nodes at a location and below it, with where they are from there. -/
def branch (tree : FileTree) (location : List String) : List (List String × Nat) :=
  (tree.names.filterMap fun (other, number) =>
    if location.isPrefixOf other then some (other.drop location.length, number)
    else none).mergeSort fun a b => !b.1.lex a.1 (· < ·)

@[simp] theorem made_remove (location : List String) (tree : FileTree) :
    (tree.remove location).made = tree.made := by
  simp [remove]

theorem branch_numbered {tree : FileTree} {location : List String} :
    ∀ name ∈ tree.branch location, name.2 < tree.made := by
  intro name member
  obtain ⟨⟨other, number⟩, inside, kept⟩ :=
    List.mem_filterMap.1 ((List.mergeSort_perm ..).mem_iff.1 member)
  obtain ⟨_, same⟩ := Option.ite_none_right_eq_some.1 kept
  obtain rfl := Option.some.inj same
  exact tree.numbered (other, number) inside

/-- Moves a name and all that is below it to a location where nothing else is left. -/
def move (source target : List String) (tree : FileTree) : FileTree :=
  let moved := (tree.branch source).map fun (name, number) => (target ++ name, number)
  let left := (tree.remove source).remove target
  { left with
    names := moved ++ left.names
    numbered := by
      intro name member
      rcases List.mem_append.1 member with above | other
      · obtain ⟨place, inside, rfl⟩ := List.mem_map.1 above
        have small := branch_numbered place inside
        simpa [left] using small
      · exact left.numbered name other }.changeAround target

/-- How many names a node has. A directory has one in itself, and one in each that it holds. -/
def linkCount (tree : FileTree) (location : List String) : Nat :=
  match tree.node? location, tree.number? location with
  | some node, some number =>
      if node.item = .directory then
        2 + ((tree.children location).filter fun name =>
          tree.item? (location ++ [name]) = some .directory).length
      else (tree.names.filter (·.2 = number)).length
  | _, _ => 0

end CatalogSeed.FileTree
