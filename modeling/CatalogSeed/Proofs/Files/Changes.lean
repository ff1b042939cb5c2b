import CatalogSeed.Files.Writing
import CatalogSeed.Proofs.KeyMap

/-!
What stands at each location of a tree after a change of it.
-/

namespace CatalogSeed.FileTree

variable {tree : FileTree} {location other : List String} {number : Nat}

/-- What stands at a location, without the times. -/
def seen? (tree : FileTree) (location : List String) : Option (Item × Nat) :=
  (tree.node? location).map fun node => (node.item, node.mode)

/-- What a regular file holds, and its mode. -/
def file? (tree : FileTree) (location : List String) : Option (Item × Nat) :=
  (tree.seen? location).filter fun seen => seen.1.isPlain

theorem item?_eq_seen? (tree : FileTree) (location : List String) :
    tree.item? location = (tree.seen? location).map Prod.fst := by
  rw [item?, seen?, Option.map_map]
  rfl

theorem seen?_of_item?_none (nothing : tree.item? location = none) :
    tree.seen? location = none := by
  rwa [item?_eq_seen?, Option.map_eq_none_iff] at nothing

theorem number?_lt (found : tree.number? location = some number) : number < tree.made :=
  tree.numbered (location, number) (KeyMap.mem_of_lookup found)

theorem exists_number? {item : Item} (there : tree.item? location = some item) :
    ∃ number, tree.number? location = some number := by
  unfold item? node? at there
  cases found : tree.number? location with
  | none =>
      rw [found] at there
      contradiction
  | some number => exact ⟨number, rfl⟩

/-- Names of one node show the same. -/
theorem seen?_of_number? (same : tree.number? location = tree.number? other) :
    tree.seen? location = tree.seen? other := by
  rw [seen?, node?, same]
  rfl

theorem item?_of_number? (same : tree.number? location = tree.number? other) :
    tree.item? location = tree.item? other := by
  rw [item?_eq_seen?, seen?_of_number? same, ← item?_eq_seen?]

/-! Nodes that are changed. -/

@[simp] theorem number?_change (edit : Node → Node) (tree : FileTree)
    (location : List String) :
    (tree.change number edit).number? location = tree.number? location := by
  unfold change number?
  split <;> rfl

theorem lookup_change (edit : Node → Node) (tree : FileTree) (key : Nat) :
    (tree.change number edit).nodes.lookup key =
      if key = number then (tree.nodes.lookup key).map edit else tree.nodes.lookup key := by
  unfold change
  cases found : tree.nodes.lookup number with
  | none =>
      by_cases here : key = number
      · rw [if_pos here, here, found]
        rfl
      · rw [if_neg here]
  | some node =>
      by_cases here : key = number
      · simp [here, found]
      · rw [if_neg here, KeyMap.lookup_cons_eq, if_neg here]
        exact KeyMap.lookup_filter_ne here tree.nodes

theorem node?_change (edit : Node → Node) (tree : FileTree) (location : List String) :
    (tree.change number edit).node? location =
      if tree.number? location = some number then (tree.node? location).map edit
      else tree.node? location := by
  unfold node?
  rw [number?_change]
  cases tree.number? location with
  | none => rfl
  | some key => simp [lookup_change]

@[simp] theorem number?_changeAround (place location : List String) (tree : FileTree) :
    (tree.changeAround place).number? location = tree.number? location := by
  unfold changeAround
  split <;> simp

@[simp] theorem seen?_changeAround (place location : List String) (tree : FileTree) :
    (tree.changeAround place).seen? location = tree.seen? location := by
  unfold changeAround
  split
  next => rfl
  next number _ =>
    unfold seen?
    rw [node?_change]
    split
    next => rw [Option.map_map]; rfl
    next => rfl

/-! Nodes that are made. -/

theorem number?_addNode (node : Node) (tree : FileTree) (location : List String) :
    (tree.addNode node).number? location = tree.number? location :=
  rfl

theorem seen?_addNode (node : Node) (tree : FileTree) (location : List String) :
    (tree.addNode node).seen? location = tree.seen? location := by
  unfold seen? node?
  rw [number?_addNode]
  cases found : tree.number? location with
  | none => rfl
  | some number =>
      have older : number ≠ tree.made := by
        have small := number?_lt found
        omega
      have skipped : (number == tree.made) = false := by simpa using older
      simp only [addNode, Option.bind_some, List.lookup_cons, skipped]

theorem number?_addName (small : number < tree.made) (location other : List String) :
    (tree.addName location number).number? other =
      if other = location then some number else tree.number? other := by
  unfold addName
  rw [dif_pos small, number?_changeAround]
  change ((location, number) :: tree.names.filter fun name => name.1 ≠ location).lookup other = _
  rw [KeyMap.lookup_cons_eq]
  by_cases here : other = location
  · rw [if_pos here, if_pos here]
  · rw [if_neg here, if_neg here]
    exact KeyMap.lookup_filter_ne here tree.names

theorem seen?_addName (small : number < tree.made) (location other : List String) :
    (tree.addName location number).seen? other =
      if other = location then
        (tree.nodes.lookup number).map fun node => (node.item, node.mode)
      else tree.seen? other := by
  have named := @number?_addName tree number small location other
  unfold addName at named ⊢
  rw [dif_pos small, number?_changeAround] at named
  rw [dif_pos small, seen?_changeAround]
  unfold seen? node?
  rw [named]
  by_cases here : other = location
  · rw [if_pos here, if_pos here]
    rfl
  · rw [if_neg here, if_neg here]

/-- Only where something is made anything else is seen. -/
theorem seen?_create (location other : List String) (item : Item) (mode : Nat)
    (tree : FileTree) :
    (tree.create location item mode).seen? other =
      if other = location then some (item, mode - (mode &&& tree.mask)) else tree.seen? other := by
  unfold create put
  rw [seen?_addName (Nat.lt_succ_self _), seen?_addNode]
  simp [addNode]

theorem item?_create (location other : List String) (item : Item) (mode : Nat)
    (tree : FileTree) :
    (tree.create location item mode).item? other =
      if other = location then some item else tree.item? other := by
  rw [item?_eq_seen?, seen?_create]
  by_cases here : other = location
  · rw [if_pos here, if_pos here]
    rfl
  · rw [if_neg here, if_neg here, ← item?_eq_seen?]

theorem number?_create (location other : List String) (item : Item) (mode : Nat)
    (tree : FileTree) :
    (tree.create location item mode).number? other =
      if other = location then some tree.made else tree.number? other := by
  unfold create put
  rw [number?_addName (Nat.lt_succ_self _), number?_addNode]

/-- Filling a node is seen wherever it is named. -/
theorem seen?_fill (content : List UInt8) (tree : FileTree) (location : List String) :
    (tree.fill number content).seen? location =
      if tree.number? location = some number then
        (tree.seen? location).map fun seen => (seen.1.fill content, seen.2)
      else tree.seen? location := by
  unfold fill seen?
  rw [node?_change]
  split
  next => rw [Option.map_map, Option.map_map]; rfl
  next => rfl

theorem item?_fill (content : List UInt8) (tree : FileTree) (location : List String) :
    (tree.fill number content).item? location =
      if tree.number? location = some number then
        (tree.item? location).map fun item => item.fill content
      else tree.item? location := by
  rw [item?_eq_seen?, seen?_fill, item?_eq_seen?]
  by_cases same : tree.number? location = some number
  · rw [if_pos same, if_pos same, Option.map_map, Option.map_map]
    rfl
  · rw [if_neg same, if_neg same]

end CatalogSeed.FileTree
