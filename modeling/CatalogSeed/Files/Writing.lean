import CatalogSeed.Files.Fresh

/-!
Making files and directories, and changing what they hold. Every action gives the tree it leaves,
also when it fails.
-/

namespace CatalogSeed.FileTree

/-- The tree that another process leaves for one that goes on in its own directory, with its own
output devices. -/
def rejoin (tree own : FileTree) : FileTree :=
  { tree with
    workingDirectory := own.workingDirectory
    mask := own.mask
    limits := own.limits
    output := own.output
    errors := own.errors }

/-- Changes the node with a number. -/
def change (number : Nat) (change : Node → Node) (tree : FileTree) : FileTree :=
  match tree.nodes.lookup number with
  | none => tree
  | some node =>
      { tree with nodes := (number, change node) :: tree.nodes.filter (·.1 ≠ number) }

@[simp] theorem made_change (number : Nat) (edit : Node → Node) (tree : FileTree) :
    (tree.change number edit).made = tree.made := by
  unfold change
  split <;> rfl

/-- Takes note of a change to the directory that a location is in. -/
def changeAround (location : List String) (tree : FileTree) : FileTree :=
  match tree.number? location.dropLast with
  | none => tree
  | some number => tree.change number fun node => { node with changed := tree.now }

@[simp] theorem made_changeAround (location : List String) (tree : FileTree) :
    (tree.changeAround location).made = tree.made := by
  unfold changeAround
  split <;> simp

/-- The names, with one that leads to another node than before. -/
def rename (location : List String) (number : Nat) (names : List (List String × Nat)) :
    List (List String × Nat) :=
  (location, number) :: names.filter (·.1 ≠ location)

theorem rename_numbered {location : List String} {number bound : Nat}
    {names : List (List String × Nat)} (small : number < bound)
    (numbered : ∀ name ∈ names, name.2 < bound) :
    ∀ name ∈ rename location number names, name.2 < bound := by
  intro name member
  rcases List.mem_cons.1 member with rfl | other
  · exact small
  · exact numbered name (List.mem_filter.1 other).1

/-- Gives a node one more name. -/
def addName (location : List String) (number : Nat) (tree : FileTree) : FileTree :=
  if small : number < tree.made then
    { tree with
      names := rename location number tree.names
      numbered := rename_numbered small tree.numbered }.changeAround location
  else tree

/-- Adds a node that has no name yet. -/
def addNode (node : Node) (tree : FileTree) : FileTree :=
  { tree with
    nodes := (tree.made, node) :: tree.nodes
    made := tree.made + 1
    numbered := fun name member => Nat.lt_succ_of_lt (tree.numbered name member) }

/-- Puts a node at a location. -/
def put (location : List String) (node : Node) (tree : FileTree) : FileTree :=
  (tree.addNode node).addName location tree.made

/-- Makes a new item, with the mode that the mask leaves. -/
def create (location : List String) (item : Item) (mode : Nat) (tree : FileTree) : FileTree :=
  let mode := mode - (mode &&& tree.mask)
  tree.put location ⟨item, mode, 0, 0, tree.now, tree.now⟩

/-- Gives a node another text to hold. -/
def fill (number : Nat) (content : List UInt8) (tree : FileTree) : FileTree :=
  tree.change number fun node =>
    { node with item := node.item.fill content, changed := tree.now }

/-- Where a file can be opened for writing, and what is there. A path that can only be a
directory is refused once the names before its last one are there. -/
def openForWriting (tree : FileTree) (text : String) :
    Except FileError (List String × Option Item) := do
  let path ← Path.parse text
  match path.lastName?, path.slashAtEnd with
  | some _, false =>
      let location ← tree.locate true path
      match tree.item? location with
      | some .directory => .error .isDirectory
      | some (.device .terminal) => .error .noDevice
      | item => .ok (location, item)
  | _, _ =>
      let _ ← tree.parentOf path
      .error .isDirectory

/-- Writes a whole file; one that is there already is filled anew and keeps its mode. -/
def write (text : String) (content : List UInt8) (tree : FileTree) :
    Except FileError Unit × FileTree :=
  match tree.openForWriting text with
  | .error error => (.error error, tree)
  | .ok (location, item) =>
      match item, tree.number? location with
      | some (.file _), some number | some (.utility _), some number
      | some (.pipe _), some number => (.ok (), tree.fill number content)
      | none, _ => (.ok (), tree.create location (.file content) 0o666)
      | some (.device .full), _ => (if content = [] then .ok () else .error .noSpace, tree)
      | some (.device .output), _ => (.ok (), { tree with output := tree.output ++ content })
      | some (.device .errors), _ => (.ok (), { tree with errors := tree.errors ++ content })
      | _, _ => (.ok (), tree)

/-- Changes the node that a path leads to. -/
def changeAt (text : String) (change : Node → Node) (tree : FileTree) : FileTree :=
  match (tree.resolve text).toOption.bind fun (location, _) => tree.number? location with
  | some number => tree.change number change
  | none => tree

def createDirectory (text : String) (tree : FileTree) : Except FileError FileTree := do
  let path ← Path.parse text
  match ← tree.place path with
  | none => .error .alreadyThere
  | some location =>
      if (tree.item? location).isSome then .error .alreadyThere
      else .ok (tree.create location .directory 0o777)

/-- Creates the first of these directories, after the others where those are missing. -/
def createFirst : List String → FileTree → Except FileError Unit × FileTree
  | [], tree => (.ok (), tree)
  | text :: outer, tree =>
      match tree.createDirectory text with
      | .ok tree => (.ok (), tree)
      | .error .notFound =>
          match createFirst outer tree with
          | (.error error, tree) => (.error error, tree)
          | (.ok (), tree) =>
              match tree.createDirectory text with
              | .ok tree => (.ok (), tree)
              | .error error => (if tree.isDirectory text then .ok () else .error error, tree)
      | .error error => (if tree.isDirectory text then .ok () else .error error, tree)

/-- Creates a directory and those above it, as far as they are missing. -/
def createDirectories (text : String) (tree : FileTree) : Except FileError Unit × FileTree :=
  createFirst (Path.ancestors text.length text) tree

/-- Puts a file in its place, with the directories above it. -/
def putFile (path : String) (content : List UInt8) (executable : Bool) (tree : FileTree) :
    Except FileError Unit × FileTree :=
  let parent := (Path.parent? path).getD ""
  let (_, tree) := if parent = "" then (.ok (), tree) else tree.createDirectories parent
  let (written, tree) := tree.write path content
  let allow (node : Node) : Node := { node with mode := 0o755 }
  (written, if executable then tree.changeAt path allow else tree)

end CatalogSeed.FileTree
