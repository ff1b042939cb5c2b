import CatalogSeed.Files.Path

/-!
Files and directories as a value. Names lead to nodes, and several names can lead to one node. A
location is the list of names that leads to a node from the root; symbolic links on the way are
followed.

Whoever looks at them is root, so no permission bit keeps anything from being read or written. The
standard input is empty, and a file of zeros without end is read as one that holds 1 MiB of them.
-/

namespace CatalogSeed

/-- Files that are no places for texts: one takes everything, one has no space, and others are what
a program reads and writes. -/
inductive Device
  | nothing
  | zeros
  | full
  | terminal
  | input
  | output
  | errors
  deriving DecidableEq

/-- The two numbers that a device is known by. -/
def Device.numbers : Device → Nat × Nat
  | nothing => (1, 3)
  | zeros => (1, 5)
  | full => (1, 7)
  | terminal => (5, 0)
  | input | output | errors => (1, 3)

inductive Item
  | directory
  | file (content : List UInt8)
  | link (target : String)
  | device (device : Device)
  /-- What was written by one program for another one to read. -/
  | pipe (content : List UInt8)
  | utility (name : String)
  deriving DecidableEq

namespace Item

/-- The item with another text; what holds no text stays as it is. -/
def fill (content : List UInt8) : Item → Item
  | file _ | utility _ => file content
  | pipe _ => pipe content
  | item => item

/-- The letter for the kind. -/
def letter : Item → Char
  | directory => 'd'
  | file _ | utility _ => '-'
  | link _ => 'l'
  | device _ => 'c'
  | pipe _ => 'p'

/-- The bits for the kind, which stand above those of a mode. -/
def kindBits : Item → Nat
  | directory => 0o040000
  | file _ | utility _ => 0o100000
  | link _ => 0o120000
  | device _ => 0o020000
  | pipe _ => 0o010000

/-- Whether this is a file with a text, or with a program. -/
def isPlain : Item → Bool
  | file _ | utility _ => true
  | _ => false

/-- How long the text is, or seems. -/
def size : Item → Nat
  | directory => 4096
  | file content => content.length
  | link target => target.utf8ByteSize
  | device _ | pipe _ => 0
  | utility _ => 68032

end Item

/-- What names lead to. The mode are the bits of what is permitted; `changed` and `used` tell when,
in nanoseconds since the beginning of 1970. -/
structure Node where
  item : Item
  mode : Nat
  user : Nat
  group : Nat
  changed : Int
  used : Int
  deriving DecidableEq

/-- The names with the numbers of their nodes, and the nodes by number. `made` counts the nodes, so
that its value is the number of no name yet; `mask` holds the bits that new nodes are not given,
`limits` the lower and the upper bounds that the process has set for itself, and `output` and
`errors` are what was written to the output devices. -/
structure FileTree where
  names : List (List String × Nat)
  nodes : List (Nat × Node)
  made : Nat
  numbered : ∀ name ∈ names, name.2 < made
  workingDirectory : List String
  mask : Nat
  limits : List (String × Option Nat × Option Nat)
  now : Int
  output : List UInt8
  errors : List UInt8

/-- Whether the mode lets anyone run this. -/
def Node.isRunnable (node : Node) : Bool :=
  node.mode &&& 0o111 ≠ 0

namespace FileTree

def number? (tree : FileTree) (location : List String) : Option Nat :=
  tree.names.lookup location

def node? (tree : FileTree) (location : List String) : Option Node :=
  (tree.number? location).bind fun number => tree.nodes.lookup number

def item? (tree : FileTree) (location : List String) : Option Item :=
  (tree.node? location).map (·.item)

/-- The location a name leads to from a directory, whether or not something is there. What the
system shows of itself is empty, and nothing can be made in it. -/
def follow (tree : FileTree) (location : List String) (name : String) :
    Except FileError (List String) :=
  if tree.item? location ≠ some .directory then .error .notDirectory
  else if name = "." then .ok location
  else if name = ".." then .ok location.dropLast
  else if Path.longestName < name.utf8ByteSize then .error .nameTooLong
  else if location = ["proc"] then .error .notFound
  else .ok (location ++ [name])

/-- How many symbolic links can stand on the way of one path. -/
def mostLinks : Nat := 40

/-- Follows names one by one, and so many links on the way. There must be something at each name
but the last; `last` tells whether a link that stands there is followed too. -/
def walk (tree : FileTree) (last : Bool) (links : Nat) (location names : List String) :
    Except FileError (List String) :=
  match names with
  | [] => .ok location
  | name :: rest =>
      match tree.follow location name with
      | .error error => .error error
      | .ok next =>
          match tree.item? next with
          | none => if rest = [] then .ok next else .error .notFound
          | some (.link target) =>
              if rest = [] && !last then .ok next
              else match links, Path.parse target with
                | 0, _ => .error .endless
                | _, .error error => .error error
                | links + 1, .ok path =>
                    tree.walk last links (if path.absolute then [] else location)
                      (path.steps ++ rest)
          | some _ => tree.walk last links next rest
termination_by (links, names.length)

def startOf (tree : FileTree) (path : Path) : List String :=
  if path.absolute then [] else tree.workingDirectory

/-- Where a path leads; there need not be anything. -/
def locate (tree : FileTree) (last : Bool) (path : Path) : Except FileError (List String) :=
  tree.walk last mostLinks (tree.startOf path) path.steps

def lookUp (tree : FileTree) (last : Bool) (text : String) :
    Except FileError (List String × Item) := do
  let location ← tree.locate last (← Path.parse text)
  match tree.item? location with
  | none => .error .notFound
  | some item => .ok (location, item)

/-- What a path leads to, behind all links. -/
def resolve (tree : FileTree) (text : String) : Except FileError (List String × Item) :=
  tree.lookUp true text

/-- What a path leads to, which may be a link. -/
def resolveSelf (tree : FileTree) (text : String) : Except FileError (List String × Item) :=
  tree.lookUp false text

/-- The node that a path leads to, behind all links. -/
def nodeAt (tree : FileTree) (text : String) : Except FileError Node := do
  let (location, _) ← tree.resolve text
  match tree.node? location with
  | none => .error .notFound
  | some node => .ok node

def isDirectory (tree : FileTree) (text : String) : Bool :=
  match tree.resolve text with
  | .ok (_, .directory) => true
  | _ => false

/-- The directory that the last name of a path stands in. -/
def parentOf (tree : FileTree) (path : Path) : Except FileError (List String) := do
  let parent ← tree.walk true mostLinks (tree.startOf path) path.names.dropLast
  match tree.item? parent with
  | some .directory => .ok parent
  | some _ => .error .notDirectory
  | none => .error .notFound

/-- Where a new name with this path would be; `none` for the root and for what ends in a point,
which cannot be new. -/
def place (tree : FileTree) (path : Path) : Except FileError (Option (List String)) := do
  let parent ← tree.parentOf path
  match path.lastName? with
  | none => .ok none
  | some name => some <$> tree.follow parent name

/-- Reads a file; of one without end, so many bytes. -/
def readUpTo (tree : FileTree) (most : Nat) (text : String) : Except FileError (List UInt8) := do
  match ← tree.resolve text with
  | (_, .directory) => .error .isDirectory
  | (_, .file content) | (_, .pipe content) => .ok content
  | (_, .device .terminal) => .error .noDevice
  | (_, .device .zeros) | (_, .device .full) => .ok (List.replicate most 0)
  | _ => .ok []

/-- How many zeros can be read. -/
def mostZeros : Nat := 1048576

def read (tree : FileTree) (text : String) : Except FileError (List UInt8) :=
  tree.readUpTo mostZeros text

end FileTree

end CatalogSeed
