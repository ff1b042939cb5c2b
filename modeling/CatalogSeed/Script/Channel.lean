import CatalogSeed.Files.Writing
import CatalogSeed.Text.Octets

/-!
What the descriptors of a shell lead to. A stream is shared by all that hold its number: what one
reads or writes, the others find read or written.
-/

namespace CatalogSeed.Script

/-- What can be done with an open file. -/
inductive Access
  | reading
  | writing
  | appending
  | both
  deriving DecidableEq

inductive Stream
  /-- Text that is still to be read. -/
  | source (left : List UInt8)
  /-- What was written so far and when, the last piece first; there may be no room for much more. -/
  | sink (pieces : List (Int × String)) (room : Option Nat)
  /-- A file by the number of its node, and the place in it. -/
  | file (node offset : Nat) (access : Access)
  | directory
  | nothing
  | zeros
  /-- What has no space for anything that is written. -/
  | full

/-- How much can wait between two commands of a pipeline. -/
def waitingRoom : Nat := 65536

/-- A command beside the shell, with its status, and when it ends; `signal` ended it early, and
`noted` tells that somebody has waited for it. -/
structure Child where
  process : Nat
  status : Nat
  ends : Int
  signal : Option Nat
  noted : Bool

/-- What a command beside the shell writes to a stream at a moment. -/
structure Held where
  process : Nat
  number : Nat
  text : String
  moment : Int

/-- When the time of all who run is over, and the signal that ends them. -/
structure Deadline where
  moment : Int
  signal : Nat

/-- What all shells of a run share. `held` is output that has yet to come, and `expired` tells that
the deadline has passed. -/
structure World where
  tree : FileTree
  streams : List (Nat × Stream)
  opened : Nat
  processes : Nat
  children : List Child
  killed : Option Nat
  held : List Held
  deadline : Option Deadline
  expired : Bool

namespace World

def stream (number : Nat) (world : World) : Stream :=
  (world.streams.lookup number).getD .nothing

def setStream (number : Nat) (stream : Stream) (world : World) : World :=
  { world with streams := (number, stream) :: world.streams.filter (·.1 ≠ number) }

/-- Opens a stream, and gives its number. -/
def openStream (stream : Stream) (world : World) : Nat × World :=
  (world.opened, { world.setStream world.opened stream with opened := world.opened + 1 })

def close (number : Nat) (world : World) : World :=
  { world with streams := world.streams.filter (·.1 ≠ number) }

/-- Puts bytes into a content at an offset; a gap before it is filled with zeros. -/
def overwrite (content bytes : List UInt8) (offset : Nat) : List UInt8 :=
  content.take offset ++ List.replicate (offset - content.length) 0 ++ bytes ++
    content.drop (offset + bytes.length)

/-- What the node of an open file holds. -/
def content (node : Nat) (world : World) : List UInt8 :=
  match (world.tree.nodes.lookup node).map Node.item with
  | some (.file content) | some (.pipe content) => content
  | _ => []

/-- Writes to a stream; fails for one that is only read from. -/
def write (number : Nat) (text : String) (world : World) : Option World :=
  match world.streams.lookup number with
  | some (.sink pieces room) =>
      let room := room.map (· - text.utf8ByteSize)
      some (world.setStream number (.sink ((world.tree.now, text) :: pieces) room))
  | some .nothing | some .zeros => some world
  | some (.file node offset access) =>
      if access = .reading then none
      else
        let bytes := Octets.toBytes text
        let content := world.content node
        let offset := if access = .appending then content.length else offset
        let tree := world.tree.fill node (overwrite content bytes offset)
        let stream := .file node (offset + bytes.length) access
        some ({ world with tree }.setStream number stream)
  | _ => none

/-- Whether nobody takes any more of what is written to a stream. -/
def isFull (number : Nat) (world : World) : Bool :=
  match world.streams.lookup number with
  | some (.sink _ (some 0)) => true
  | _ => false

/-- All that is left to read from a stream; none if it cannot be read from. -/
def left (number : Nat) (world : World) : Option (List UInt8) :=
  match world.streams.lookup number with
  | some (.source left) => some left
  | some .nothing => some []
  | some .zeros | some .full => some (List.replicate FileTree.mostZeros 0)
  | some (.file node offset access) =>
      if access = .writing || access = .appending then none
      else some ((world.content node).drop offset)
  | _ => none

/-- Takes bytes off the front of a stream. -/
def advance (number count : Nat) (world : World) : World :=
  match world.streams.lookup number with
  | some (.source left) => world.setStream number (.source (left.drop count))
  | some (.file node offset access) =>
      world.setStream number (.file node (offset + count) access)
  | _ => world

/-- What was written to a stream. -/
def gathered (number : Nat) (world : World) : String :=
  match world.stream number with
  | .sink pieces _ => String.join (pieces.reverse.map Prod.snd)
  | _ => ""

/-- The world with nothing written to any stream that gathers what is written. -/
def silent (world : World) : World :=
  { world with streams := world.streams.map fun (number, stream) =>
      (number, match stream with
        | .sink _ room => .sink [] room
        | stream => stream) }

/-- What is written within this time, in nanoseconds, seems to be written at once. -/
def patience : Int := 5000000

/-- Holds back what a command beside the shell has written since a world fell silent, and goes back
to the moment at which it was started. -/
def hold (process status : Nat) (before after : World) : World :=
  let start := before.tree.now
  let momentOf (moment : Int) : Int := if moment < start + patience then start else moment
  let new := after.streams.flatMap fun (number, stream) =>
    match stream, before.streams.lookup number with
    | .sink pieces _, some (.sink _ _) =>
        pieces.reverse.map fun (moment, text) => ⟨process, number, text, momentOf moment⟩
    | _, _ => []
  let streams := after.streams.map fun (number, stream) =>
    (number, match before.streams.lookup number with
      | some (.sink pieces room) => .sink pieces room
      | _ => stream)
  let child : Child := ⟨process, status, momentOf after.tree.now, none, false⟩
  { after with
    streams, held := after.held ++ new, children := child :: after.children
    tree := { after.tree with now := start }
    deadline := before.deadline, expired := before.expired }

/-- Writes what was held back: all of it, or what was written by now. -/
def release (all : Bool) (world : World) : World :=
  let (ready, later) := world.held.partition fun held => all || held.moment ≤ world.tree.now
  let ready := ready.mergeSort fun a b => a.moment ≤ b.moment
  ready.foldl (fun world held => (world.write held.number held.text).getD world)
    { world with held := later }

def child? (process : Nat) (world : World) : Option Child :=
  world.children.find? (·.process = process)

/-- Lets time pass, but not more than there is until the deadline. -/
def pass (span : Int) (world : World) : World :=
  let now := world.tree.now + max span 0
  match world.deadline with
  | some deadline =>
      if !world.expired && deadline.moment ≤ now then
        { world with tree := { world.tree with now := deadline.moment }, expired := true }
      else { world with tree := { world.tree with now } }
  | none => { world with tree := { world.tree with now } }

/-- Lets time pass until a moment, and writes what comes until then. -/
def passUntil (moment : Int) (world : World) : World :=
  (world.pass (moment - world.tree.now)).release false

/-- Takes note of the end of commands beside the shell. -/
def note (chosen : Child → Bool) (world : World) : World :=
  { world with children := world.children.map fun child =>
      if chosen child then { child with noted := true } else child }

/-- Waits for all commands beside the shell. -/
def awaitAll (world : World) : World :=
  let last := world.children.foldl (fun last child => max last child.ends) world.tree.now
  (world.passUntil last).note fun _ => true

/-- Waits for a command beside the shell. -/
def await (process : Nat) (world : World) : World :=
  match world.child? process with
  | some child => (world.passUntil child.ends).note (·.process = process)
  | none => world

/-- The command beside the shell that ends next, or has ended without notice. -/
def nextChild? (world : World) : Option Child :=
  let left := (world.children.filter (!·.noted)).reverse
  left.foldl (fun first child => match first with
    | some other => if child.ends < other.ends then some child else first
    | none => some child) none

/-- Sends a signal that ends a command beside the shell, if that still runs. -/
def sendChild (signal process : Nat) (world : World) : World :=
  let now := world.tree.now
  let hit (child : Child) : Bool := child.process = process && now < child.ends
  if world.children.any hit then
    let children := world.children.map fun child =>
      if hit child then
        { child with status := 128 + signal, ends := now, signal := some signal }
      else child
    let held := world.held.filter fun held => held.process ≠ process || held.moment ≤ now
    { world with children, held }
  else world

end World

end CatalogSeed.Script
