import CatalogSeed.Script.Setting

/-!
The limits on what a process may use, and the command that shows and sets them.
-/

namespace CatalogSeed.Script

/-- Something that is limited: its name, the letter that asks for it, and the unit it is counted
in. -/
structure Resource where
  name : String
  letter : Char
  unit : Nat

namespace Resource

/-- The resources that a plain shell knows. -/
def brief : List Resource :=
  [⟨"time(seconds)", 't', 1⟩, ⟨"file(blocks)", 'f', 512⟩, ⟨"data(kbytes)", 'd', 1024⟩,
    ⟨"stack(kbytes)", 's', 1024⟩, ⟨"coredump(blocks)", 'c', 512⟩, ⟨"memory(kbytes)", 'm', 1024⟩,
    ⟨"locked memory(kbytes)", 'l', 1024⟩, ⟨"process", 'p', 1⟩, ⟨"nofiles", 'n', 1⟩,
    ⟨"vmemory(kbytes)", 'v', 1024⟩, ⟨"locks", 'w', 1⟩, ⟨"rtprio", 'r', 1⟩]

/-- What the limits are before they are changed; all others are unlimited. -/
def standard : List (String × Option Nat × Option Nat) :=
  [("stack", some 8388608, none), ("core", some 0, none),
    ("locked memory", some 8388608, some 8388608), ("processes", some 128619, some 128619),
    ("files", some 1048576, some 1048576), ("priority", some 0, some 0),
    ("scheduling", some 0, some 0), ("pending signals", some 128619, some 128619),
    ("message queues", some 819200, some 819200)]

/-- The bounds that hold for a key. -/
def bounds (tree : FileTree) (key : String) : Option Nat × Option Nat :=
  ((tree.limits.lookup key).or (standard.lookup key)).getD (none, none)

/-- Which bound is meant: the upper one, the lower one, or neither is named. -/
structure Side where
  upper : Bool
  lower : Bool

def exceeds : Option Nat → Option Nat → Bool
  | _, none => false
  | none, some _ => true
  | some left, some right => right < left

/-- Sets bounds: the lower one may not exceed the upper one, which cannot be raised. -/
def set? (tree : FileTree) (key : String) (side : Side) (value : Option Nat) :
    Except String FileTree :=
  let (lower, upper) := bounds tree key
  let newLower := if side.lower then value else lower
  let newUpper := if side.upper then value else upper
  if exceeds newLower newUpper then .error "Invalid argument"
  else if exceeds newUpper upper then .error "Operation not permitted"
  else
    let others := tree.limits.filter (·.1 ≠ key)
    .ok { tree with limits := (key, newLower, newUpper) :: others }

def shown (value : Option Nat) (unit : Nat) : String :=
  (value.map fun value => decimal (value / unit)).getD "unlimited"

/-- The key that the letter of a plain shell stands for. -/
def briefKey (letter : Char) : String :=
  ([('s', "stack"), ('c', "core"), ('l', "locked memory"), ('p', "processes"), ('n', "files"),
    ('r', "priority")].lookup letter).getD letter.toString

end Resource

namespace Builtin

/-- Shows or sets limits. -/
def limits (words : List String) : Run Unit := do
  let (options, words) ← Run.options ("HSa" ++ String.ofList (Resource.brief.map (·.letter))) words
  let letters := options.map Prod.fst
  let side : Resource.Side := match (letters.filter "HS".toList.contains).getLast? with
    | some 'H' => ⟨true, false⟩
    | some _ => ⟨false, true⟩
    | none => ⟨true, true⟩
  let whole := letters.contains 'a'
  let wanted := ((letters.filter fun c => !"HSa".toList.contains c).getLast?).getD 'f'
  let tree := (← get).world.tree
  let value (resource : Resource) : String :=
    let (lower, upper) := Resource.bounds tree (Resource.briefKey resource.letter)
    Resource.shown (if side.lower then lower else upper) resource.unit
  match words with
  | [] =>
      for resource in Resource.brief do
        if whole then
          let filler := List.replicate (20 - resource.name.length) ' '
          Run.print (resource.name ++ String.ofList filler ++ " " ++ value resource ++ "\n")
        else if resource.letter = wanted then
          Run.print (value resource ++ "\n")
  | word :: more =>
      if whole || more ≠ [] then Run.fail "too many arguments"
      let unit := ((Resource.brief.find? (·.letter = wanted)).map (·.unit)).getD 1
      let amount ←
        if word = "unlimited" then pure none
        else match digits 10 word.toList with
          | some (amount, []) => pure (some (amount * unit % Nat.pow 2 64))
          | _ => if word = "" then pure (some 0) else Run.fail "bad number"
      match Resource.set? tree (Resource.briefKey wanted) side amount with
      | .ok tree => Run.changeWorld fun world => { world with tree }
      | .error message => Run.fail ("error setting limit (" ++ message ++ ")")

end Builtin

end CatalogSeed.Script
