import CatalogSeed.Script.Extended.Options
import CatalogSeed.Script.Limit

/-!
The command for limits with more resources, several of which can be shown or set at once.
-/

namespace CatalogSeed.Script.Extended

/-- A resource with its key and the words for its unit. -/
structure Limited extends Resource where
  key : String
  words : String

/-- The resources that can be limited. Blocks are small ones if the shell is told to be strict. -/
def limitedResources (strict : Bool) : List Limited :=
  let block := if strict then 512 else 1024
  [⟨⟨"real-time non-blocking time", 'R', 1⟩, "R", "microseconds"⟩,
    ⟨⟨"core file size", 'c', block⟩, "core", "blocks"⟩,
    ⟨⟨"data seg size", 'd', 1024⟩, "d", "kbytes"⟩,
    ⟨⟨"scheduling priority", 'e', 1⟩, "scheduling", ""⟩,
    ⟨⟨"file size", 'f', block⟩, "f", "blocks"⟩,
    ⟨⟨"pending signals", 'i', 1⟩, "pending signals", ""⟩,
    ⟨⟨"max locked memory", 'l', 1024⟩, "locked memory", "kbytes"⟩,
    ⟨⟨"max memory size", 'm', 1024⟩, "m", "kbytes"⟩,
    ⟨⟨"open files", 'n', 1⟩, "files", ""⟩,
    ⟨⟨"pipe size", 'p', 512⟩, "pipe", "512 bytes"⟩,
    ⟨⟨"POSIX message queues", 'q', 1⟩, "message queues", "bytes"⟩,
    ⟨⟨"real-time priority", 'r', 1⟩, "priority", ""⟩,
    ⟨⟨"stack size", 's', 1024⟩, "stack", "kbytes"⟩,
    ⟨⟨"cpu time", 't', 1⟩, "t", "seconds"⟩,
    ⟨⟨"max user processes", 'u', 1⟩, "processes", ""⟩,
    ⟨⟨"virtual memory", 'v', 1024⟩, "v", "kbytes"⟩,
    ⟨⟨"file locks", 'x', 1⟩, "w", ""⟩]

/-- What is asked for: letters without a value of their own, and resources with one. -/
structure LimitCall where
  flags : List Char
  wishes : List (Char × Option String)
  operands : List String

/-- Reads the options. The value of a resource stands behind its letter or in the next word; the
error is a letter that is not known. -/
def LimitCall.read : Nat → LimitCall → List String → Except Char LimitCall
  | 0, call, _ => .ok call
  | _ + 1, call, [] => .ok call
  | fuel + 1, call, word :: words =>
      match word.toList with
      | '-' :: '-' :: [] => .ok { call with operands := words }
      | '-' :: letter :: rest =>
          if "SHa".toList.contains letter then
            let call := { call with flags := letter :: call.flags }
            let words := if rest = [] then words else String.ofList ('-' :: rest) :: words
            read fuel call words
          else if !"bcdefiklmnpqrstuvxPRT".toList.contains letter then .error letter
          else if rest ≠ [] then
            let wish := (letter, some (String.ofList rest))
            read fuel { call with wishes := call.wishes ++ [wish] } words
          else match words with
            | value :: behind =>
                if value.startsWith "-" then
                  read fuel { call with wishes := call.wishes ++ [(letter, none)] } words
                else
                  read fuel { call with wishes := call.wishes ++ [(letter, some value)] } behind
            | [] => .ok { call with wishes := call.wishes ++ [(letter, none)] }
      | _ => .ok { call with operands := word :: words }

def showLimit (tree : FileTree) (described upper : Bool) (resource : Limited) : Run Unit := do
  let (lower, highest) :=
    if resource.key = "pipe" then (some 4096, some 4096) else Resource.bounds tree resource.key
  let option := "-" ++ resource.letter.toString ++ ") "
  let option := if resource.words = "" then "(" ++ option
    else "(" ++ resource.words ++ ", " ++ option
  let fill (size : Nat) (text : String) : String :=
    String.ofList (List.replicate (size - text.length) ' ')
  let front :=
    if described then
      resource.name ++ fill 20 resource.name ++ " " ++ fill 20 option ++ option
    else ""
  Run.print (front ++ Resource.shown (if upper then highest else lower) resource.unit ++ "\n")

/-- The amount that a word asks for: a number of units, or one of the bounds there are. -/
def limitAmount (tree : FileTree) (resource : Limited) (word : String) :
    Except String (Option Nat) :=
  let (lower, upper) := Resource.bounds tree resource.key
  if word = "unlimited" then .ok none
  else if word = "hard" then .ok upper
  else if word = "soft" then .ok lower
  else match digits 10 word.toList with
    | some (amount, []) =>
        if amount * resource.unit < Nat.pow 2 64 then .ok (some (amount * resource.unit))
        else .error (word ++ ": limit out of range")
    | _ => if word = "" then .ok (some 0) else .error (word ++ ": invalid number")

/-- Shows or sets limits. -/
def limits (words : List String) : Run Unit := do
  let resources := limitedResources ((← get).options.contains '6')
  match LimitCall.read (words.length + (String.join words).length) ⟨[], [], []⟩ words with
  | .error letter => misused ("-" ++ letter.toString ++ ": invalid option")
  | .ok call =>
      let flags := call.flags
      let tree := (← get).world.tree
      let upper := flags.contains 'H' && !flags.contains 'S'
      if flags.contains 'a' && call.wishes = [] then
        for resource in resources do
          showLimit tree true upper resource
      else
        let wishes := if call.wishes = [] then [('f', call.operands.head?)] else call.wishes
        for (letter, _) in wishes do
          if (resources.find? (·.letter = letter)).isNone then
            misused ("-" ++ letter.toString ++ ": invalid option")
        for (letter, value) in wishes do
          match resources.find? (·.letter = letter), value with
          | some resource, none =>
              showLimit (← get).world.tree (1 < wishes.length) upper resource
          | some resource, some word =>
              let side : Resource.Side :=
                if flags.any "HS".toList.contains then ⟨flags.contains 'H', flags.contains 'S'⟩
                else ⟨true, true⟩
              let tree := (← get).world.tree
              match limitAmount tree resource word with
              | .error message =>
                  complain message
                  Run.stop .error
              | .ok amount =>
                  match Resource.set? tree resource.key side amount with
                  | .ok tree => Run.changeWorld fun world => { world with tree }
                  | .error message =>
                      complain (resource.name ++ ": cannot modify limit: " ++ message)
                      Run.stop .error
          | none, _ => return

end CatalogSeed.Script.Extended
