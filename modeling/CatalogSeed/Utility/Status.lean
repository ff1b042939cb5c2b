import CatalogSeed.Utility.Marks

/-!
Telling what is known of files.
-/

namespace CatalogSeed.Utility

/-- A file with the path that it was asked for by. -/
structure Shown where
  path : String
  location : List String
  node : Node
  number : Nat

namespace Shown

/-- The kind and the rights in letters. -/
def letters (shown : Shown) : String :=
  shown.node.item.letter.toString ++ Permission.letters shown.node.mode

/-- How many blocks of half a thousand bytes the content takes. -/
def blocks (shown : Shown) : Nat :=
  match shown.node.item with
  | .directory => 8
  | .file _ | .utility _ => (shown.node.item.size + 4095) / 4096 * 8
  | _ => 0

def target? (shown : Shown) : Option String :=
  match shown.node.item with
  | .link target => some (Octets.ofText target)
  | _ => none

/-- What a path leads to. -/
def at? (tree : FileTree) (follows : Bool) (path : String) : Except FileError Shown := do
  let (location, _) ← tree.lookUp follows (Octets.toText path)
  match tree.node? location, tree.number? location with
  | some node, some number => .ok ⟨path, location, node, number⟩
  | _, _ => .error .notFound

end Shown

def hexadecimal (n : Nat) : String :=
  String.ofList (Nat.toDigits 16 n)

/-- A moment in full. -/
def fullMoment (moment : Int) : String :=
  Moment.render moment "%F %T.%N %z"

/-- What a letter of a format stands for. -/
def statusPart (tree : FileTree) (shown : Shown) (letter : Char) : String :=
  let node := shown.node
  let device := match node.item with
    | .device device => device.numbers
    | _ => (0, 0)
  let seconds (moment : Int) : String := toString (moment / MomentText.billion)
  match letter with
  | 'a' => octal 1 node.mode
  | 'A' => shown.letters
  | 'b' => decimal shown.blocks
  | 'B' => "512"
  | 'd' => "65024"
  | 'D' => "fe00"
  | 'f' => hexadecimal (node.item.kindBits + node.mode)
  | 'F' => kindName node.item
  | 'g' => decimal node.group
  | 'G' => tree.groupName node.group
  | 'h' => decimal (tree.linkCount shown.location)
  | 'i' => decimal (shown.number + 131073)
  | 'm' => "/"
  | 'n' => shown.path
  | 'N' => match shown.target? with
      | some target => named shown.path ++ " -> " ++ named target
      | none => named shown.path
  | 'o' => "4096"
  | 's' => decimal node.item.size
  | 't' => hexadecimal device.1
  | 'T' => hexadecimal device.2
  | 'u' => decimal node.user
  | 'U' => tree.userName node.user
  | 'w' | 'z' => fullMoment tree.now
  | 'W' | 'Z' => seconds tree.now
  | 'x' => fullMoment node.used
  | 'X' => seconds node.used
  | 'y' => fullMoment node.changed
  | 'Y' => seconds node.changed
  | _ => "?"

/-- A text within a width, as flags want it. -/
def fitted (flags : List Char) (width : Nat) (text : String) : String :=
  let blanks := width - text.length
  if flags.contains '-' then text ++ String.ofList (List.replicate blanks ' ')
  else
    let pad := if flags.contains '0' then '0' else ' '
    String.ofList (List.replicate blanks pad) ++ text

/-- Shows a file as a format wants it. -/
def statusText (tree : FileTree) (escapes : Bool) (shown : Shown) : Nat → List Char → String
  | 0, _ => ""
  | _ + 1, [] => ""
  | fuel + 1, '%' :: '%' :: rest => "%" ++ statusText tree escapes shown fuel rest
  | fuel + 1, '%' :: rest =>
      let (flags, behind) := rest.span "-+ #0'".toList.contains
      let (width, behind) := behind.span Char.isDigit
      let behind := match behind with
        | '.' :: more => more.dropWhile Char.isDigit
        | behind => behind
      match behind with
      | [] => "%"
      | letter :: more =>
          fitted flags ((String.ofList width).toNat?.getD 0) (statusPart tree shown letter) ++
            statusText tree escapes shown fuel more
  | fuel + 1, '\\' :: c :: rest =>
      if escapes then
        let letter := [('n', "\n"), ('t', "\t"), ('\\', "\\"), ('"', "\""), ('0', "\x00"),
          ('r', "\x0d"), ('a', "\x07")].lookup c
        letter.getD (String.ofList ['\\', c]) ++ statusText tree escapes shown fuel rest
      else "\\" ++ statusText tree escapes shown fuel (c :: rest)
  | fuel + 1, c :: rest => c.toString ++ statusText tree escapes shown fuel rest

/-- The lines that are shown where no format is asked for. -/
def wholeStatus (tree : FileTree) (shown : Shown) : String :=
  let part (letter : Char) : String := statusPart tree shown letter
  let right (width : Nat) (text : String) : String := fitted [] width text
  let left (width : Nat) (text : String) : String := fitted ['-'] width text
  let name := match shown.target? with
    | some target => shown.path ++ " -> " ++ target
    | none => shown.path
  joinLines [
    "  File: " ++ name,
    "  Size: " ++ left 10 (part 's') ++ "\tBlocks: " ++ left 10 (part 'b') ++ " IO Block: " ++
      left 6 (part 'o') ++ " " ++ part 'F',
    "Device: 254,0\tInode: " ++ left 11 (part 'i') ++ " Links: " ++ part 'h',
    "Access: (" ++ octal 4 shown.node.mode ++ "/" ++ part 'A' ++ ")  Uid: (" ++
      right 5 (part 'u') ++ "/" ++ right 8 (part 'U') ++ ")   Gid: (" ++
      right 5 (part 'g') ++ "/" ++ right 8 (part 'G') ++ ")",
    "Access: " ++ part 'x', "Modify: " ++ part 'y', "Change: " ++ part 'z',
    " Birth: " ++ part 'w']

/-- Shows files in few words. -/
def briefStatus : String :=
  "%n %s %b %f %u %g %D %i %h %t %T %X %Y %Z %W %o"

def stat (job : Job) : Result :=
  let long := [("format", "c", true), ("printf", "printf", true), ("dereference", "L", false),
    ("terse", "t", false), ("file-system", "f", false)]
  match job.call "Ltf" "c" long false 1 with
  | .error result => result
  | .ok call =>
      if call.operands = [] then job.missingOperand
      else job.perform false do
        let tree := job.tree
        for path in call.operands do
          match Shown.at? tree (call.has ["L"]) path with
          | .error error =>
              job.complain ("cannot statx " ++ named path ++ ": " ++ reason error)
          | .ok shown =>
              let filled (escapes : Bool) (text : String) : String :=
                statusText tree escapes shown (text.length + 1) text.toList
              Task.print (match call.value? ["printf"], call.value? ["c"] with
                | some text, _ => filled true text
                | none, some text => filled false text ++ "\n"
                | none, none =>
                    if call.has ["t"] then filled false briefStatus ++ "\n"
                    else wholeStatus tree shown)

end CatalogSeed.Utility
