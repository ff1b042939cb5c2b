import CatalogSeed.Utility.Finding.Format
import CatalogSeed.Utility.Numbers
import CatalogSeed.Utility.Search

/-!
Reading the conditions of a search from the words of a call.
-/

namespace CatalogSeed.Utility.Finding

def depth (name : String) : Parser Nat := do
  let word ← argument name
  if word ≠ "" ∧ word.all Char.isDigit then return word.toNat?.getD 0
  else
    fail ("Expected a positive decimal integer argument to " ++ name ++ ", but got '" ++ word ++
      "'")

/-- The word that a condition needs, as it can be made of it. -/
def argumentAs {α : Type} (name : String) (read : String → Option α) : Parser α := do
  let word ← argument name
  match read word with
  | some value => return value
  | none => fail ("invalid argument " ++ marked word ++ " to " ++ marked name)

/-- A number that has to be exceeded, or not reached, or met. -/
def signed (word : String) : Ordering × String :=
  match word.toList with
  | '+' :: rest => (.gt, String.ofList rest)
  | '-' :: rest => (.lt, String.ofList rest)
  | _ => (.eq, word)

def countOf? (word : String) : Option (Ordering × Nat) :=
  let (order, digits) := signed word
  if digits ≠ "" ∧ digits.all Char.isDigit then digits.toNat?.map (order, ·) else none

/-- A condition on a number. -/
def counted (name : String) (number : FileTree → Found → Nat) : Parser Condition := do
  let (order, wanted) ← argumentAs name countOf?
  return .test fun tree found => compare (number tree found) wanted = order

/-- A condition on how long ago something was, in units of so many seconds. Whole units that have
passed are counted, but `fine` ones from the other end. -/
def aged (name : String) (unit : Nat) (fine : Bool) (moment : FileTree → Found → Int) :
    Parser Condition := do
  let (order, amount) ← argumentAs name fun word =>
    let (order, digits) := signed word
    if digits.startsWith "-" ∨ digits.startsWith "+" then none
    else (Decimal.parse? digits).map (order, ·)
  let span : Int := amount.digits * (unit : Int) * MomentText.billion / (Nat.pow 10 amount.places : Nat)
  let whole : Int := (unit : Int) * MomentText.billion
  return .test fun tree found =>
    let age := tree.now - moment tree found
    match order, fine with
    | .gt, true => span < age
    | .lt, true => age < span
    | .eq, true => span - whole ≤ age && age < span
    | .gt, false => span + whole < age
    | .lt, false => age < span + MomentText.billion
    | .eq, false => span ≤ age && age < span + whole

def sizeUnits : List (Char × Nat) :=
  [('b', 512), ('c', 1), ('w', 2), ('k', 1024), ('M', 1048576), ('G', 1073741824)]

/-- A condition on the size, in units that are rounded up. -/
def sized (name : String) : Parser Condition := do
  let word ← argument name
  let wrong : String := "invalid -size type " ++ marked ((word.toList.getLast?.getD ' ').toString)
  let last := word.toList.getLast?.getD ' '
  let (unit, digits) := match sizeUnits.lookup last with
    | some unit => (unit, String.ofList word.toList.dropLast)
    | none => (512, word)
  match countOf? digits with
  | some (order, wanted) =>
      return .test fun _ found =>
        compare ((found.node.item.size + unit - 1) / unit) wanted = order
  | none =>
      if last.isDigit ∨ (sizeUnits.lookup last).isSome then
        fail ("invalid argument " ++ marked word ++ " to " ++ marked name)
      else fail wrong

/-- A condition on the mode: all its bits, or all or any of some bits. -/
def permitted (name : String) : Parser Condition := do
  let word ← argument name
  let (sign, text) := match word.toList with
    | '-' :: rest => ('-', String.ofList rest)
    | '/' :: rest => ('/', String.ofList rest)
    | _ => ('=', word)
  match Permission.changes? text with
  | none => fail ("invalid mode " ++ quoted word)
  | some changes =>
      return .test fun _ found =>
        let wanted := Permission.changed (found.node.item = .directory) 0 changes 0
        let mode := found.node.mode
        match sign with
        | '-' => mode &&& wanted = wanted
        | '/' => wanted = 0 || mode &&& wanted ≠ 0
        | _ => mode = wanted

/-- A condition on an owner, who is told by name or by number. -/
def owned (name table kind : String) (owner : Node → Nat) : Parser Condition := do
  let word ← argument name
  match (← get).tree.idOf? table word with
  | some id => return .test fun _ found => owner found.node = id
  | none => fail (quoted word ++ " is not the name of " ++ kind)

/-- Whether a name fits a pattern. -/
def fitsName (ignoreCase : Bool) (pattern text : String) : Bool :=
  let fold (text : String) : List Char :=
    if ignoreCase then text.toList.map Char.toLower else text.toList
  (Script.Pattern.ofWord true ((fold pattern).map fun c => ⟨c, false⟩)).fits (fold text)

/-- A condition on the last name of a path; slashes behind it do not count. -/
def named (name : String) (ignoreCase : Bool) : Parser Condition := do
  let pattern ← argument name
  if pattern.contains '/' ∧ (← get).warns then
    let other := if ignoreCase then "-iwholename" else "-wholename"
    warn ("warning: " ++ quoted name ++ " matches against basenames only, but the given pattern " ++
      "contains a directory separator ('/'), thus the expression will evaluate to false all the " ++
      "time.  Did you mean " ++ quoted other ++ "?")
  return .test fun _ found => fitsName ignoreCase pattern (baseName found.path)

def spellings : List String :=
  ["findutils-default", "ed", "emacs", "gnu-awk", "grep", "posix-awk", "awk", "posix-basic",
    "posix-egrep", "egrep", "posix-extended", "posix-minimal-basic", "sed"]

/-- An expression in which plus signs and question marks repeat, spelled so that they do only
behind a backslash. -/
def respelled : List Char → List Char
  | '\\' :: c :: rest =>
      (if c = '+' ∨ c = '?' then ['\\', c] else if c = '\x7b' then [c] else ['\\', c]) ++
        respelled rest
  | c :: rest => (if c = '+' ∨ c = '?' then ['\\', c] else [c]) ++ respelled rest
  | [] => []

/-- A condition on the whole path as an expression tells. -/
def expressed (name : String) (ignoreCase : Bool) : Parser Condition := do
  let text ← argument name
  let spelling := (← get).spelling
  let extended := ["gnu-awk", "posix-awk", "awk", "posix-egrep", "egrep", "posix-extended"].contains
    spelling
  let chars := if ["findutils-default", "emacs"].contains spelling then respelled text.toList
    else text.toList
  match Regex.parse ⟨extended, true⟩ chars with
  | .error message => fail ("failed to compile regular expression '" ++ text ++ "': " ++ message)
  | .ok regex =>
      let wish : Search.Wish := ⟨[regex], ignoreCase, false, true⟩
      return .test fun _ found => Search.fits wish found.path.toList

def kindLetters (name : String) : Parser (List Char) := do
  let word ← argument name
  if word = "" then fail ("Arguments to " ++ name ++ " should contain at least one letter")
  let rec read : List Char → Parser (List Char)
    | [] => return []
    | c :: rest => do
        if !"bcdpflsD".toList.contains c then
          fail ("Unknown argument to " ++ name ++ ": " ++ c.toString)
        match rest with
        | [] => return [c]
        | [','] =>
            fail ("Last file type in list argument to " ++ name ++
              " is missing, i.e., list is ending on: ','")
        | ',' :: rest => return c :: (← read rest)
        | _ => fail ("Must separate multiple arguments to " ++ name ++ " using: ','")
  read word.toList

/-- The node that a condition compares others with. -/
def comparedNode (name : String) : Parser Node := do
  let word ← argument name
  match (← get).tree.nodeAt (Octets.toText word) with
  | .ok node => return node
  | .error error => fail (Utility.named word ++ ": " ++ reason error)

/-- The moment that a letter stands for. -/
def momentOf (tree : FileTree) (node : Node) (letter : Char) : Int :=
  match letter with
  | 'm' => node.changed
  | 'a' => node.used
  | _ => tree.now

/-- A condition on which of two moments was later. -/
def newer (name : String) (own other : Char) : Parser Condition := do
  if !"aBcm".toList.contains own ∨ !"aBcmt".toList.contains other then
    fail ("invalid predicate " ++ marked name)
  let tree := (← get).tree
  if other = 't' then
    let word ← argument name
    match MomentText.parse? tree.now word with
    | some moment => return .test fun tree found => moment < momentOf tree found.node own
    | none =>
        fail ("I cannot figure out how to interpret " ++ quoted word ++ " as a date or time")
  else
    let moment := momentOf tree (← comparedNode name) other
    return .test fun tree found => moment < momentOf tree found.node own

/-- The kind of file behind all links where they are not followed, and of the link itself where
they are. -/
def otherLetter (following : Following) (tree : FileTree) (found : Found) : Char :=
  if following = .always then
    match tree.resolveSelf (Octets.toText found.path) with
    | .ok (_, item) => (if item.isPlain then 'f' else item.letter)
    | .error _ => ownLetter found
  else match finalLetter tree found with
    | 'N' | 'L' => 'l'
    | letter => letter

/-- The words of the command that stands at the front, and how many words there are with its end;
the last word that has a mark is kept. -/
def commandWords (plus : Bool) :
    List String → List String → Except String (List String × Bool × Nat)
  | words, before =>
      match words with
      | [] => .error "missing"
      | ";" :: _ => .ok (before.reverse, false, before.length + 1)
      | word :: rest =>
          let last := before.headD ""
          if plus && word = "+" && last = "\x7b\x7d" then
            .ok (before.reverse, true, before.length + 1)
          else if plus && word = "+" && (last.splitOn "\x7b\x7d").length ≠ 1 then .error last
          else commandWords plus rest (word :: before)

/-- The command that is run for what is found. -/
def command (name : String) (inPlace asks : Bool) : Parser Condition := do
  let reader ← get
  let mark := "\x7b\x7d"
  match commandWords (!asks) reader.rest [] with
  | .error "missing" => fail ("missing argument to " ++ marked name)
  | .error word =>
      fail ("In '" ++ name ++ " ... " ++ mark ++ " +' the '" ++ mark ++
        "' must appear by itself, but you specified '" ++ word ++ "'")
  | .ok ([], _, _) => fail ("invalid argument " ++ marked ";" ++ " to " ++ marked name)
  | .ok (words, together, size) =>
      let marks := words.filter fun word => (word.splitOn mark).length ≠ 1
      if inPlace ∧ ((words.headD "").splitOn mark).length ≠ 1 then
        fail ("You may not use " ++ mark ++ " within the utility name for -execdir and -okdir, " ++
          "because this is a potential security problem.")
      if together ∧ 1 < marks.length then
        fail ("Only one instance of " ++ mark ++ " is supported with " ++ name ++ " ... +")
      set { reader with rest := reader.rest.drop size }
      let words := if together then words.dropLast else words
      act (.run ⟨words, together, inPlace, asks⟩)

/-- A file that is written to. -/
def outputFile (name : String) : Parser (Option String) := do
  let file ← argument name
  modify fun reader => { reader with files := reader.files ++ [file] }
  return some file

def printed (mark : String) (_ : FileTree) (found : Found) : String := found.path ++ mark

def formatOf (name : String) : Parser (FileTree → Found → String) := do
  let text ← argument name
  return formatted (← readFormat (text.length + 1) text.toList)

/-- The conditions that stand for themselves and are always met. -/
def settings : List String :=
  ["-xdev", "-mount", "-noleaf", "-ignore_readdir_race", "-noignore_readdir_race", "-daystart"]

/-- A condition that one word names, with its own words. -/
def single (word : String) : Parser Condition := do
  match word with
  | "-name" => named word false
  | "-iname" => named word true
  | "-path" | "-wholename" | "-ipath" | "-iwholename" =>
      let pattern ← argument word
      return .test fun _ found => fitsName (word.startsWith "-i") pattern found.path
  | "-lname" | "-ilname" =>
      let pattern ← argument word
      return .test fun _ found => match found.target? with
        | some target => fitsName (word = "-ilname") pattern target
        | none => false
  | "-regex" => expressed word false
  | "-iregex" => expressed word true
  | "-regextype" =>
      let spelling ← argument word
      if !spellings.contains spelling then
        fail ("Unknown regular expression type " ++ quoted spelling ++ "; valid types are " ++
          ", ".intercalate (spellings.map quoted) ++ ".")
      modify fun reader => { reader with spelling }
      return always
  | "-type" =>
      let letters ← kindLetters word
      return .test fun _ found => letters.contains (ownLetter found)
  | "-xtype" =>
      let letters ← kindLetters word
      let following := (← get).following
      return .test fun tree found => letters.contains (otherLetter following tree found)
  | "-maxdepth" =>
      let most ← depth word
      modify fun reader => { reader with most := some most }
      return always
  | "-mindepth" =>
      let least ← depth word
      modify fun reader => { reader with least }
      return always
  | "-depth" | "-d" =>
      modify fun reader => { reader with deepFirst := true }
      return always
  | "-follow" =>
      modify fun reader => { reader with following := .always }
      return always
  | "-warn" | "-nowarn" =>
      modify fun reader => { reader with warns := word = "-warn" }
      return always
  | "-empty" =>
      return .test fun tree found => match found.node.item with
        | .directory => (tree.children found.location).isEmpty
        | .file content => content.isEmpty
        | _ => false
  | "-executable" =>
      return .test fun tree found => match tree.nodeAt (Octets.toText found.path) with
        | .ok node => node.isRunnable
        | .error _ => false
  | "-readable" | "-writable" =>
      return .test fun tree found => (tree.resolve (Octets.toText found.path)).isOk
  | "-true" => return always
  | "-false" => return .test fun _ _ => false
  | "-newer" => newer word 'm' 'm'
  | "-anewer" => newer word 'a' 'm'
  | "-cnewer" => newer word 'c' 'm'
  | "-mtime" => aged word 86400 false fun _ found => found.node.changed
  | "-atime" => aged word 86400 false fun _ found => found.node.used
  | "-ctime" => aged word 86400 false fun tree _ => tree.now
  | "-mmin" => aged word 60 true fun _ found => found.node.changed
  | "-amin" => aged word 60 true fun _ found => found.node.used
  | "-cmin" => aged word 60 true fun tree _ => tree.now
  | "-used" => counted word fun _ _ => 0
  | "-size" => sized word
  | "-perm" => permitted word
  | "-user" => owned word FileTree.userTable "a known user" Node.user
  | "-group" => owned word FileTree.groupTable "an existing group" Node.group
  | "-uid" => counted word fun _ found => found.node.user
  | "-gid" => counted word fun _ found => found.node.group
  | "-nouser" =>
      return .test fun tree found => (tree.nameOf? FileTree.userTable found.node.user).isNone
  | "-nogroup" =>
      return .test fun tree found => (tree.nameOf? FileTree.groupTable found.node.group).isNone
  | "-links" => counted word fun tree found => tree.linkCount found.location
  | "-inum" =>
      counted word fun tree found => (statusPart tree found.toShown 'i').toNat?.getD 0
  | "-samefile" =>
      let other ← argument word
      match Shown.at? (← get).tree ((← get).following ≠ .never) other with
      | .ok shown => return .test fun _ found => found.number = shown.number
      | .error error => fail (Utility.named other ++ ": " ++ reason error)
  | "-fstype" =>
      let kind ← argument word
      return .test fun _ _ => kind = "overlay"
  | "-prune" => return .prune
  | "-quit" => return .quit
  | "-print" => act (.write none (printed "\n"))
  | "-print0" => act (.write none (printed "\x00"))
  | "-printf" => act (.write none (← formatOf word))
  | "-ls" => act (.write none listed)
  | "-fprint" => act (.write (← outputFile word) (printed "\n"))
  | "-fprint0" => act (.write (← outputFile word) (printed "\x00"))
  | "-fprintf" =>
      let file ← outputFile word
      act (.write file (← formatOf word))
  | "-fls" => act (.write (← outputFile word) listed)
  | "-exec" => command word false false
  | "-execdir" => command word true false
  | "-ok" => command word false true
  | "-okdir" => command word true true
  | "-delete" =>
      modify fun reader => { reader with deepFirst := true }
      act .delete
  | _ =>
      if settings.contains word then return always
      else match word.toList with
        | ['-', 'n', 'e', 'w', 'e', 'r', own, other] => newer word own other
        | '-' :: _ => fail ("unknown predicate " ++ marked word)
        | _ =>
            let reader ← get
            let patterned := ["-name", "-iname", "-path", "-ipath", "-wholename",
              "-iwholename"].contains reader.before
            let there := (reader.tree.resolve (Octets.toText word)).isOk
            let hint := if patterned && there then
                "\nfind: possible unquoted pattern after predicate " ++ marked reader.before ++ "?"
              else ""
            fail ("paths must precede expression: " ++ marked word ++ hint)

end CatalogSeed.Utility.Finding
