import CatalogSeed.Script.Expansion

/-!
Commands that work on the variables, the arguments and the options of the shell itself.
-/

namespace CatalogSeed.Script

/-- A text between single quotes, so that it is read back as it is. -/
def singleQuote (text : String) : String :=
  let pieces := text.toList.splitOn '\''
  let join (before : String) (piece : List Char) : String :=
    before ++ "\"'\"" ++ (if piece = [] then "" else "'" ++ String.ofList piece ++ "'")
  match pieces with
  | [] => "''"
  | [piece] => "'" ++ String.ofList piece ++ "'"
  | first :: rest =>
      let start := if first = [] then "" else "'" ++ String.ofList first ++ "'"
      rest.foldl join start

namespace Run

/-- Why nothing could be written to a descriptor. -/
def writeFault (descriptor : Nat) : Run String := do
  let shell ← get
  return match (shell.channels.lookup descriptor).map shell.world.stream with
    | some .full => "No space left on device"
    | _ => "Bad file descriptor"

/-- Writes to the standard output, and complains if that is not possible. -/
def printNow (text : String) : Run Unit := do
  unless ← write 1 text do
    match (← get).dialect with
    | .plain => warn (((← get).command.getD "") ++ ": I/O error")
    | .extended => warn ("write error: " ++ (← writeFault 1))
    status 1

/-- Writes what is still to be printed. -/
def flush : Run Unit := do
  let text := (← get).pending
  modify fun shell => { shell with pending := "" }
  printNow text

/-- Prints something, which is written at the end of the command; in the extended dialect, as soon
as a line is whole. -/
def print (text : String) : Run Unit := do
  modify fun shell => { shell with pending := shell.pending ++ text }
  if (← isExtended) && text.contains '\n' then
    let (rest, lines) := (← get).pending.toList.reverse.span (· ≠ '\n')
    modify fun shell => { shell with pending := String.ofList rest.reverse }
    printNow (String.ofList lines.reverse)

/-- A number of steps or a status; blanks and a sign may stand around it. -/
def count (text : String) : Run Nat := do
  match integer false text.toList with
  | some (value, rest) =>
      if rest.all isSpace ∧ 0 ≤ value ∧ value ≤ 0x7fffffff then return value.toNat
      else fail ("Illegal number: " ++ text)
  | none => fail ("Illegal number: " ++ text)

/-- Takes options off the front of words: letters behind a hyphen, as long as they are known.
Known letters with a colon behind them take a word. -/
def takeOptions (known : List (Char × Bool)) :
    Nat → List String → Run (List (Char × String) × List String)
  | 0, words => return ([], words)
  | fuel + 1, words => do
      match words with
      | "--" :: rest => return ([], rest)
      | word :: rest =>
          match word.toList with
          | '-' :: letter :: more =>
              match known.lookup letter with
              | none => fail ("Illegal option -" ++ letter.toString)
              | some false =>
                  let rest := if more = [] then rest else String.ofList ('-' :: more) :: rest
                  let (options, left) ← takeOptions known fuel rest
                  return ((letter, "") :: options, left)
              | some true =>
                  match more, rest with
                  | [], [] => fail ("No arg for -" ++ letter.toString ++ " option")
                  | [], value :: rest =>
                      let (options, left) ← takeOptions known fuel rest
                      return ((letter, value) :: options, left)
                  | value, rest =>
                      let (options, left) ← takeOptions known fuel rest
                      return ((letter, String.ofList value) :: options, left)
          | _ => return ([], words)
      | [] => return ([], [])

/-- The options of a command, and the words behind them. -/
def options (known : String) (words : List String) :
    Run (List (Char × String) × List String) :=
  takeOptions (letters known.toList) (words.foldl (fun sum word => sum + word.length + 1) 1) words
where
  letters : List Char → List (Char × Bool)
    | letter :: ':' :: rest => (letter, true) :: letters rest
    | letter :: rest => (letter, false) :: letters rest
    | [] => []

end Run

/-- Parts a setting at its equals sign. -/
def partSetting (text : String) : String × Option String :=
  match text.toList.span (· ≠ '=') with
  | (name, _ :: value) => (String.ofList name, some (String.ofList value))
  | (name, []) => (String.ofList name, none)

namespace Builtin

/-- Lists variables of a kind, as commands that set them. -/
def list (before : String) (kind : Variable → Bool) : Run Unit := do
  let chosen := (← get).vars.filter fun (_, entry) => kind entry
  let lines := (chosen.mergeSort fun a b => a.1 ≤ b.1).map fun (name, entry) =>
    before ++ name ++ match entry.value with
      | some value => "=" ++ singleQuote value ++ "\n"
      | none => "\n"
  Run.print (String.join lines)

/-- Marks variables, after setting those that come with a value. -/
def mark (before : String) (kind : Variable → Bool) (change : Variable → Variable)
    (words : List String) : Run Unit := do
  let (options, names) ← Run.options "p" words
  if options = [] ∧ names ≠ [] then
    for word in names do
      let (name, value) := partSetting word
      match value with
      | some value => Run.assign name value
      | none => unless isName name do Run.fail (name ++ ": bad variable name")
      Run.setVariable name change
  else list before kind

def exportNames (words : List String) : Run Unit :=
  mark "export " (·.exported) (fun entry => { entry with exported := true }) words

def readOnlyNames (words : List String) : Run Unit :=
  mark "readonly " (·.readOnly) (fun entry => { entry with readOnly := true }) words

def unsetNames (words : List String) : Run Unit := do
  let (options, names) ← Run.options "vf" words
  let functions := options.any (·.1 = 'f')
  let vars := options.any (·.1 = 'v')
  for name in names do
    let known := ((← get).vars.lookup name).isSome
    unless functions do
      unless isName name do
        Run.fail (name ++ ": bad variable name")
      Run.unset name
    if functions || !(vars || known) then
      modify fun shell => { shell with functions := shell.functions.filter (·.1 ≠ name) }

/-- The options of the shell that have a name. -/
def optionNames : List (String × Char) := [
  ("errexit", 'e'), ("noglob", 'f'), ("ignoreeof", 'I'), ("interactive", 'i'), ("monitor", 'm'),
  ("noexec", 'n'), ("stdin", 's'), ("xtrace", 'x'), ("verbose", 'v'), ("vi", 'V'),
  ("emacs", 'E'), ("noclobber", 'C'), ("allexport", 'a'), ("notify", 'b'), ("nounset", 'u'),
  ("privileged", 'p'), ("nolog", 'N'), ("debug", 'D')]

def setOption (on : Bool) (letter : Char) : Run Unit :=
  modify fun shell =>
    let others := shell.options.filter (· ≠ letter)
    { shell with options := if on then letter :: others else others }

def listOptions (asCommands : Bool) : Run Unit := do
  let on := (← get).options
  let line (option : String × Char) : String :=
    if asCommands then
      "set " ++ (if on.contains option.2 then "-" else "+") ++ "o " ++ option.1 ++ "\n"
    else
      let blanks := String.ofList (List.replicate (16 - option.1.length) ' ')
      option.1 ++ blanks ++ (if on.contains option.2 then "on" else "off") ++ "\n"
  Run.print ((if asCommands then "" else "Current option settings\n") ++
    String.join (optionNames.map line))

/-- Sets options as words say, and gives the words behind them; none if there are no such
words. -/
def setOptions : Nat → List String → Run (Option (List String))
  | 0, _ => return none
  | fuel + 1, words => do
      match words with
      | [] => return none
      | "--" :: rest => return some rest
      | "-" :: rest => return if rest = [] then none else some rest
      | "-o" :: [] =>
          listOptions false
          return none
      | "+o" :: [] =>
          listOptions true
          return none
      | word :: rest =>
          match word.toList with
          | sign :: letters =>
              if sign ≠ '-' ∧ sign ≠ '+' then return some words
              let (named, plain) := (letters.contains 'o', letters.filter (· ≠ 'o'))
              for letter in plain do
                if "efmnsxvVECabuI".toList.contains letter then setOption (sign = '-') letter
                else Run.fail ("Illegal option " ++ sign.toString ++ letter.toString)
              if named then
                match rest with
                | [] =>
                    listOptions (sign = '+')
                    return none
                | name :: rest =>
                    match optionNames.lookup name with
                    | some letter => setOption (sign = '-') letter
                    | none => Run.fail ("Illegal option " ++ sign.toString ++ "o " ++ name)
                    setOptions fuel rest
              else setOptions fuel rest
          | [] => return some words

def changeOptions (words : List String) : Run Unit := do
  if words = [] then list "" (·.value.isSome)
  else
    match ← setOptions (words.length + 1) words with
    | some arguments => modify fun shell => { shell with arguments, optionOffset := 0 }
    | none => return

def shift (words : List String) : Run Unit := do
  let count ← match words with
    | [] => pure 1
    | word :: _ => Run.count word
  let shell ← get
  if shell.arguments.length < count then
    Run.fail "can't shift that many"
  else
    modify fun shell =>
      { shell with arguments := shell.arguments.drop count, optionOffset := 0 }

/-- Keeps the value that a variable has, to be put back when the function ends. -/
def keep (name : String) : Run Unit :=
  modify fun shell =>
    match shell.locals with
    | [] => shell
    | frame :: frames =>
        if (frame.lookup name).isSome then shell
        else { shell with locals := ((name, shell.vars.lookup name) :: frame) :: frames }

def localNames (words : List String) : Run Unit := do
  if (← get).locals = [] then
    Run.fail "not in a function"
  else
    for word in words do
      let (name, value) := partSetting word
      unless isName name do
        Run.fail (name ++ ": bad variable name")
      keep name
      if let some value := value then Run.assign name value

/-- Puts back the variables that were kept since the last call. -/
def restoreLocals : Run Unit :=
  modify fun shell =>
    match shell.locals with
    | [] => shell
    | frame :: frames =>
        let shell := frame.foldl (fun shell (name, entry) => shell.withVariable name entry) shell
        { shell with locals := frames }

/-- Reads a line off a text: its pieces, what is left, and whether it ended. Behind a backslash,
which can join lines, a character does not part words. -/
def lineOf (raw : Bool) : Nat → List Piece → List UInt8 → List Piece × List UInt8 × Bool
  | 0, before, left => (before.reverse, left, false)
  | _ + 1, before, [] => (before.reverse, [], false)
  | fuel + 1, before, byte :: left =>
      if byte = 0x0A then (before.reverse, left, true)
      else if byte = 0 then lineOf raw fuel before left
      else if byte = 0x5C && !raw then
        match left with
        | [] => (before.reverse, [], false)
        | 0x0A :: left => lineOf raw fuel before left
        | next :: left => lineOf raw fuel (.letter ⟨Octets.toChar next, true⟩ false :: before) left
      else lineOf raw fuel (.letter ⟨Octets.toChar byte, true⟩ true :: before) left

/-- Takes blank separators off both ends of pieces. -/
def trimPieces (separators : String) (pieces : List Piece) : List Piece :=
  let blank : Piece → Bool
    | .letter letter loose =>
        loose && separators.contains letter.char && " \t\n".contains letter.char
    | _ => false
  ((pieces.dropWhile blank).reverse.dropWhile blank).reverse

/-- Parts the pieces of a line among so many names; the last one takes what is left. -/
def shareOut (separators : String) : Nat → List Piece → List String
  | 0, _ => []
  | 1, pieces =>
      let pieces := trimPieces separators pieces
      let separator : Piece → Bool
        | .letter letter loose => loose && separators.contains letter.char
        | _ => false
      match pieces.reverse with
      | last :: before =>
          if separator last && !before.any separator then [pieceText before.reverse]
          else [pieceText pieces]
      | [] => []
  | count + 1, pieces =>
      let pieces := trimPieces separators pieces
      let loose : Piece → Bool
        | .letter letter loose => loose && separators.contains letter.char
        | _ => false
      let blank : Piece → Bool
        | .letter letter _ => " \t\n".contains letter.char
        | _ => false
      let (word, rest) := pieces.span fun piece => !loose piece
      let rest := rest.dropWhile fun piece => loose piece && blank piece
      let rest := match rest with
        | piece :: behind => if loose piece then behind else rest
        | [] => []
      if pieces.isEmpty then []
      else pieceText word :: shareOut separators count rest

def read (words : List String) : Run Unit := do
  let (options, names) ← Run.options "rp:" words
  if names = [] then Run.fail "arg count"
  else
    let raw := options.any (·.1 = 'r')
    match ← Run.streamOf? 0 with
    | none => Run.status 1
    | some number =>
        let left := ((← get).world.left number).getD []
        let (pieces, rest, ended) := lineOf raw (left.length + 1) [] left
        Run.changeWorld fun world => world.advance number (left.length - rest.length)
        let values := shareOut (← separators) names.length pieces
        for (name, index) in names.zipIdx do
          Run.assign name (values.getD index "")
        Run.status (if ended then 0 else 1)

/-- Complains about an option among the arguments. -/
def wrongOption (plain extended : String) : Run Unit := do
  if ← Run.isExtended then
    if (← Run.lookup? "OPTERR") ≠ some "0" then
      Run.writeError ((← get).name ++ ": " ++ extended ++ "\n")
  else Run.writeError (plain ++ "\n")

/-- Takes the next option letter off the arguments. -/
def getOptions (words : List String) : Run Unit := do
  match words with
  | known :: name :: given =>
      let shell ← get
      let arguments := if given = [] then shell.arguments else given
      let index := (((← Run.lookup? "OPTIND").bind String.toNat?).getD 1).max 1
      let silent := known.startsWith ":"
      let finish (index : Nat) : Run Unit := do
        Run.assign "OPTIND" (decimal index)
        Run.assign name "?"
        Run.status 1
      match arguments[index - 1]? with
      | none => finish index
      | some word =>
          let letters := word.toList
          if shell.optionOffset = 0 ∧ word = "--" then finish (index + 1)
          else if shell.optionOffset = 0 ∧ (letters.head? ≠ some '-' ∨ letters.length = 1) then
            finish index
          else
            let offset := shell.optionOffset.max 1
            let letter := letters.getD offset '?'
            let last := letters.length ≤ offset + 1
            let next := if last then index + 1 else index
            let nextOffset := if last then 0 else offset + 1
            let position := known.toList.findIdx (· = letter)
            let isKnown := letter ≠ ':' && position < known.length
            let takes := isKnown && known.toList[position + 1]? = some ':'
            let settle (index offset : Nat) (value : String) : Run Unit := do
              Run.assign name value
              Run.assign "OPTIND" (decimal index)
              modify fun shell => { shell with optionOffset := offset }
              Run.status 0
            if !isKnown then
              if silent then Run.assign "OPTARG" letter.toString
              else
                wrongOption ("Illegal option -" ++ letter.toString)
                  ("illegal option -- " ++ letter.toString)
                Run.unset "OPTARG"
              settle next nextOffset "?"
            else if takes then
              if !last then
                Run.assign "OPTARG" (String.ofList (letters.drop (offset + 1)))
                settle (index + 1) 0 letter.toString
              else match arguments[index]? with
                | some value =>
                    Run.assign "OPTARG" value
                    settle (index + 2) 0 letter.toString
                | none =>
                    if silent then
                      Run.assign "OPTARG" letter.toString
                      settle (index + 1) 0 ":"
                    else
                      wrongOption ("No arg for -" ++ letter.toString ++ " option")
                        ("option requires an argument -- " ++ letter.toString)
                      Run.unset "OPTARG"
                      settle (index + 1) 0 "?"
            else
              if ← Run.isExtended then Run.unset "OPTARG" else Run.assign "OPTARG" ""
              settle next nextOffset letter.toString
  | _ => Run.fail "Usage: getopts optstring var [arg]"

end Builtin

end CatalogSeed.Script
