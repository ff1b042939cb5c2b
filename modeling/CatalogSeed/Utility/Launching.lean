import CatalogSeed.Script.Signal
import CatalogSeed.Utility.Batching

/-!
Utilities that run other programs, and what each of them plans to do.
-/

namespace CatalogSeed.Utility

/-- A setting for the environment: a name, an equals sign, and a value. -/
def setting? (word : String) : Option (String × String) :=
  match word.toList.span (· ≠ '=') with
  | (name, _ :: value) => some (String.ofList name, String.ofList value)
  | _ => none

/-- The characters that letters behind a backslash stand for. -/
def escapedLetters : List (Char × Char) :=
  [('f', '\x0c'), ('n', '\n'), ('r', '\x0d'), ('t', '\t'), ('v', '\x0b'), ('\\', '\\'),
    ('"', '"'), ('\'', '\''), ('#', '#'), ('$', '$')]

/-- The words of a line that stands for some: with quotes, escapes, names of variables in braces,
and remarks. -/
def wordsOfLine (environment : List (String × String)) :
    Nat → List Char → Option Char → Option (List Char) → Except String (List String)
  | 0, _, _, _ => .ok []
  | fuel + 1, text, quote, word =>
      let close (more : Except String (List String)) : Except String (List String) :=
        match word with
        | some word => more.map (String.ofList word.reverse :: ·)
        | none => more
      let add (rest chars : List Char) : Except String (List String) :=
        wordsOfLine environment fuel rest quote (some (chars.reverse ++ word.getD []))
      match text, quote with
      | [], none => close (.ok [])
      | [], some _ => .error "no terminating quote in -S string"
      | '\\' :: c :: rest, some '\'' =>
          if c = '\'' ∨ c = '\\' then add rest [c] else add (c :: rest) ['\\']
      | '\\' :: '_' :: rest, some _ => add rest [' ']
      | '\\' :: '_' :: rest, none => close (wordsOfLine environment fuel rest none none)
      | '\\' :: 'c' :: _, some _ =>
          .error "'\\c' must not appear in double-quoted -S string"
      | '\\' :: 'c' :: _, none => close (.ok [])
      | '\\' :: c :: rest, _ =>
          match escapedLetters.lookup c with
          | some letter => add rest [letter]
          | none => .error ("invalid sequence '\\" ++ c.toString ++ "' in -S")
      | ['\\'], _ => .error "invalid backslash at end of string in -S"
      | c :: rest, some '\'' =>
          if c = '\'' then wordsOfLine environment fuel rest none word else add rest [c]
      | '$' :: rest, _ =>
          let (name, behind) := (rest.drop 1).span fun c => c.isAlphanum || c = '_'
          if rest.head? = some '\x7b' ∧ behind.head? = some '\x7d' ∧
              (name.head?.map fun c => !c.isDigit) = some true then
            match environment.lookup (String.ofList name) with
            | some value => add (behind.drop 1) value.toList
            | none => wordsOfLine environment fuel (behind.drop 1) quote word
          else
            .error ("only $\x7bVARNAME\x7d expansion is supported, error at: " ++
              String.ofList text)
      | c :: rest, some _ =>
          if c = '"' then wordsOfLine environment fuel rest none word else add rest [c]
      | c :: rest, none =>
          if c = '"' ∨ c = '\'' then
            wordsOfLine environment fuel rest (some c) (some (word.getD []))
          else if isSpace c then close (wordsOfLine environment fuel rest none none)
          else if c = '#' ∧ word = none then .ok []
          else add rest [c]

/-- Arguments with the words of a line in the place of the option that holds it. -/
def withWordsOfLine (environment : List (String × String)) (arguments : List String) :
    Except String (List String) :=
  let spread (line : String) (front rest : List String) : Except String (List String) :=
    (wordsOfLine environment (line.length + 1) line.toList none none).map fun words =>
      front ++ words ++ rest
  let isOption (word : String) : Bool := word.startsWith "-" && word ≠ "-"
  let (front, rest) := arguments.span fun word =>
    isOption word && !(["-S", "-vS", "--split-string"].any (word.startsWith ·))
  match rest with
  | word :: rest =>
      if !isOption word then .ok arguments
      else
        let line := ["-S", "-vS", "--split-string=", "--split-string"].findSome? fun option =>
          if option.toList.isPrefixOf word.toList then
            some (String.ofList (word.toList.drop option.length))
          else none
        match line, rest with
        | some "", next :: rest => spread next front rest
        | some line, rest => spread line front rest
        | none, _ => .ok arguments
  | [] => .ok arguments

def lineHint : String := "use -[v]S to pass options in shebang lines"

def envPlan (job : Job) : Except Result Plan := do
  let words ← (withWordsOfLine job.environment job.arguments).mapError (job.fail 125)
  let words := match words with
    | "-" :: words => "-i" :: words
    | words => words
  let long := [("ignore-environment", "i", false), ("unset", "u", true), ("chdir", "C", true),
    ("null", "0", false)]
  let job := { job with arguments := words }
  match job.call "iv0" "uC" long true 125 with
  | .error result =>
      let hint := "invalid option -- ' '\n"
      .error { result with pieces := result.pieces.map fun piece =>
        { piece with text :=
            (hint ++ job.name ++ ": " ++ lineHint ++ "\n").intercalate (piece.text.splitOn hint) } }
  | .ok call =>
      let (settings, command) := call.operands.span fun word => word.contains '='
      let plan := { Plan.plain job command with
        clear := call.has ["i"]
        dropped := call.values ["u"]
        settings := settings.filterMap setting?
        complaint := fun program error =>
          let hinted := error = .notFound && program.toList.any isSpace
          job.name ++ ": " ++ quoted program ++ ": " ++ reason error ++
            if hinted then "\n" ++ job.name ++ ": " ++ lineHint else "" }
      if command ≠ [] then .ok plan
      else
        let line (entry : String × String) : String := entry.1 ++ "=" ++ entry.2
        .error (job.output (joinLines ((plan.environment job.environment).map line)))

/-- A span of time in nanoseconds: a number and a letter for its unit. -/
def spanOf? (word : String) : Option (Option Nat) :=
  let chars := word.toList
  let (body, unit) := match chars.reverse with
    | 's' :: rest => (rest.reverse, 1)
    | 'm' :: rest => (rest.reverse, 60)
    | 'h' :: rest => (rest.reverse, 3600)
    | 'd' :: rest => (rest.reverse, 86400)
    | _ => (chars, 1)
  if ["inf", "infinity"].contains (String.ofList body).toLower then some none
  else
    ((Decimal.parse? (String.ofList body)).filter (0 ≤ ·.digits)).map fun number =>
      some (number.digits.toNat * unit * Nat.pow 10 9 / Nat.pow 10 number.places)

def timeoutPlan (job : Job) : Except Result Plan := do
  let long := [("signal", "s", true), ("kill-after", "k", true), ("verbose", "v", false),
    ("preserve-status", "keep", false), ("foreground", "f", false)]
  let call ← job.call "v" "sk" long true 125
  let span (word : String) : Except Result Nat :=
    match spanOf? word with
    | some span => .ok (span.getD 0)
    | none => .error (job.usage 125 ("invalid time interval " ++ quoted word))
  let _ ← span ((call.value? ["k"]).getD "0")
  let name := (call.value? ["s"]).getD "TERM"
  let bare := if name.toUpper.startsWith "SIG" then String.ofList (name.toList.drop 3) else name
  match Script.signalNumber? 1 bare, call.operands with
  | none, _ => .error (job.usage 125 (quoted name ++ ": invalid signal"))
  | some signal, duration :: word :: words =>
      let duration ← span duration
      let limit : Limit := ⟨duration, signal, call.has ["keep"], call.has ["v"]⟩
      .ok { Plan.plain job (word :: words) with
        limit := if duration = 0 then none else some limit }
  | _, _ =>
      let hint := "Try '" ++ job.name ++ " --help' for more information.\n"
      .error (job.written [⟨true, hint⟩] 125 false)

/-- What a utility runs; none if it is of another kind. The utility's own result is an error. -/
def plan? (job : Job) : Option (Except Result Plan) :=
  let failing (program : String) (error : FileError) : String :=
    job.name ++ ": failed to run command " ++ program ++ ": " ++ reason error
  match job.utility with
  | "env" => some (envPlan job)
  | "xargs" => some (xargsPlan job)
  | "nohup" =>
      some (if job.arguments = [] then .error (job.usage 125 "missing operand")
        else .ok { Plan.plain job job.arguments with
          complaint := fun program => failing (named program) })
  | "nice" =>
      some (match job.arguments with
        | [] => .error (job.output "0\n")
        | "-n" :: _ :: words => .ok (Plan.plain job words)
        | words => .ok (Plan.plain job words))
  | "timeout" =>
      some ((timeoutPlan job).map fun plan =>
        { plan with complaint := fun program => failing (quoted program) })
  | "setsid" | "stdbuf" =>
      some (.ok (Plan.plain job (job.arguments.dropWhile (·.startsWith "-"))))
  | _ => none

end CatalogSeed.Utility
