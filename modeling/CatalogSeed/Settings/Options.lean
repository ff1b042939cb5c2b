import CatalogSeed.Source

/-!
The options of a command line, and the settings that they and the environment come to.
-/

namespace CatalogSeed

/-- What the command line itself says. -/
structure Options where
  catalogFile : Option String
  program : Option String
  output : Option String
  includeRemote : Bool
  deriving DecidableEq

/-- What a command line asks for. -/
inductive Request
  | run (options : Options)
  | version
  | help
  deriving DecidableEq

inductive UsageError
  | unexpected (argument : String)
  | valueMissing (option : String)
  | valueEmpty (option : String)
  | repeated (option : String)
  | notBoolean (value : String)
  deriving DecidableEq

/-- An option with a value. -/
inductive Setting
  | catalogFile
  | program
  | output
  deriving DecidableEq

namespace Setting

def longName : Setting → String
  | catalogFile => "catalog-file"
  | program => "docker"
  | output => "output"

/-- The variable of the environment that stands in for an absent option. -/
def variableName : Setting → String
  | catalogFile => "MCPSEED_CATALOG_FILE"
  | program => "MCPSEED_DOCKER"
  | output => "MCPSEED_OUTPUT"

def all : List Setting := [catalogFile, program, output]

/-- Only the name of the program may be empty. -/
def check (setting : Setting) (value : String) : Except UsageError String :=
  if setting ≠ program ∧ value = "" then .error (.valueEmpty setting.longName) else .ok value

end Setting

namespace Options

def none : Options := ⟨.none, .none, .none, false⟩

def get? (options : Options) : Setting → Option String
  | .catalogFile => options.catalogFile
  | .program => options.program
  | .output => options.output

def put (options : Options) (value : String) : Setting → Options
  | .catalogFile => { options with catalogFile := some value }
  | .program => { options with program := some value }
  | .output => { options with output := some value }

/-- An option may be given once. -/
def set (options : Options) (setting : Setting) (value : String) : Except UsageError Options :=
  if (options.get? setting).isSome then .error (.repeated setting.longName)
  else (setting.check value).map fun value => options.put value setting

end Options

/-- What one argument means by itself. -/
inductive Mark
  | option (setting : Setting) (joined : Option String)
  | includeRemote
  | version
  | help
  | optionsEnd
  | stray
  deriving DecidableEq

namespace Mark

/-- Parts an option at its equals sign, if it has one. -/
def partOption (chars : List Char) : String × Option String :=
  match chars.span (· ≠ '=') with
  | (name, []) => (String.ofList name, none)
  | (name, _ :: value) => (String.ofList name, some (String.ofList value))

/-- The value that is joined to a one-letter option, with or without an equals sign. -/
def joinedValue : List Char → Option String
  | [] => none
  | '=' :: value => some (String.ofList value)
  | value => some (String.ofList value)

def ofLong (name : String) (joined : Option String) : Mark :=
  match Setting.all.find? (·.longName = name) with
  | some setting => .option setting joined
  | none =>
      if joined.isSome then .stray
      else if name = "include-remote" then .includeRemote
      else if name = "version" then .version
      else if name = "help" then .help
      else .stray

def ofArgument (argument : String) : Mark :=
  match argument.toList with
  | ['-', '-'] => .optionsEnd
  | '-' :: '-' :: long =>
      let (name, joined) := partOption long
      ofLong name joined
  | '-' :: 'V' :: _ => .version
  | '-' :: 'h' :: _ => .help
  | '-' :: 'o' :: joined => .option .output (joinedValue joined)
  | _ => .stray

end Mark

namespace Request

/-- Whether an argument can be the value of the option before it. -/
def isValue (argument : String) : Bool :=
  match argument.toList with
  | '-' :: _ :: _ => false
  | _ => true

/-- Reads arguments from left to right, `pending` being an option that still wants its value.
What is wrong first is reported, and a question for the version is answered when it is met. -/
def read (options : Options) : Option Setting → List String → Except UsageError Request
  | none, [] => .ok (.run options)
  | some setting, [] => .error (.valueMissing setting.longName)
  | some setting, argument :: rest =>
      if isValue argument then do
        let options ← options.set setting argument
        read options none rest
      else .error (.valueMissing setting.longName)
  | none, argument :: rest =>
      match Mark.ofArgument argument with
      | .option setting none => read options (some setting) rest
      | .option setting (some value) => do
          let options ← options.set setting value
          read options none rest
      | .includeRemote =>
          if options.includeRemote then .error (.repeated argument)
          else read { options with includeRemote := true } none rest
      | .version => .ok .version
      | .help => .ok .help
      | .optionsEnd =>
          match rest with
          | [] => .ok (.run options)
          | extra :: _ => .error (.unexpected extra)
      | .stray => .error (.unexpected argument)

def ofArguments (arguments : List String) : Except UsageError Request :=
  read .none none arguments

end Request

/-- What a run is told to do. -/
structure Settings where
  source : Source
  output : String
  includeRemote : Bool
  deriving DecidableEq

namespace Settings

def defaultOutput : String := "seed.json"

def remoteVariable : String := "MCPSEED_INCLUDE_REMOTE"

/-- The variables of the environment that settings are read from. -/
def variableNames : List String := Setting.all.map Setting.variableName ++ [remoteVariable]

/-- An option's value, or else that of its variable. -/
def value (options : Options) (environment : Environment) (setting : Setting) :
    Except UsageError (Option String) :=
  match options.get? setting, environment.lookup setting.variableName with
  | some value, _ => .ok (some value)
  | none, some value => (setting.check value).map some
  | none, none => .ok none

def includesRemote (options : Options) (environment : Environment) : Except UsageError Bool :=
  if options.includeRemote then .ok true
  else match environment.lookup remoteVariable with
    | none => .ok false
    | some "true" => .ok true
    | some "false" => .ok false
    | some other => .error (.notBoolean other)

/-- A catalog file, wherever it is named, goes before any program. -/
def resolve (options : Options) (environment : Environment) : Except UsageError Settings := do
  let catalogFile ← value options environment .catalogFile
  let program ← value options environment .program
  let output ← value options environment .output
  let includeRemote ← includesRemote options environment
  let source := match catalogFile with
    | some path => Source.file path
    | none => Source.program (program.getD Source.defaultProgram)
  .ok ⟨source, output.getD defaultOutput, includeRemote⟩

end Settings

end CatalogSeed
