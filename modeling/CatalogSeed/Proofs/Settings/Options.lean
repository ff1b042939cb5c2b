import Mathlib
import CatalogSeed.Proofs.CommandLine
import CatalogSeed.Proofs.Settings.EnvFile

/-!
Settings from command lines and environments. However the options of a command line are written and
ordered, the same options are read, and each setting comes from its own option, its own variable, or
its default.
-/

namespace CatalogSeed

/-! What single arguments mean. -/

namespace Mark

theorem partOption_of_bare {name : List Char} (bare : '=' ∉ name) :
    partOption name = (String.ofList name, none) := by
  have whole := Argument.span_append bare []
  rw [List.append_nil] at whole
  rw [partOption, whole]
  simp

theorem partOption_append {name : List Char} (bare : '=' ∉ name) (value : List Char) :
    partOption (name ++ '=' :: value) = (String.ofList name, some (String.ofList value)) := by
  rw [partOption, Argument.span_append bare]
  simp

theorem ofLong_longName (setting : Setting) (joined : Option String) :
    ofLong setting.longName joined = .option setting joined := by
  cases setting <;> rfl

theorem ofArgument_long {argument : String} {long : List Char} (full : long ≠ [])
    (dashed : argument.toList = '-' :: '-' :: long) :
    ofArgument argument = ofLong (partOption long).1 (partOption long).2 := by
  obtain ⟨first, rest, rfl⟩ := List.exists_cons_of_ne_nil full
  unfold ofArgument
  rw [dashed]
  rfl

theorem longName_ne_nil (setting : Setting) : setting.longName.toList ≠ [] := by
  cases setting <;> decide

theorem longName_bare (setting : Setting) : '=' ∉ setting.longName.toList := by
  cases setting <;> decide

theorem ofArgument_name (setting : Setting) :
    ofArgument ("--" ++ setting.longName) = .option setting none := by
  have dashed : ("--" ++ setting.longName).toList = '-' :: '-' :: setting.longName.toList := by
    simp
  rw [ofArgument_long (longName_ne_nil setting) dashed, partOption_of_bare (longName_bare setting),
    String.ofList_toList, ofLong_longName]

theorem ofArgument_assignment (setting : Setting) (value : String) :
    ofArgument ("--" ++ setting.longName ++ "=" ++ value) = .option setting (some value) := by
  have dashed : ("--" ++ setting.longName ++ "=" ++ value).toList =
      '-' :: '-' :: (setting.longName.toList ++ '=' :: value.toList) := by simp
  rw [ofArgument_long (by simp) dashed, partOption_append (longName_bare setting),
    String.ofList_toList, String.ofList_toList, ofLong_longName]

theorem ofArgument_letter (value : String) :
    ofArgument ("-o" ++ value) = .option .output (joinedValue value.toList) := by
  have dashed : ("-o" ++ value).toList = '-' :: 'o' :: value.toList := by simp
  unfold ofArgument
  rw [dashed]
  rfl

theorem ofArgument_letterAssigned (value : String) :
    ofArgument ("-o=" ++ value) = .option .output (some value) := by
  have parts : "-o=" ++ value = "-o" ++ ("=" ++ value) := String.toList_injective (by simp)
  have assigned : ("=" ++ value).toList = '=' :: value.toList := by simp
  rw [parts, ofArgument_letter, assigned, joinedValue, String.ofList_toList]

end Mark

/-! What a command line says. -/

theorem Setting.check_of_full {setting : Setting} {value : String}
    (full : setting ≠ .program → value ≠ "") : setting.check value = .ok value := by
  have valid : ¬(setting ≠ .program ∧ value = "") := fun wrong => full wrong.1 wrong.2
  exact if_neg valid

namespace Options

theorem get?_put (options : Options) (value : String) (setting other : Setting) :
    (options.put value setting).get? other =
      if setting = other then some value else options.get? other := by
  cases setting <;> cases other <;> rfl

theorem includeRemote_put (options : Options) (value : String) (setting : Setting) :
    (options.put value setting).includeRemote = options.includeRemote := by
  cases setting <;> rfl

theorem put_comm {setting other : Setting} (apart : setting ≠ other) (options : Options)
    (value value' : String) :
    (options.put value setting).put value' other =
      (options.put value' other).put value setting := by
  cases setting <;> cases other <;> simp_all [put]

/-- What a command line says about one thing: an option with its value, or that hosted servers are
to be included. -/
inductive Part
  | option (setting : Setting) (value : String)
  | includeRemote
  deriving DecidableEq

namespace Part

/-- The ways in which a part is written as arguments. -/
inductive Written : Part → List String → Prop
  | apart (setting value) : Written (.option setting value) ["--" ++ setting.longName, value]
  | joined (setting value) :
      Written (.option setting value) ["--" ++ setting.longName ++ "=" ++ value]
  | letterApart (value) : Written (.option .output value) ["-o", value]
  | letterJoined (value) : Written (.option .output value) ["-o" ++ value]
  | letterAssigned (value) : Written (.option .output value) ["-o=" ++ value]
  | includeRemote : Written .includeRemote ["--include-remote"]

/-- The setting that a part is about; `none` for hosted servers. -/
def subject : Part → Option Setting
  | option setting _ => some setting
  | includeRemote => .none

/-- The options with this said as well. -/
def give (options : Options) : Part → Options
  | option setting value => options.put value setting
  | includeRemote => { options with includeRemote := true }

/-- Nothing has been said yet about what the part is about. -/
def Unsaid (options : Options) : Part → Prop
  | option setting _ => options.get? setting = .none
  | includeRemote => options.includeRemote = false

theorem unsaid_none (part : Part) : part.Unsaid .none := by
  cases part with
  | option setting value => cases setting <;> rfl
  | includeRemote => rfl

theorem Unsaid.give {part other : Part} {options : Options} (unsaid : other.Unsaid options)
    (apart : part.subject ≠ other.subject) : other.Unsaid (give options part) := by
  cases part with
  | option setting value =>
      cases other with
      | option setting' value' =>
          have different : setting ≠ setting' := fun same => apart (congrArg some same)
          exact (get?_put ..).trans ((if_neg different).trans unsaid)
      | includeRemote => exact (includeRemote_put ..).trans unsaid
  | includeRemote =>
      cases other with
      | option setting' value' => cases setting' <;> exact unsaid
      | includeRemote => exact absurd rfl apart

theorem give_comm {part other : Part} (apart : part.subject ≠ other.subject) (options : Options) :
    give (give options part) other = give (give options other) part := by
  cases part with
  | option setting value =>
      cases other with
      | option setting' value' => exact put_comm (fun same => apart (congrArg some same)) ..
      | includeRemote => cases setting <;> rfl
  | includeRemote =>
      cases other with
      | option setting' value' => cases setting' <;> rfl
      | includeRemote => exact absurd rfl apart

end Part

/-- What the options say, part by part. -/
def parts (options : Options) : List Part :=
  Setting.all.filterMap (fun setting => (options.get? setting).map (.option setting)) ++
    if options.includeRemote then [.includeRemote] else []

theorem foldl_parts (options : Options) : options.parts.foldl Part.give .none = options := by
  obtain ⟨_ | catalogFile, _ | program, _ | output, _ | _⟩ := options <;> rfl

theorem mem_parts {options : Options} {setting : Setting} {value : String} :
    .option setting value ∈ options.parts ↔ options.get? setting = some value := by
  cases setting <;> simp [parts, Setting.all]

/-- Each part is about something else. -/
theorem nodup_parts (options : Options) : (options.parts.map Part.subject).Nodup := by
  obtain ⟨_ | catalogFile, _ | program, _ | output, _ | _⟩ := options <;>
    simp [parts, Setting.all, get?, Part.subject]

/-- The order of parts about different things does not matter. -/
theorem foldl_give_perm {parts others : List Part} (perm : parts.Perm others)
    (distinct : (others.map Part.subject).Nodup) (options : Options) :
    parts.foldl Part.give options = others.foldl Part.give options := by
  refine (perm.symm.foldl_eq' (fun part among other amongToo options => ?_) options).symm
  by_cases same : part.subject = other.subject
  · rw [List.inj_on_of_nodup_map distinct among amongToo same]
  · exact Part.give_comm same options

/-- Values that are told from options however they are written. -/
structure Plain (value : String) : Prop where
  full : value ≠ ""
  undashed : value.toList.head? ≠ some '-'
  unassigned : value.toList.head? ≠ some '='

instance (value : String) : Decidable (Plain value) :=
  decidable_of_iff (value ≠ "" ∧ value.toList.head? ≠ some '-' ∧ value.toList.head? ≠ some '=')
    ⟨fun ⟨full, undashed, unassigned⟩ => ⟨full, undashed, unassigned⟩,
      fun plain => ⟨plain.full, plain.undashed, plain.unassigned⟩⟩

/-- A part whose value, if it has one, is plain. -/
def Part.Plain : Part → Prop
  | option _ value => Options.Plain value
  | includeRemote => True

theorem Plain.isValue {value : String} (plain : Plain value) : Request.isValue value = true := by
  unfold Request.isValue
  split
  next first rest dashed => exact absurd (dashed ▸ rfl) plain.undashed
  next => rfl

theorem Plain.joinedValue {value : String} (plain : Plain value) :
    Mark.joinedValue value.toList = some value := by
  unfold Mark.joinedValue
  split
  next empty => exact absurd (String.toList_eq_nil_iff.1 empty) plain.full
  next rest assigned => exact absurd (assigned ▸ rfl) plain.unassigned
  next => rw [String.ofList_toList]

theorem set_of_plain {options : Options} {setting : Setting} {value : String} (plain : Plain value)
    (absent : options.get? setting = .none) :
    options.set setting value = .ok (options.put value setting) := by
  rw [set, absent, Setting.check_of_full fun _ => plain.full]
  rfl

end Options

namespace Request

open Options (Part Plain set_of_plain)

section

variable {options : Options} {setting : Setting} {argument value : String} (rest : List String)

theorem read_pending (plain : Plain value) (absent : options.get? setting = none) :
    read options (some setting) (value :: rest) = read (options.put value setting) none rest := by
  rw [read, if_pos plain.isValue, set_of_plain plain absent]
  rfl

theorem read_apart (mark : Mark.ofArgument argument = .option setting none) :
    read options none (argument :: rest) = read options (some setting) rest := by
  -- The equations for single patterns ask whether `rest` is empty, which does not matter here.
  conv_lhs => rw [read.eq_def]
  simp only [mark]

theorem read_joined (mark : Mark.ofArgument argument = .option setting (some value))
    (plain : Plain value) (absent : options.get? setting = none) :
    read options none (argument :: rest) = read (options.put value setting) none rest := by
  conv_lhs => rw [read.eq_def]
  simp only [mark, set_of_plain plain absent]
  rfl

theorem read_includeRemote (unsaid : options.includeRemote = false) :
    read options none ("--include-remote" :: rest) =
      read { options with includeRemote := true } none rest := by
  have mark : Mark.ofArgument "--include-remote" = .includeRemote := by decide
  conv_lhs => rw [read.eq_def]
  simp only [mark, unsaid]
  rfl

end

/-- One part is read, however it is written. -/
theorem read_written {part : Part} {words : List String} (written : part.Written words)
    (plain : part.Plain) {options : Options} (unsaid : part.Unsaid options) (rest : List String) :
    read options none (words ++ rest) = read (part.give options) none rest := by
  cases written with
  | apart setting value =>
      exact (read_apart _ (Mark.ofArgument_name setting)).trans (read_pending rest plain unsaid)
  | joined setting value => exact read_joined rest (Mark.ofArgument_assignment ..) plain unsaid
  | letterApart value =>
      exact (read_apart _ (Mark.ofArgument_letter "")).trans (read_pending rest plain unsaid)
  | letterJoined value =>
      have mark : Mark.ofArgument ("-o" ++ value) = .option .output (some value) := by
        rw [Mark.ofArgument_letter, plain.joinedValue]
      exact read_joined rest mark plain unsaid
  | letterAssigned value =>
      exact read_joined rest (Mark.ofArgument_letterAssigned value) plain unsaid
  | includeRemote => exact read_includeRemote rest unsaid

theorem read_parts {parts : List Part} {words : List (List String)}
    (written : List.Forall₂ Part.Written parts words) (plain : ∀ part ∈ parts, part.Plain)
    (distinct : (parts.map Part.subject).Nodup) {options : Options}
    (unsaid : ∀ part ∈ parts, part.Unsaid options) :
    read options none words.flatten = .ok (.run (parts.foldl Part.give options)) := by
  induction written generalizing options with
  | nil => rfl
  | @cons part words parts later written _ ih =>
      rw [List.map_cons, List.nodup_cons] at distinct
      rw [List.forall_mem_cons] at plain unsaid
      have further : ∀ other ∈ parts, other.Unsaid (part.give options) := fun other among =>
        (unsaid.2 other among).give fun same =>
          distinct.1 (same ▸ List.mem_map_of_mem among)
      rw [List.flatten_cons, read_written written plain.1 unsaid.1,
        ih plain.2 distinct.2 further, List.foldl_cons]

end Request

namespace Options

/-- The arguments say what the options hold: each part in one of its ways, and all in some order. -/
def WrittenAs (options : Options) (arguments : List String) : Prop :=
  ∃ parts words, parts.Perm options.parts ∧ List.Forall₂ Part.Written parts words ∧
    arguments = words.flatten

theorem WrittenAs.read {options : Options} {arguments : List String}
    (written : options.WrittenAs arguments)
    (plain : ∀ setting value, options.get? setting = some value → Plain value) :
    Request.ofArguments arguments = .ok (.run options) := by
  obtain ⟨parts, words, perm, written, rfl⟩ := written
  -- What is read is the parts as they come; only then are they put into the usual order.
  have distinct := (perm.map Part.subject).nodup_iff.2 (nodup_parts options)
  have plainParts : ∀ part ∈ parts, part.Plain := by
    intro part among
    cases part with
    | option setting value => exact plain setting value (mem_parts.1 (perm.mem_iff.1 among))
    | includeRemote => trivial
  rw [Request.ofArguments,
    Request.read_parts written plainParts distinct fun part _ => part.unsaid_none,
    foldl_give_perm perm (nodup_parts options), foldl_parts]

end Options

namespace Settings

/-- What a setting is told to be: by its option, or else by its variable. -/
def told (options : Options) (environment : Environment) (tree : FileTree) (setting : Setting) :
    Option String :=
  (options.get? setting).or (inherited environment tree setting.variableName)

/-- The variables of options that are absent are unset, or hold what the option may hold. -/
structure Sound (options : Options) (environment : Environment) (tree : FileTree) : Prop where
  full : ∀ setting, options.get? setting = none → setting ≠ .program →
    inherited environment tree setting.variableName ≠ some ""
  boolean : options.includeRemote = false →
    inherited environment tree remoteVariable ∈ [none, some "true", some "false"]

section

variable {options : Options} {environment : Environment} {tree : FileTree}

theorem Sound.value_eq (sound : Sound options environment tree) (setting : Setting) :
    value options (EnvFile.extend environment.complete tree) setting =
      .ok (told options environment tree setting) := by
  have known : setting.variableName ∈ variableNames := by cases setting <;> decide
  rw [value, told, lookup_extend_complete _ _ known]
  cases given : options.get? setting with
  | some value => rfl
  | none =>
      rw [Option.none_or]
      cases set : inherited environment tree setting.variableName with
      | none => rfl
      | some value =>
          have checked : setting.check value = .ok value := Setting.check_of_full
            fun other empty => sound.full setting given other (empty ▸ set)
          simp only [checked]
          rfl

theorem Sound.includesRemote_eq (sound : Sound options environment tree) :
    includesRemote options (EnvFile.extend environment.complete tree) =
      .ok (options.includeRemote || inherited environment tree remoteVariable = some "true") := by
  have known : remoteVariable ∈ variableNames := by decide
  rw [includesRemote, lookup_extend_complete _ _ known]
  cases given : options.includeRemote with
  | true => rfl
  | false =>
      have valid := sound.boolean given
      simp only [List.mem_cons, List.not_mem_nil, or_false] at valid
      rcases valid with set | set | set
      · rw [set]; rfl
      · rw [set]; rfl
      · rw [set]; rfl

end

/-- However the options of a command line are written and ordered, each setting is what its own
option says, or else its own variable, one that is set going before one of the nearest file, or
else its default; and a catalog file, however it is told, goes before any program. -/
theorem ofArguments_written {options : Options} {arguments : List String}
    (written : options.WrittenAs arguments)
    (plain : ∀ setting value, options.get? setting = some value → Options.Plain value)
    {environment : Environment} {tree : FileTree} (sound : Sound options environment tree) :
    ofArguments arguments (EnvFile.extend environment.complete tree) = .ok
      { source := match told options environment tree .catalogFile with
          | some path => .file path
          | none => .program ((told options environment tree .program).getD "docker")
        output := (told options environment tree .output).getD "seed.json"
        includeRemote :=
          options.includeRemote || inherited environment tree remoteVariable = some "true" } := by
  rw [ofArguments, written.read plain]
  simp only [resolve, sound.value_eq, sound.includesRemote_eq]
  rfl

/-- A directory with a file of settings in it. -/
def preset : FileTree where
  names := [([], 0), ([".env"], 1)]
  nodes := [(0, ⟨.directory, 0o755, 0, 0, 0, 0⟩),
    (1, ⟨.file (Utf8.encode "MCPSEED_CATALOG_FILE=d.json\nMCPSEED_INCLUDE_REMOTE=true\n"),
      0o644, 0, 0, 0, 0⟩)]
  made := 2
  numbered := by decide
  workingDirectory := []
  mask := 0o022
  limits := []
  now := 0
  output := []
  errors := []

/-- The catalog file is told twice, and the one that the file of settings names does not count; nor
does the program, though it is an option. -/
theorem ofArguments_written_preset :
    (Options.mk none (some "podman") (some "out.json") false).WrittenAs
      ["-oout.json", "--docker=podman"] ∧
    (Options.Plain "podman" ∧ Options.Plain "out.json") ∧
    Sound ⟨none, some "podman", some "out.json", false⟩ [("MCPSEED_CATALOG_FILE", "c.json")]
      preset ∧
    ofArguments ["-oout.json", "--docker=podman"]
      (EnvFile.extend (Environment.complete [("MCPSEED_CATALOG_FILE", "c.json")]) preset) =
        .ok ⟨.file "c.json", "out.json", true⟩ := by
  have written : (Options.mk none (some "podman") (some "out.json") false).WrittenAs
      ["-oout.json", "--docker=podman"] :=
    ⟨[.option .output "out.json", .option .program "podman"],
      [["-oout.json"], ["--docker=podman"]], .swap ..,
      .cons (.letterJoined "out.json") (.cons (.joined .program "podman") .nil), rfl⟩
  have program : Options.Plain "podman" := by decide
  have output : Options.Plain "out.json" := by decide
  have plain : ∀ setting value, (Options.mk none (some "podman") (some "out.json") false).get?
      setting = some value → Options.Plain value := by
    intro setting value given
    cases setting with
    | catalogFile => contradiction
    | program => exact Option.some.inj given ▸ program
    | output => exact Option.some.inj given ▸ output
  have found : EnvFile.nearest? preset =
      some (Utf8.encode "MCPSEED_CATALOG_FILE=d.json\nMCPSEED_INCLUDE_REMOTE=true\n") := by cbv
  have said : EnvFile.nearby (Environment.complete [("MCPSEED_CATALOG_FILE", "c.json")]) preset =
      [("MCPSEED_CATALOG_FILE", "d.json"), ("MCPSEED_INCLUDE_REMOTE", "true")] := by
    rw [EnvFile.nearby, found]
    decide +kernel
  have sound : Sound ⟨none, some "podman", some "out.json", false⟩
      [("MCPSEED_CATALOG_FILE", "c.json")] preset := by
    constructor
    · intro setting absent other
      cases setting with
      | catalogFile =>
          rw [inherited, said]
          decide
      | program => contradiction
      | output => contradiction
    · intro _
      rw [inherited, said]
      decide
  refine ⟨written, ⟨program, output⟩, sound,
    (ofArguments_written written plain sound).trans ?_⟩
  simp only [told, inherited, said]
  decide

end Settings

end CatalogSeed
