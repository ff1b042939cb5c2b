import CatalogSeed.Proofs.Acceptance
import CatalogSeed.Proofs.CommandLine
import CatalogSeed.Proofs.Seed
import CatalogSeed.Proofs.Truncate

/-!
The shape of seeds: which members a descriptor is printed with, and where in it something can be
empty.
-/

namespace CatalogSeed

open Document

namespace Json

/-- One step down in a tree: to an item of an array, or to the value of a member. -/
inductive Step
  | item
  | member (key : String)
  deriving DecidableEq

/-- The parts of a tree, by the ways that lead down to them. -/
inductive At : Json → List Step → Json → Prop
  | here (json : Json) : At json [] json
  | item {item part : Json} {items : List Json} {path : List Step} (among : item ∈ items)
      (inside : At item path part) : At (.array items) (.item :: path) part
  | member {part : Json} {member : String × Json} {members : List (String × Json)}
      {path : List Step} (among : member ∈ members) (inside : At member.2 path part) :
      At (.object members) (.member member.1 :: path) part

/-- The trees that a descriptor is printed without, but for texts it has to have. -/
def Hollow : Json → Prop
  | .null => True
  | .bool value => value = false
  | .number _ => False
  | .string value => value = ""
  | .array items => items = []
  | .object members => members = []

/-- Nothing in a tree is hollow, apart from texts in some places. -/
def Filled (blanks : List Step → Prop) (json : Json) : Prop :=
  ∀ path part, json.At path part → part.Hollow → part = .string "" ∧ blanks path

variable {blanks more : List Step → Prop}

theorem Filled.imp {json : Json} (filled : json.Filled blanks)
    (fewer : ∀ path, blanks path → more path) : json.Filled more :=
  fun path part inside hollow => (filled path part inside hollow).imp id (fewer path)

theorem filled_string {value : String} (full : value ≠ "") : (Json.string value).Filled blanks := by
  rintro path part ⟨⟩ hollow
  exact absurd hollow full

/-- A text that may be empty. -/
theorem filled_blank (allowed : blanks []) (value : String) :
    (Json.string value).Filled blanks := by
  rintro path part ⟨⟩ hollow
  exact ⟨congrArg Json.string hollow, allowed⟩

theorem filled_true : (Json.bool true).Filled blanks := by
  rintro path part ⟨⟩ hollow
  exact absurd hollow (by simp [Hollow])

theorem filled_array {items : List Json} (full : items ≠ [])
    (each : ∀ item ∈ items, item.Filled fun path => blanks (.item :: path)) :
    (Json.array items).Filled blanks := by
  intro path part inside hollow
  cases inside with
  | here => exact absurd hollow full
  | item among inside => exact each _ among _ _ inside hollow

/-- The values of members are filled, each where its key leads. -/
def FilledMembers (blanks : List Step → Prop) (members : List (String × Json)) : Prop :=
  ∀ member ∈ members, member.2.Filled fun path => blanks (.member member.1 :: path)

theorem filled_object {members : List (String × Json)} (full : members ≠ [])
    (each : FilledMembers blanks members) : (Json.object members).Filled blanks := by
  intro path part inside hollow
  cases inside with
  | here => exact absurd hollow full
  | member among inside => exact each _ among _ _ inside hollow

@[simp] theorem filledMembers_nil : FilledMembers blanks [] := nofun

@[simp] theorem filledMembers_cons {key : String} {value : Json}
    {members : List (String × Json)} :
    FilledMembers blanks ((key, value) :: members) ↔
      value.Filled (fun path => blanks (.member key :: path)) ∧ FilledMembers blanks members :=
  List.forall_mem_cons

@[simp] theorem filledMembers_append {first later : List (String × Json)} :
    FilledMembers blanks (first ++ later) ↔
      FilledMembers blanks first ∧ FilledMembers blanks later :=
  List.forall_mem_append

end Json

open Json

/-! Members that are printed only when there is something in them are never hollow. -/

namespace Written

variable {α : Type} {blanks : List Step → Prop}

@[simp] theorem text_filled (key value : String) : FilledMembers blanks (text key value) := by
  unfold text
  split
  next => exact filledMembers_nil
  next full => exact filledMembers_cons.2 ⟨filled_string full, filledMembers_nil⟩

theorem text?_filled (key : String) {value : Option String} (full : value ≠ some "") :
    FilledMembers blanks (text? key value) := by
  cases value with
  | none => exact filledMembers_nil
  | some value =>
      have other : value ≠ "" := fun empty => full (congrArg some empty)
      exact filledMembers_cons.2 ⟨filled_string other, filledMembers_nil⟩

@[simp] theorem flag_filled (key : String) (value : Bool) :
    FilledMembers blanks (flag key value) := by
  cases value with
  | false => exact filledMembers_nil
  | true => exact filledMembers_cons.2 ⟨filled_true, filledMembers_nil⟩

theorem list_filled (key : String) {toJson : α → Json} {items : List α}
    (each : ∀ item ∈ items,
      (toJson item).Filled fun path => blanks (.member key :: .item :: path)) :
    FilledMembers blanks (list key toJson items) := by
  unfold list
  split
  next => exact filledMembers_nil
  next full =>
    refine filledMembers_cons.2 ⟨filled_array ?_ (List.forall_mem_map.2 each), filledMembers_nil⟩
    simpa using full

theorem table_filled (key : String) {toJson : α → Json} {map : KeyMap α}
    (each : ∀ entry ∈ map.entries,
      (toJson entry.2).Filled fun path => blanks (.member key :: .member entry.1 :: path)) :
    FilledMembers blanks (table key toJson map) := by
  unfold table
  split
  next => exact filledMembers_nil
  next full =>
    refine filledMembers_cons.2 ⟨filled_object ?_ (List.forall_mem_map.2 each), filledMembers_nil⟩
    simpa [KeyMap.isEmpty] using full

end Written

/-! The parts of a descriptor. -/

theorem ConfigIndex.description?_ne (index : ConfigIndex) (key : String) :
    index.description? key ≠ some "" := by
  intro found
  simp only [description?, bind, Option.bind_eq_some_iff] at found
  obtain ⟨_, _, description, _, found⟩ := found
  split at found
  next => contradiction
  next full => exact full (Option.some.inj found)

/-- Every variable is printed with something that is asked of it. -/
def Variables.Filled (vars : Variables) : Prop :=
  ∀ entry ∈ vars.entries, entry.2.toJson.Filled fun _ => False

theorem Variables.filled_empty : Variables.Filled .empty := nofun

theorem VariableSchema.plain_filled {description : Option String} (full : description ≠ some "") :
    (plain description).toJson.Filled fun _ => False := by
  refine filled_object (by simp [plain, Written.flag, Written.text?]) ?_
  have format : some plainFormat ≠ some "" := by decide
  simp [plain, Written.text?_filled _ full, Written.text?_filled _ format]

theorem VariableSchema.secret_filled : secret.toJson.Filled fun _ => False := by
  refine filled_object (by decide) ?_
  simp [secret, Written.text?_filled]

theorem Template.vars_filled (template : Template) (index : ConfigIndex) :
    (template.vars index).Filled := by
  intro entry found
  obtain ⟨placeholder, _, rfl⟩ := List.mem_map.1 (KeyMap.mem_of_mem_ofList found)
  exact VariableSchema.plain_filled (index.description?_ne placeholder.name)

namespace NamedValue

theorem new_filled (name value : String) {vars : Variables} (filled : vars.Filled) :
    (new name value vars).toJson.Filled (· = [.member "name"]) := by
  have inner : FilledMembers (· = [.member "name"])
      (Written.table "variables" VariableSchema.toJson vars) :=
    Written.table_filled _ fun entry among => (filled entry among).imp fun _ => False.elim
  refine filled_object (by simp) ?_
  simp [new, inner, filled_blank, Written.text?_filled]

theorem ofEnv_filled (index : ConfigIndex) (env : EnvVar) :
    (ofEnv index env).toJson.Filled (· = [.member "name"]) :=
  new_filled _ _ (Template.vars_filled _ index)

theorem ofSecret_filled (secret : Secret) :
    (ofSecret secret).toJson.Filled (· = [.member "name"]) := by
  refine new_filled _ _ fun entry found => ?_
  obtain rfl : entry = (secret.name, .secret) := by
    simpa [KeyMap.insert, KeyMap.empty, KeyMap.place] using found
  exact VariableSchema.secret_filled

end NamedValue

namespace Argument

theorem toJson_filled {argument : Argument} (filled : argument.vars.Filled) :
    argument.toJson.Filled fun _ => False := by
  have type : argument.type.name ≠ "" := by cases argument.type <;> decide
  have inner : FilledMembers (fun _ => False)
      (Written.table "variables" VariableSchema.toJson argument.vars) :=
    Written.table_filled _ filled
  refine filled_object (by simp) ?_
  simp [filled_string type, inner]

theorem templated_filled (index : ConfigIndex) (flag raw : String) :
    (templated index flag raw).toJson.Filled fun _ => False :=
  toJson_filled (Template.vars_filled _ index)

theorem ofToken_filled (index : ConfigIndex) (token : String) :
    (ofToken index token).toJson.Filled fun _ => False := by
  cases Form.of token with
  | text undashed => exact ofToken_of_text index undashed ▸ toJson_filled Variables.filled_empty
  | flag flag => exact ofToken_of_flag index flag ▸ toJson_filled Variables.filled_empty
  | assignment left value =>
      exact ofToken_of_assignment index left value ▸ templated_filled index _ value

end Argument

theorem Transport.stdio_filled : stdio.toJson.Filled fun _ => False := by
  have type : stdioType ≠ "" := by decide
  refine filled_object (by simp) ?_
  simp [stdio, filled_string type, Written.text?_filled, Written.list]

theorem Transport.ofRemote_filled (remote : Remote) :
    (ofRemote remote).toJson.Filled
      (· ∈ [[.member "type"], [.member "headers", .item, .member "name"]]) := by
  have url : (some remote.url).filter (· ≠ "") ≠ some "" := by simp [Option.filter_eq_some_iff]
  have headers : FilledMembers
      (· ∈ [[.member "type"], [.member "headers", .item, .member "name"]])
      (Written.list "headers" NamedValue.toJson (ofRemote remote).headers) := by
    refine Written.list_filled _ fun header found => ?_
    obtain ⟨entry, _, rfl⟩ := List.mem_map.1 found
    exact (NamedValue.new_filled _ _ Variables.filled_empty).imp (by simp)
  refine filled_object (by simp) ?_
  simp only [filledMembers_append, headers, filledMembers_cons, filledMembers_nil, and_true]
  exact ⟨filled_blank (by simp) _, Written.text?_filled _ url⟩

theorem Package.ofEntry_filled (entry : Entry) :
    (ofEntry entry).toJson.Filled
      (· ∈ [[.member "identifier"], [.member "environmentVariables", .item, .member "name"]]) := by
  let index := ConfigIndex.build entry.config
  have registryType : ociType ≠ "" := by decide
  have hint : (ofEntry entry).runtimeHint ≠ some "" := by
    simp only [ofEntry]
    split <;> simp [dockerHint]
  have named : ∀ named ∈ (ofEntry entry).environmentVariables,
      named.toJson.Filled (· = [.member "name"]) := by
    simp only [ofEntry, List.forall_mem_append, List.forall_mem_map]
    exact ⟨fun env _ => NamedValue.ofEnv_filled index env,
      fun secret _ => NamedValue.ofSecret_filled secret⟩
  have command : ∀ argument ∈ (ofEntry entry).packageArguments,
      argument.toJson.Filled fun _ => False :=
    List.forall_mem_map.2 fun token _ => Argument.ofToken_filled index token
  have runtime : ∀ argument ∈ (ofEntry entry).runtimeArguments,
      argument.toJson.Filled fun _ => False := by
    simp only [ofEntry, List.forall_mem_append, List.forall_mem_map]
    exact ⟨fun volume _ => Argument.templated_filled index _ volume,
      fun user _ => Argument.templated_filled index _ user⟩
  refine filled_object (by simp) ?_
  simp only [filledMembers_append, filledMembers_cons, filledMembers_nil, and_true]
  refine ⟨⟨⟨⟨⟨⟨filled_string registryType, ?_, filled_blank (by simp) _⟩, ?_⟩, ?_⟩, ?_⟩, ?_⟩, ?_⟩
  · exact Transport.stdio_filled.imp fun _ => False.elim
  · exact Written.text?_filled _ nofun
  · exact Written.list_filled _ fun value among => (named value among).imp (by simp)
  · exact Written.list_filled _ fun argument among =>
      (command argument among).imp fun _ => False.elim
  · exact Written.list_filled _ fun argument among =>
      (runtime argument among).imp fun _ => False.elim
  · exact Written.text?_filled _ hint

theorem Repository.ofUrl_filled {url : String} (full : url ≠ "") :
    (ofUrl url).toJson.Filled fun _ => False := by
  refine filled_object (by simp) ?_
  simp [ofUrl, filled_string full, Written.text?_filled]

namespace Server

/-- The members of a descriptor that come before its transport. -/
def headMembers (key : String) (entry : Entry) : Bag := [
  ("$schema", .string schemaUrl),
  ("name", .string (nameOf key)),
  ("description", .string (truncate entry.description)),
  ("version", .string seedVersion)]

/-- What a publisher provides is the last member of a descriptor. -/
def lastMembers (entry : Entry) : Bag :=
  [("_meta", .object [(publisherKey, .object (publisherBag entry))])]

def repositoryMembers (entry : Entry) : Bag :=
  entry.upstream?.toList.map fun url => ("repository", (Repository.ofUrl url).toJson)

/-- A descriptor is printed with one remote transport, or with one package and a repository if the
entry names one. -/
theorem ofEntry_members (key : String) (entry : Entry) :
    (∃ remote, (ofEntry key entry).toJson = .object (headMembers key entry ++
      ("remotes", .array [(Transport.ofRemote remote).toJson]) :: lastMembers entry)) ∨
    (ofEntry key entry).toJson = .object (headMembers key entry ++
      ("packages", .array [(Package.ofEntry entry).toJson]) ::
        (repositoryMembers entry ++ lastMembers entry)) := by
  unfold ofEntry
  split
  next remote _ _ => exact Or.inl ⟨remote, rfl⟩
  next =>
    refine Or.inr ?_
    cases upstream : entry.upstream? with
    | none => simp only [repositoryMembers, upstream]; rfl
    | some url => simp only [repositoryMembers, upstream]; rfl

/-- The members of a descriptor: its name and description, one transport, and whatever is provided
by its publisher. -/
structure Shape (members : Bag) : Prop where
  distinct : (members.map Prod.fst).Nodup
  schema : ∃ value, members.lookup "$schema" = some (.string value)
  name : ∃ value, members.lookup "name" = some (.string value)
  description : ∃ value, members.lookup "description" = some (.string value) ∧ value.length ≤ 100
  version : ∃ value, members.lookup "version" = some (.string value)
  transport :
    (∃ package, members.lookup "packages" = some (.array [package]) ∧
      members.lookup "remotes" = none) ∨
    ∃ remote, members.lookup "remotes" = some (.array [remote]) ∧ members.lookup "packages" = none
  repository : ∀ repository, members.lookup "repository" = some repository →
    (members.lookup "packages").isSome ∧ ∃ parts url, repository = .object parts ∧
      parts.lookup "url" = some (.string url) ∧ url ≠ ""
  provided : ∃ value, members.lookup "_meta" = some (.object [(publisherKey, value)])

theorem upstream?_ne {entry : Entry} {url : String} (found : entry.upstream? = some url) :
    url ≠ "" := by
  obtain ⟨_, full⟩ := Option.filter_eq_some_iff.1 found
  simpa using full

theorem ofEntry_shape (key : String) (entry : Entry) :
    ∃ members, (ofEntry key entry).toJson = .object members ∧ Shape members := by
  have short : (truncate entry.description).length ≤ 100 := truncate_length entry.description
  rcases ofEntry_members key entry with ⟨remote, members⟩ | members
  · refine ⟨_, members, ?_⟩
    constructor <;> simp [headMembers, lastMembers, List.lookup_cons, short]
  · refine ⟨_, members, ?_⟩
    cases upstream : entry.upstream? with
    | none =>
        constructor <;>
          simp [headMembers, repositoryMembers, lastMembers, upstream, List.lookup_cons, short]
    | some url =>
        have full := upstream?_ne upstream
        constructor <;>
          simp [headMembers, repositoryMembers, lastMembers, upstream, List.lookup_cons, short,
            Repository.toJson, Repository.ofUrl, full]

/-- The texts that a descriptor has even if they are empty. -/
def blankTexts : List (List Step) := [
  [.member "description"],
  [.member "packages", .item, .member "identifier"],
  [.member "packages", .item, .member "environmentVariables", .item, .member "name"],
  [.member "remotes", .item, .member "type"],
  [.member "remotes", .item, .member "headers", .item, .member "name"]]

theorem headMembers_filled (key : String) (entry : Entry) :
    FilledMembers (· ∈ blankTexts) (headMembers key entry) := by
  have schema : schemaUrl ≠ "" := by decide
  have named : nameOf key ≠ "" := by simp [nameOf, registryNamespace]
  have version : seedVersion ≠ "" := by decide
  simp only [headMembers, filledMembers_cons, filledMembers_nil, and_true]
  exact ⟨filled_string schema, filled_string named, filled_blank (by simp [blankTexts]) _,
    filled_string version⟩

theorem repositoryMembers_filled (entry : Entry) :
    FilledMembers (· ∈ blankTexts) (repositoryMembers entry) := by
  intro member found
  obtain ⟨url, among, rfl⟩ := List.mem_map.1 found
  have full := upstream?_ne (Option.mem_toList.1 among)
  exact (Repository.ofUrl_filled full).imp fun _ => False.elim

/-- All that comes before what the publisher provides is filled, but for the texts that may be
empty. -/
theorem ofEntry_filled (key : String) (entry : Entry) :
    ∃ members, (ofEntry key entry).toJson = .object (members ++ lastMembers entry) ∧
      FilledMembers (· ∈ blankTexts) members := by
  have head := headMembers_filled key entry
  have single (kind : String) {transport : Json}
      (filled : transport.Filled fun path => .member kind :: .item :: path ∈ blankTexts) :
      FilledMembers (· ∈ blankTexts) [(kind, .array [transport])] :=
    filledMembers_cons.2 ⟨filled_array (by simp) (List.forall_mem_singleton.2 filled),
      filledMembers_nil⟩
  rcases ofEntry_members key entry with ⟨remote, members⟩ | members
  · refine ⟨headMembers key entry ++ [("remotes", .array [(Transport.ofRemote remote).toJson])],
      by simpa using members, filledMembers_append.2 ⟨head, single "remotes" ?_⟩⟩
    exact (Transport.ofRemote_filled remote).imp (by simp [blankTexts])
  · refine ⟨headMembers key entry ++ ([("packages", .array [(Package.ofEntry entry).toJson])] ++
      repositoryMembers entry), by simpa using members, ?_⟩
    simp only [filledMembers_append]
    refine ⟨head, single "packages" ?_, repositoryMembers_filled entry⟩
    exact (Package.ofEntry_filled entry).imp (by simp [blankTexts])

theorem ofEntry_hollow {key : String} {entry : Entry} {path : List Step} {part : Json}
    (inside : (ofEntry key entry).toJson.At path part) (hollow : part.Hollow) :
    [.member "_meta"] <+: path ∨ part = .string "" ∧ path ∈ blankTexts := by
  obtain ⟨members, printed, filled⟩ := ofEntry_filled key entry
  rw [printed] at inside
  cases inside with
  | here => exact absurd hollow (by simp [Hollow, lastMembers])
  | @member _ member _ path among inside =>
      rcases List.mem_append.1 among with first | last
      · exact Or.inr (filled member first path part inside hollow)
      · obtain rfl := List.mem_singleton.1 last
        exact Or.inl (List.prefix_append [.member "_meta"] path)

end Server

namespace Seed

variable {includeRemote : Bool} {catalog : Catalog}

/-- A seed is empty exactly if all entries are hosted by somebody else and not asked for. -/
theorem build_eq_nil_iff :
    build includeRemote catalog = [] ↔
      ∀ key entry, (key, entry) ∈ catalog.registry.entries →
        includeRemote = false ∧ entry.isRemote = true := by
  simp [build, List.map_eq_nil_iff, List.filter_eq_nil_iff]

/-- In a tree of descriptors nothing is hollow outside of what publishers provide, apart from texts
that a descriptor has even if they are empty. -/
def Dense (json : Json) : Prop :=
  ∀ path part, json.At path part → part.Hollow →
    [.item, .member "_meta"] <+: path ∨
      part = .string "" ∧ path ∈ Server.blankTexts.map (.item :: ·)

theorem toJson_dense (full : build includeRemote catalog ≠ []) :
    Dense (toJson (build includeRemote catalog)) := by
  intro path part inside hollow
  cases inside with
  | here => exact absurd (List.map_eq_nil_iff.1 hollow) full
  | item among inside =>
      obtain ⟨server, built, rfl⟩ := List.mem_map.1 among
      obtain ⟨⟨key, entry⟩, _, rfl⟩ := List.mem_map.1 built
      rcases Server.ofEntry_hollow inside hollow with provided | ⟨blank, place⟩
      · exact Or.inl ((List.prefix_cons_inj _).2 provided)
      · exact Or.inr ⟨blank, List.mem_map_of_mem place⟩

theorem not_dense_nil : ¬ Dense (.array []) := by
  intro dense
  rcases dense [] (.array []) (.here _) rfl with provided | ⟨blank, _⟩
  · exact absurd provided (by simp)
  · contradiction

/-- The tree that the text of a seed spells is an array of descriptors that have the members they
need, and one transport each. The array is empty exactly if no entry is taken over. Otherwise there
is nothing hollow in the tree outside of what publishers provide, apart from texts that a descriptor
has even if they are empty. -/
theorem encode_build_shape (includeRemote : Bool) (catalog : Catalog) :
    ∃ items : List Json,
      (∀ tree : ParseTree, tree.SpellsDocument
        (Utf8.encode (encode (build includeRemote catalog))) ↔ tree = (Json.array items).tree) ∧
      (∀ item ∈ items, ∃ members, item = .object members ∧ Server.Shape members) ∧
      (items = [] ↔ ∀ key entry, (key, entry) ∈ catalog.registry.entries →
        includeRemote = false ∧ entry.isRemote = true) ∧
      (items ≠ [] → Dense (.array items)) := by
  refine ⟨(build includeRemote catalog).map Server.toJson, fun _ => spells_encode, ?_, ?_, ?_⟩
  · simp only [build, List.forall_mem_map]
    exact fun entry _ => Server.ofEntry_shape entry.1 entry.2
  · rw [List.map_eq_nil_iff, build_eq_nil_iff]
  · intro full
    exact toJson_dense fun empty => full (List.map_eq_nil_iff.2 empty)

/-- An entry that has nothing, and one that is hosted and has nothing. -/
theorem encode_build_shape_plain :
    let hosted := { Entry.ofMembers [] with
      type := remoteType
      remote := some ⟨"", "", KeyMap.empty.insert "" ""⟩ }
    let catalog : Catalog :=
      ⟨"", "", (KeyMap.empty.insert "h" hosted).insert "k" (Entry.ofMembers [])⟩
    ∃ items : List Json,
      (∀ tree : ParseTree, tree.SpellsDocument
        (Utf8.encode (encode (build true catalog))) ↔ tree = (Json.array items).tree) ∧
      items ≠ [] ∧ (∀ item ∈ items, ∃ members, item = .object members ∧ Server.Shape members) ∧
      Dense (.array items) := by
  intro hosted catalog
  obtain ⟨items, spells, shaped, vacant, dense⟩ := encode_build_shape true catalog
  have full : items ≠ [] := by
    intro empty
    have taken : ("h", hosted) ∈ catalog.registry.entries := List.mem_cons_self
    exact Bool.noConfusion (vacant.1 empty "h" hosted taken).1
  exact ⟨items, spells, full, shaped, dense full⟩

/-- Two catalogs whose seeds spell an empty array, which is hollow itself: one without entries, and
one whose only entry is hosted and not asked for. -/
theorem encode_build_vacant :
    (∃ catalog, Catalog.decode (Utf8.encode "{}") = .ok catalog ∧
        ∀ (includeRemote : Bool) (tree : ParseTree), tree.SpellsDocument
          (Utf8.encode (encode (build includeRemote catalog))) ↔ tree = (Json.array []).tree) ∧
      (∃ catalog, Catalog.decode (Utf8.encode
          "\x7b\"registry\":\x7b\"k\":\x7b\"type\":\"remote\"\x7d\x7d\x7d") = .ok catalog ∧
        ∀ tree : ParseTree, tree.SpellsDocument
          (Utf8.encode (encode (build false catalog))) ↔ tree = (Json.array []).tree) ∧
      ¬ Dense (.array []) := by
  have spelled {servers : List Server} (empty : servers = []) (tree : ParseTree) :
      tree.SpellsDocument (Utf8.encode (encode servers)) ↔ tree = (Json.array []).tree :=
    empty ▸ spells_encode
  have without : (Catalog.decode (Utf8.encode "{}")).toOption.any (fun catalog =>
      decide (∀ includeRemote, build includeRemote catalog = [])) = true := by decide +kernel
  have hosted : (Catalog.decode (Utf8.encode
      "\x7b\"registry\":\x7b\"k\":\x7b\"type\":\"remote\"\x7d\x7d\x7d")).toOption.any
        (fun catalog => decide (build false catalog = [])) = true := by decide +kernel
  obtain ⟨first, read, empty⟩ := Catalog.exists_of_any_decode without
  obtain ⟨second, taken, unasked⟩ := Catalog.exists_of_any_decode hosted
  exact ⟨⟨first, read, fun includeRemote => spelled (empty includeRemote)⟩,
    ⟨second, taken, spelled unasked⟩, not_dense_nil⟩

end Seed

end CatalogSeed
