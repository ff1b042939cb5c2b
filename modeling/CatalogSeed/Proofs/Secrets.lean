import Mathlib.Data.List.Forall2
import CatalogSeed.Proofs.Variables

/-!
Which variables of a descriptor ask for a secret: those made for the secrets of the entry, and no
others, whatever their names.
-/

namespace CatalogSeed

theorem ConfigIndex.description?_eq_some {index : ConfigIndex} {key text : String} :
    index.description? key = some text ↔ text ≠ "" ∧
      ∃ schema, index.get? key = some schema ∧
        schema.get? "description" = some (.string text) := by
  have asString (value : Json) : value.asString? = some text ↔ value = .string text := by
    cases value <;> simp [Json.asString?]
  unfold description?
  cases index.get? key with
  | none => simp
  | some schema =>
      simp only [Option.bind_eq_bind, Option.bind_some, Option.some.injEq, exists_eq_left']
      constructor
      · intro described
        obtain ⟨other, found, kept⟩ := Option.bind_eq_some_iff.1 described
        obtain ⟨value, given, string⟩ := Option.bind_eq_some_iff.1 found
        split at kept
        next => contradiction
        next filled =>
          have same : other = text := Option.some.inj kept
          subst same
          cases value with
          | string written =>
              have spelled : written = other := Option.some.inj string
              exact ⟨filled, spelled ▸ given⟩
          | _ => contradiction
      · rintro ⟨filled, given⟩
        simp [given, Json.asString?, filled]

/-- Nothing is asked of a variable but a text, and it is described as the index has it. -/
structure VariableSchema.Open (index : ConfigIndex) (name : String) (schema : VariableSchema) :
    Prop where
  shown : schema.isSecret = false
  optional : schema.isRequired = false
  format : schema.format = some "string"
  described : ∀ text, schema.description = some text ↔ text ≠ "" ∧
    ∃ property, index.get? name = some property ∧
      property.get? "description" = some (.string text)

def Variables.Open (index : ConfigIndex) (vars : Variables) : Prop :=
  ∀ name schema, vars.get? name = some schema → schema.Open index name

theorem Variables.open_empty (index : ConfigIndex) : Variables.Open index .empty := nofun

theorem Template.vars_open (template : Template) (index : ConfigIndex) :
    (template.vars index).Open index := by
  intro name schema declared
  obtain ⟨_, rfl⟩ := get?_vars_eq_some.1 declared
  exact ⟨rfl, rfl, rfl, fun text => ConfigIndex.description?_eq_some⟩

theorem Argument.ofToken_open (index : ConfigIndex) (token : String) :
    (ofToken index token).vars.Open index := by
  cases Form.of token with
  | text undashed => exact ofToken_of_text index undashed ▸ Variables.open_empty index
  | flag flag => exact ofToken_of_flag index flag ▸ Variables.open_empty index
  | assignment left value =>
      rw [ofToken_of_assignment index left]
      exact Template.vars_open _ index

/-- The variables that are declared anywhere in a descriptor. -/
def Server.declared (server : Server) : List Variables :=
  (server.packages.flatMap fun package =>
    package.environmentVariables.map NamedValue.vars ++
      package.packageArguments.map Argument.vars ++
      package.runtimeArguments.map Argument.vars ++
      package.transport.headers.map NamedValue.vars) ++
  server.remotes.flatMap fun transport => transport.headers.map NamedValue.vars

/-- A variable of the environment that takes a secret and nothing else. -/
structure NamedValue.TakesSecret (secret : Secret) (named : NamedValue) : Prop where
  name : named.name = secret.env
  value : named.value = "\x7b" ++ secret.name ++ "\x7d"
  vars : named.vars.entries = [(secret.name,
    { isSecret := true, isRequired := true, format := none, description := none })]

theorem NamedValue.ofSecret_takesSecret (secret : Secret) : (ofSecret secret).TakesSecret secret where
  name := rfl
  value := by
    refine String.toList_injective ?_
    simp [ofSecret, new, Template.token]
  vars := rfl

/-- A variable of the environment with the value of an entry, its template filled in by names. -/
structure NamedValue.Holds (index : ConfigIndex) (env : EnvVar) (named : NamedValue) : Prop where
  name : named.name = env.name
  value : named.value = (Template.parse env.value).canonical
  vars : named.vars = (Template.parse env.value).vars index

namespace Server

theorem ofEntry_of_contained {entry : Entry}
    (contained : entry.isRemote = false ∨ entry.remote = none) (key : String) :
    ofEntry key entry = { new (nameOf key) (truncate entry.description) with
      attributes := [(publisherKey, .object (publisherBag entry))]
      packages := [.ofEntry entry]
      repository := entry.upstream?.map .ofUrl } := by
  unfold ofEntry
  split
  next remote hosted reached =>
    rcases contained with own | unreached
    · rw [own] at hosted
      contradiction
    · rw [unreached] at reached
      contradiction
  next => rfl

theorem ofEntry_contained {entry : Entry} (contained : entry.isRemote = false ∨ entry.remote = none)
    (key : String) :
    (ofEntry key entry).packages = [.ofEntry entry] ∧ (ofEntry key entry).remotes = [] := by
  rw [ofEntry_of_contained contained]
  exact ⟨rfl, rfl⟩

/-- The variables of a container are the values of its entry and then one for each secret, in order.
Only those for secrets are secret and required; all others that are declared in the descriptor are
neither, and are described just as the configuration has it for their own name. -/
theorem ofEntry_secrets {entry : Entry}
    (contained : entry.isRemote = false ∨ entry.remote = none) (key : String) :
    ∃ package plain hidden,
      (ofEntry key entry).packages = [package] ∧
      package.environmentVariables = plain ++ hidden ∧
      List.Forall₂ (NamedValue.Holds (.build entry.config)) entry.env plain ∧
      List.Forall₂ NamedValue.TakesSecret entry.secrets hidden ∧
      ∀ vars ∈ declared { ofEntry key entry with
          packages := [{ package with environmentVariables := plain }] },
        vars.Open (.build entry.config) := by
  let index := ConfigIndex.build entry.config
  obtain ⟨packages, remotes⟩ := ofEntry_contained contained key
  refine ⟨.ofEntry entry, entry.env.map (.ofEnv index), entry.secrets.map .ofSecret, packages, rfl,
    ?_, ?_, ?_⟩
  · refine List.forall₂_map_right_iff.2 (List.forall₂_same.2 ?_)
    intro env _
    exact ⟨rfl, rfl, rfl⟩
  · refine List.forall₂_map_right_iff.2 (List.forall₂_same.2 ?_)
    intro secret _
    exact NamedValue.ofSecret_takesSecret secret
  · intro vars member
    simp only [declared, remotes, List.flatMap_cons, List.flatMap_nil, List.append_nil,
      List.mem_append, List.mem_map, Package.ofEntry] at member
    rcases member with ((⟨named, held, rfl⟩ | ⟨argument, held, rfl⟩) | ⟨argument, held, rfl⟩) |
      ⟨header, held, _⟩
    · obtain ⟨env, _, rfl⟩ := held
      exact Template.vars_open _ index
    · obtain ⟨token, _, rfl⟩ := held
      exact Argument.ofToken_open index token
    · rcases held with ⟨volume, _, rfl⟩ | ⟨user, _, rfl⟩
      · exact Template.vars_open _ index
      · exact Template.vars_open _ index
    · contradiction

/-- An entry whose secret has the name of a placeholder and of a property that is described. -/
theorem ofEntry_secrets_shared :
    let entry := { Entry.ofMembers [] with
      type := remoteType
      env := [⟨"PLAIN", "{{a.b}}"⟩]
      secrets := [⟨"a.b", "TOKEN", ""⟩, ⟨"", "EMPTY", ""⟩]
      command := ["--key={{a.b}}"]
      user := some "{{a.c}}"
      config := [⟨"a", "", "", [("b", .object [("description", .string "d")])], []⟩] }
    ∃ package plain hidden,
      (ofEntry "k" entry).packages = [package] ∧
      package.environmentVariables = plain :: hidden ∧
      plain.name = "PLAIN" ∧
      plain.vars.get? "a.b" = some ⟨false, false, some "string", some "d"⟩ ∧
      List.Forall₂ NamedValue.TakesSecret entry.secrets hidden := by
  intro entry
  obtain ⟨package, _, hidden, packages, parts, each, taken, others⟩ :=
    @ofEntry_secrets entry (Or.inr rfl) "k"
  obtain ⟨plain, _, held, nothing, rfl⟩ := List.forall₂_cons_left_iff.1 each
  obtain rfl := List.forall₂_nil_left_iff.1 nothing
  refine ⟨package, plain, hidden, packages, parts, held.name, ?_, taken⟩
  have declared : plain.vars ∈ declared { ofEntry "k" entry with
      packages := [{ package with environmentVariables := [plain] }] } := by
    simp [Server.declared]
  have given : (plain.vars.get? "a.b").isSome = true := by
    rw [held.vars]
    decide +kernel
  obtain ⟨schema, given⟩ := Option.isSome_iff_exists.1 given
  obtain ⟨shown, optional, format, described⟩ := others plain.vars declared "a.b" schema given
  have description : schema.description = some "d" :=
    (described "d").2 ⟨by decide, [("description", .string "d")], rfl, rfl⟩
  cases schema
  simp only at shown optional format description
  rw [given, shown, optional, format, description]

end Server

end CatalogSeed
