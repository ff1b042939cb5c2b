import CatalogSeed.Proofs.Secrets

/-!
Configuration is seen in descriptions only. Whatever the blocks of an entry are, its descriptor has
the same values and asks for the same variables, and those for secrets are not even described.
-/

namespace CatalogSeed

/-! Descriptors with the descriptions of their variables left out. -/

def VariableSchema.undescribed (schema : VariableSchema) : VariableSchema :=
  { schema with description := none }

def Variables.undescribed (vars : Variables) : Variables :=
  vars.mapValues fun _ => VariableSchema.undescribed

def NamedValue.undescribed (named : NamedValue) : NamedValue :=
  { named with vars := named.vars.undescribed }

def Argument.undescribed (argument : Argument) : Argument :=
  { argument with vars := argument.vars.undescribed }

def Transport.undescribed (transport : Transport) : Transport :=
  { transport with headers := transport.headers.map NamedValue.undescribed }

def Package.undescribed (package : Package) : Package :=
  { package with
    transport := package.transport.undescribed
    environmentVariables := package.environmentVariables.map NamedValue.undescribed
    packageArguments := package.packageArguments.map Argument.undescribed
    runtimeArguments := package.runtimeArguments.map Argument.undescribed }

def Server.undescribed (server : Server) : Server :=
  { server with
    packages := server.packages.map Package.undescribed
    remotes := server.remotes.map Transport.undescribed }

/-! Two indexes, one text. -/

theorem Variables.keys_undescribed (vars : Variables) : vars.undescribed.keys = vars.keys :=
  KeyMap.keys_mapValues _ vars

section

variable (index other : ConfigIndex)

theorem Template.vars_undescribed (template : Template) :
    (template.vars index).undescribed = (template.vars other).undescribed := by
  refine KeyMap.ext_get? fun name => ?_
  rw [Variables.undescribed, Variables.undescribed, KeyMap.get?_mapValues, KeyMap.get?_mapValues,
    get?_vars, get?_vars]
  split
  next => rfl
  next => rfl

theorem NamedValue.ofEnv_undescribed (env : EnvVar) :
    (ofEnv index env).undescribed = (ofEnv other env).undescribed :=
  congrArg (new env.name _) (Template.vars_undescribed index other _)

theorem Argument.templated_undescribed (flag raw : String) :
    (templated index flag raw).undescribed = (templated other flag raw).undescribed :=
  congrArg (named flag _) (Template.vars_undescribed index other _)

theorem Argument.ofToken_undescribed (token : String) :
    (ofToken index token).undescribed = (ofToken other token).undescribed := by
  cases Form.of token with
  | text undashed => rw [ofToken_of_text index undashed, ofToken_of_text other undashed]
  | flag flag => rw [ofToken_of_flag index flag, ofToken_of_flag other flag]
  | assignment left value =>
      rw [ofToken_of_assignment index left, ofToken_of_assignment other left]
      exact templated_undescribed index other _ value

end

/-! One entry with other blocks. -/

theorem map_map_congr {α β γ : Type} {left right : α → β} {change : β → γ}
    (same : ∀ item, change (left item) = change (right item)) (items : List α) :
    (items.map left).map change = (items.map right).map change := by
  rw [List.map_map, List.map_map]
  exact List.map_congr_left fun item _ => same item

theorem Package.ofEntry_undescribed (entry : Entry) (blocks : List ConfigBlock) :
    (ofEntry { entry with config := blocks }).undescribed = (ofEntry entry).undescribed := by
  have environment := map_map_congr
    (NamedValue.ofEnv_undescribed (.build blocks) (.build entry.config)) entry.env
  have arguments := map_map_congr
    (Argument.ofToken_undescribed (.build blocks) (.build entry.config)) entry.command
  have runtime (flag : String) := map_map_congr
    (Argument.templated_undescribed (.build blocks) (.build entry.config) flag)
  have user : Entry.user? { entry with config := blocks } = entry.user? := rfl
  -- The hint depends on whether there are arguments only, and blocks do not add any.
  have hint : (ofEntry { entry with config := blocks }).runtimeHint = (ofEntry entry).runtimeHint := by
    simp [ofEntry, user]
  simp only [undescribed, ofEntry, List.map_append, environment, arguments, runtime, user,
    Package.mk.injEq, true_and]
  exact hint

/-- Behind the values of the entry stand its secrets, with nothing looked up for them. -/
theorem Package.drop_environmentVariables (entry : Entry) :
    (ofEntry entry).environmentVariables.drop entry.env.length =
      entry.secrets.map NamedValue.ofSecret :=
  List.drop_left' (List.length_map _)

namespace Server

variable {key : String} {entry : Entry}

theorem eq_of_mem_packages {package : Package} (among : package ∈ (ofEntry key entry).packages) :
    package = .ofEntry entry := by
  unfold ofEntry at among
  split at among
  next => contradiction
  next => exact List.mem_singleton.1 among

/-- Other blocks make another package, and change nothing beside it. -/
theorem ofEntry_config (key : String) (entry : Entry) (blocks : List ConfigBlock) :
    ofEntry key { entry with config := blocks } = { ofEntry key entry with
      packages := (ofEntry key entry).packages.map fun _ =>
        .ofEntry { entry with config := blocks } } := by
  have hosted : Entry.isRemote { entry with config := blocks } = entry.isRemote := rfl
  simp only [ofEntry, hosted]
  split
  next => rfl
  next => rfl

theorem ofEntry_undescribed (key : String) (entry : Entry) (blocks : List ConfigBlock) :
    (ofEntry key { entry with config := blocks }).undescribed =
      (ofEntry key entry).undescribed := by
  have packages : ((ofEntry key entry).packages.map fun _ =>
        Package.ofEntry { entry with config := blocks }).map Package.undescribed =
      (ofEntry key entry).packages.map Package.undescribed := by
    rw [List.map_map]
    refine List.map_congr_left fun package among => ?_
    rw [eq_of_mem_packages among]
    exact Package.ofEntry_undescribed entry blocks
  rw [ofEntry_config]
  simp only [undescribed, packages]

theorem map_drop_environmentVariables (key : String) (entry : Entry) (blocks : List ConfigBlock) :
    (ofEntry key { entry with config := blocks }).packages.map
        (fun package => package.environmentVariables.drop entry.env.length) =
      (ofEntry key entry).packages.map
        fun package => package.environmentVariables.drop entry.env.length := by
  rw [ofEntry_config, List.map_map]
  refine List.map_congr_left fun package among => ?_
  rw [eq_of_mem_packages among, Package.drop_environmentVariables entry]
  exact Package.drop_environmentVariables { entry with config := blocks }

/-- A template has one canonical value, and one set of variables up to their descriptions, whatever
the index; and entries that differ in their configuration only have one descriptor up to the
descriptions of variables, those that take secrets being the same in full. -/
theorem ofEntry_reconfigured :
    (∀ (raw : String) (index other : ConfigIndex),
      (∀ flag, (Argument.templated index flag raw).value = (Template.parse raw).canonical ∧
        (Argument.templated other flag raw).value = (Template.parse raw).canonical) ∧
      ((Template.parse raw).vars index).keys = ((Template.parse raw).vars other).keys ∧
      ((Template.parse raw).vars index).undescribed =
        ((Template.parse raw).vars other).undescribed) ∧
    ∀ (key : String) (entry : Entry) (blocks : List ConfigBlock),
      (ofEntry key { entry with config := blocks }).undescribed =
        (ofEntry key entry).undescribed ∧
      (ofEntry key { entry with config := blocks }).packages.map
          (fun package => package.environmentVariables.drop entry.env.length) =
        (ofEntry key entry).packages.map
          (fun package => package.environmentVariables.drop entry.env.length) ∧
      ∀ package ∈ (ofEntry key entry).packages, List.Forall₂ NamedValue.TakesSecret entry.secrets
        (package.environmentVariables.drop entry.env.length) := by
  refine ⟨fun raw index other => ⟨fun flag => ⟨rfl, rfl⟩, ?_, ?_⟩, fun key entry blocks =>
    ⟨ofEntry_undescribed key entry blocks, map_drop_environmentVariables key entry blocks, ?_⟩⟩
  · rw [← Variables.keys_undescribed, Template.vars_undescribed index other,
      Variables.keys_undescribed]
  · exact Template.vars_undescribed index other _
  · intro package among
    rw [eq_of_mem_packages among, Package.drop_environmentVariables, List.forall₂_map_right_iff,
      List.forall₂_same]
    exact fun secret _ => NamedValue.ofSecret_takesSecret secret

/-- An entry whose secret has the name of a placeholder, which other blocks describe. The descriptors
do differ. -/
theorem ofEntry_reconfigured_described :
    let entry := { Entry.ofMembers [] with
      env := [⟨"PLAIN", "{{a.b}}"⟩]
      secrets := [⟨"a.b", "TOKEN", ""⟩] }
    let blocks : List ConfigBlock :=
      [⟨"a", "", "", [("b", .object [("description", .string "d")])], []⟩]
    Package.ofEntry entry ∈ (ofEntry "k" entry).packages ∧
      (ofEntry "k" { entry with config := blocks }).undescribed = (ofEntry "k" entry).undescribed ∧
      ofEntry "k" { entry with config := blocks } ≠ ofEntry "k" entry ∧
      List.Forall₂ NamedValue.TakesSecret entry.secrets
        ((Package.ofEntry entry).environmentVariables.drop 1) := by
  intro entry blocks
  have among : Package.ofEntry entry ∈ (ofEntry "k" entry).packages := by
    rw [(ofEntry_contained (Or.inl rfl) "k").1]
    exact List.mem_singleton_self _
  obtain ⟨same, _, secret⟩ := ofEntry_reconfigured.2 "k" entry blocks
  refine ⟨among, same, fun equal => ?_, secret _ among⟩
  have described := congrArg (fun server => server.packages.map fun package =>
    package.environmentVariables.map fun named =>
      named.vars.entries.map fun (_, schema) => schema.description) equal
  revert described
  decide +kernel

end Server

end CatalogSeed
