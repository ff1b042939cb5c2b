import CatalogSeed.Proofs.Secrets

/-!
What the package of a container holds of its entry. Every variable of the environment, every token
of the command line and every volume of the entry stands in it once, in the order of the entry; and
command lines whose braces stand single are told by the arguments of the package.
-/

namespace CatalogSeed

/-- What a template becomes: its canonical value, and variables for the names of its placeholders
and no others. -/
structure Template.Becomes (raw value : String) (vars : Variables) : Prop where
  value : value = (parse raw).canonical
  names : ∀ name, name ∈ vars.keys ↔
    ∃ placeholder ∈ (parse raw).placeholders, placeholder.name = name

theorem Template.becomes (raw : String) (index : ConfigIndex) :
    Becomes raw (parse raw).canonical ((parse raw).vars index) :=
  ⟨rfl, fun _ => mem_keys_vars.trans List.mem_map⟩

structure NamedValue.Keeps (env : EnvVar) (named : NamedValue) : Prop where
  name : named.name = env.name
  template : Template.Becomes env.value named.value named.vars

theorem NamedValue.ofEnv_keeps (index : ConfigIndex) (env : EnvVar) : (ofEnv index env).Keeps env :=
  ⟨rfl, Template.becomes env.value index⟩

namespace Argument

/-- A flag of the container runtime and what it is set to. -/
structure Sets (flag raw : String) (argument : Argument) : Prop where
  type : argument.type = .named
  name : argument.name = flag
  template : Template.Becomes raw argument.value argument.vars

theorem templated_sets (index : ConfigIndex) (flag raw : String) :
    (templated index flag raw).Sets flag raw :=
  ⟨rfl, rfl, Template.becomes raw index⟩

/-- What an argument keeps of a token. Only a value behind the first equals sign is a template. -/
structure Keeps (token : String) (argument : Argument) : Prop where
  positional : argument.type = .positional ∧ argument.value = token ↔
    ¬['-', '-'] <+: token.toList
  verbatim : argument.type = .positional → argument.name = "" ∧ argument.vars = .empty
  flag : ['-', '-'] <+: token.toList → argument.type = .named ∧ '=' ∉ argument.name.toList ∧
    (argument.name = token ∧ argument.value = "" ∧ argument.vars = .empty ∨
      ∃ value, token = argument.name ++ "=" ++ value ∧
        Template.Becomes value argument.value argument.vars)

theorem ofToken_keeps (index : ConfigIndex) (token : String) :
    (ofToken index token).Keeps token := by
  cases Form.of token with
  | text undashed =>
      rw [ofToken_of_text index undashed]
      exact ⟨iff_of_true ⟨rfl, rfl⟩ undashed, fun _ => ⟨rfl, rfl⟩, fun dashed => absurd dashed undashed⟩
  | flag flag =>
      rw [ofToken_of_flag index flag]
      exact ⟨iff_of_false nofun (not_not.2 flag.dashed), nofun,
        fun _ => ⟨rfl, flag.bare, Or.inl ⟨rfl, rfl, rfl⟩⟩⟩
  | @assignment flag left value =>
      rw [ofToken_of_assignment index left]
      exact ⟨iff_of_false nofun (not_not.2 (left.dashed_append value)), nofun,
        fun _ => ⟨rfl, left.bare, Or.inr ⟨value, rfl, Template.becomes value index⟩⟩⟩

end Argument

/-- What the package of a container holds of its entry, and where. -/
structure Package.Holds (entry : Entry) (package : Package) : Prop where
  identifier : package.identifier = entry.image
  environmentLength :
    package.environmentVariables.length = entry.env.length + entry.secrets.length
  argumentsLength : package.packageArguments.length = entry.command.length
  runtimeLength : package.runtimeArguments.length =
    entry.volumes.length + if entry.user = none ∨ entry.user = some "" then 0 else 1
  environment : ∀ (i : Nat) env, entry.env[i]? = some env →
    ∃ named : NamedValue, package.environmentVariables[i]? = some named ∧ named.Keeps env
  arguments : ∀ (i : Nat) token, entry.command[i]? = some token →
    ∃ argument : Argument, package.packageArguments[i]? = some argument ∧ argument.Keeps token
  volumes : ∀ (i : Nat) volume, entry.volumes[i]? = some volume →
    ∃ argument : Argument, package.runtimeArguments[i]? = some argument ∧ argument.Sets "-v" volume
  user : ∀ user, entry.user = some user → user ≠ "" →
    ∃ argument : Argument, package.runtimeArguments.getLast? = some argument ∧ argument.Sets "-u" user
  hint : package.runtimeHint = some "docker" ↔ package.runtimeArguments ≠ []
  noHint : package.runtimeHint = none ↔ package.runtimeArguments = []

theorem getElem?_map_append {α β : Type} {items : List α} {i : Nat} {item : α}
    (among : items[i]? = some item) (change : α → β) (behind : List β) :
    (items.map change ++ behind)[i]? = some (change item) := by
  obtain ⟨within, rfl⟩ := List.getElem?_eq_some_iff.1 among
  rw [List.getElem?_append_left (by simpa using within), List.getElem?_map, among, Option.map_some]

theorem Entry.user?_of_filled {entry : Entry} {user : String} (given : entry.user = some user)
    (filled : user ≠ "") : entry.user? = some user := by
  rw [Entry.user?, given, Option.filter_some, if_pos (by simpa using filled)]

theorem Entry.length_user? (entry : Entry) :
    entry.user?.toList.length = if entry.user = none ∨ entry.user = some "" then 0 else 1 := by
  unfold Entry.user?
  cases entry.user with
  | none => rfl
  | some user =>
      by_cases filled : user = ""
      · simp [filled]
      · simp [filled]

theorem Package.ofEntry_holds (entry : Entry) : (ofEntry entry).Holds entry where
  identifier := rfl
  environmentLength := by simp [ofEntry]
  argumentsLength := by simp [ofEntry]
  runtimeLength := by
    rw [← entry.length_user?]
    simp [ofEntry]
  environment i env among :=
    ⟨_, getElem?_map_append among _ _, NamedValue.ofEnv_keeps _ env⟩
  arguments i token among := by
    refine ⟨_, ?_, Argument.ofToken_keeps (.build entry.config) token⟩
    rw [ofEntry, List.getElem?_map, among, Option.map_some]
  volumes i volume among :=
    ⟨_, getElem?_map_append among _ _, Argument.templated_sets _ _ volume⟩
  user user given filled := by
    refine ⟨_, ?_, Argument.templated_sets (.build entry.config) _ user⟩
    simp [ofEntry, Entry.user?_of_filled given filled, Argument.userFlag]
  hint := by
    simp [ofEntry, dockerHint]
  noHint := by
    simp [ofEntry]

namespace Server

/-- An entry that is not hosted by somebody else has one package, and nothing of the entry is lost,
repeated or put in another place. -/
theorem ofEntry_package {entry : Entry}
    (contained : entry.isRemote = false ∨ entry.remote = none) (key : String) :
    ∃ package, (ofEntry key entry).packages = [package] ∧ package.Holds entry :=
  ⟨.ofEntry entry, (ofEntry_contained contained key).1, Package.ofEntry_holds entry⟩

/-- An entry without the description of a host, with a flag of hyphens alone, an equals sign behind
another one and an empty user. -/
theorem ofEntry_package_unhosted :
    let entry := { Entry.ofMembers [] with
      type := remoteType
      image := "mcp/x:1"
      env := [⟨"PATHS", "{{a|b}}:{{a}}"⟩]
      secrets := [⟨"s", "TOKEN", ""⟩]
      command := ["serve", "--", "--dir={{d}}=1", "{{p}}"]
      volumes := ["{{v}}:/v"]
      user := some "" }
    (entry.isRemote = true ∧ entry.remote = none) ∧
      ∃ package, (ofEntry "k" entry).packages = [package] ∧ package.Holds entry ∧
        package.environmentVariables.length = 2 ∧ package.packageArguments.length = 4 ∧
        package.runtimeArguments.length = 1 ∧ package.runtimeHint = some "docker" := by
  intro entry
  obtain ⟨package, packages, holds⟩ := @ofEntry_package entry (Or.inr rfl) "k"
  have runtime : package.runtimeArguments.length = 1 := holds.runtimeLength
  refine ⟨⟨by decide, rfl⟩, package, packages, holds, holds.environmentLength,
    holds.argumentsLength, runtime, holds.hint.2 ?_⟩
  exact List.ne_nil_of_length_eq_add_one runtime

/-! Command lines. -/

/-- Two containers whose tokens have no doubled brace have the same arguments exactly if their
command lines are the same token by token, but for an equals sign behind a flag with no value. -/
theorem ofEntry_packageArguments_eq_iff {entry other : Entry}
    (contained : entry.isRemote = false ∨ entry.remote = none)
    (containedToo : other.isRemote = false ∨ other.remote = none)
    (single : ∀ token ∈ entry.command, Template.Single token)
    (singleToo : ∀ token ∈ other.command, Template.Single token) (key : String) :
    (ofEntry key entry).packages.map Package.packageArguments =
        (ofEntry key other).packages.map Package.packageArguments ↔
      List.Forall₂ Argument.SameToken entry.command other.command := by
  rw [(ofEntry_contained contained key).1, (ofEntry_contained containedToo key).1, List.map_singleton,
    List.map_singleton, List.singleton_inj]
  exact Argument.map_ofToken_eq_iff _ _ single singleToo

/-- Two command lines that differ behind their flags, one of them with another text too. -/
theorem ofEntry_packageArguments_eq_iff_port :
    let entry := { Entry.ofMembers [] with command := ["serve", "--port", "--"] }
    let other := { entry with command := ["serve", "--port=", "--"] }
    let third := { entry with command := ["serve", "--port= ", "--"] }
    (∀ token ∈ entry.command ++ other.command ++ third.command, Template.Single token) ∧
      (ofEntry "k" entry).packages.map Package.packageArguments =
        (ofEntry "k" other).packages.map Package.packageArguments ∧
      (ofEntry "k" entry).packages.map Package.packageArguments ≠
        (ofEntry "k" third).packages.map Package.packageArguments := by
  intro entry other third
  have single : ∀ token ∈ entry.command ++ other.command ++ third.command,
      Template.Single token := by decide +kernel
  have parts := List.forall_mem_append.1 single
  have first := List.forall_mem_append.1 parts.1
  refine ⟨single, ?_, ?_⟩
  · rw [ofEntry_packageArguments_eq_iff (Or.inl rfl) (Or.inl rfl) first.1 first.2]
    decide +kernel
  · rw [Ne, ofEntry_packageArguments_eq_iff (Or.inl rfl) (Or.inl rfl) first.1 parts.2]
    decide +kernel

/-- A flag alone and the same flag with an empty value are different command lines with the same
arguments. -/
theorem ofEntry_packageArguments_shared :
    let entry := { Entry.ofMembers [] with command := ["--port"] }
    let other := { entry with command := ["--port="] }
    (∀ token ∈ entry.command ++ other.command, Template.Single token) ∧
      (ofEntry "k" entry).packages.map Package.packageArguments =
        (ofEntry "k" other).packages.map Package.packageArguments ∧
      (ofEntry "k" entry).packages.map Package.packageArguments =
        [[.named "--port" "" .empty]] ∧
      entry.command ≠ other.command := by
  intro entry other
  have flag : Argument.IsFlag "--port" := by decide
  have alone : (ofEntry "k" entry).packages.map Package.packageArguments =
      [[.named "--port" "" .empty]] := by
    rw [(ofEntry_contained (Or.inl rfl) "k").1]
    exact congrArg (fun argument => [[argument]]) (Argument.ofToken_of_flag _ flag)
  have assigned : (ofEntry "k" other).packages.map Package.packageArguments =
      [[.named "--port" "" .empty]] := by
    rw [(ofEntry_contained (Or.inl rfl) "k").1]
    exact congrArg (fun argument => [[argument]]) (Argument.ofToken_of_equals _ flag)
  exact ⟨by decide +kernel, alone.trans assigned.symm, alone, by decide⟩

end Server

end CatalogSeed
