import CatalogSeed.Proofs.CommandLine
import CatalogSeed.Seed

/-!
Variables of descriptors. A name that is declared beside a value stands in that value, in single
braces; where nothing can be filled in, nothing is declared.
-/

namespace CatalogSeed

/-- Every name that is declared stands in the value as a token. -/
def Variables.StandIn (vars : Variables) (value : String) : Prop :=
  ∀ name ∈ vars.keys, '{' :: (name.toList ++ ['}']) <:+: value.toList

theorem Variables.standIn_empty (value : String) : Variables.StandIn .empty value := by
  intro name found
  simp [KeyMap.keys, KeyMap.empty] at found

theorem Template.vars_standIn (template : Template) (index : ConfigIndex) :
    (template.vars index).StandIn template.canonical := by
  intro name found
  exact token_infix_of_mem (mem_keys_vars.1 found)

/-- The places of a package where variables are declared, and those where none may be. -/
structure Package.Declares (package : Package) : Prop where
  environment : ∀ named ∈ package.environmentVariables, named.vars.StandIn named.value
  arguments : ∀ argument ∈ package.packageArguments, argument.vars.StandIn argument.value
  runtime : ∀ argument ∈ package.runtimeArguments, argument.vars.StandIn argument.value
  positional : ∀ argument ∈ package.packageArguments ++ package.runtimeArguments,
    argument.type = .positional → argument.vars = .empty

structure Server.Declares (server : Server) : Prop where
  packages : ∀ package ∈ server.packages, package.Declares
  headers : ∀ transport ∈ server.remotes, ∀ header ∈ transport.headers, header.vars = .empty

theorem NamedValue.ofEnv_standIn (index : ConfigIndex) (env : EnvVar) :
    (ofEnv index env).vars.StandIn (ofEnv index env).value :=
  Template.vars_standIn _ index

theorem NamedValue.ofSecret_standIn (secret : Secret) :
    (ofSecret secret).vars.StandIn (ofSecret secret).value := by
  intro name found
  simp only [ofSecret, new, KeyMap.keys, KeyMap.insert, KeyMap.empty, KeyMap.place, List.map_cons,
    List.map_nil, List.mem_singleton] at found
  subst found
  simp [ofSecret, new, Template.token]

theorem Argument.templated_standIn (index : ConfigIndex) (flag raw : String) :
    (templated index flag raw).vars.StandIn (templated index flag raw).value :=
  Template.vars_standIn _ index

namespace Argument

theorem ofToken_standIn (index : ConfigIndex) (token : String) :
    (ofToken index token).vars.StandIn (ofToken index token).value := by
  cases Form.of token with
  | text undashed => exact ofToken_of_text index undashed ▸ Variables.standIn_empty token
  | flag flag => exact ofToken_of_flag index flag ▸ Variables.standIn_empty ""
  | assignment left value =>
      exact ofToken_of_assignment index left value ▸ templated_standIn index _ value

theorem ofToken_positional {index : ConfigIndex} {token : String}
    (positional : (ofToken index token).type = .positional) :
    (ofToken index token).vars = .empty := by
  cases Form.of token with
  | text undashed => rw [ofToken_of_text index undashed, Argument.positional]
  | flag flag =>
      rw [ofToken_of_flag index flag] at positional
      contradiction
  | assignment left value =>
      rw [ofToken_of_assignment index left value] at positional
      contradiction

end Argument

theorem Package.ofEntry_declares (entry : Entry) : (ofEntry entry).Declares where
  environment := by
    intro named member
    simp only [ofEntry, List.mem_append, List.mem_map] at member
    rcases member with ⟨env, _, rfl⟩ | ⟨secret, _, rfl⟩
    · exact NamedValue.ofEnv_standIn _ env
    · exact NamedValue.ofSecret_standIn secret
  arguments := by
    intro argument member
    simp only [ofEntry, List.mem_map] at member
    obtain ⟨token, _, rfl⟩ := member
    exact Argument.ofToken_standIn _ token
  runtime := by
    intro argument member
    simp only [ofEntry, List.mem_append, List.mem_map] at member
    rcases member with ⟨volume, _, rfl⟩ | ⟨user, _, rfl⟩
    · exact Argument.templated_standIn _ _ volume
    · exact Argument.templated_standIn _ _ user
  positional := by
    intro argument member positional
    simp only [ofEntry, List.mem_append, List.mem_map] at member
    rcases member with ⟨token, _, rfl⟩ | ⟨volume, _, rfl⟩ | ⟨user, _, rfl⟩
    · exact Argument.ofToken_positional positional
    · contradiction
    · contradiction

theorem Transport.ofRemote_headers (remote : Remote) :
    ∀ header ∈ (ofRemote remote).headers, header.vars = .empty := by
  intro header member
  simp only [ofRemote, List.mem_map] at member
  obtain ⟨pair, _, rfl⟩ := member
  rfl

theorem Server.ofEntry_declares (key : String) (entry : Entry) : (ofEntry key entry).Declares := by
  unfold ofEntry
  split
  next remote _ _ => exact ⟨by simp [new], by simpa using Transport.ofRemote_headers remote⟩
  next => exact ⟨by simpa using Package.ofEntry_declares entry, by simp [new]⟩

/-- In a seed every declared variable stands in its value, and neither positional arguments nor
headers declare any. -/
theorem Seed.build_declares (includeRemote : Bool) (catalog : Catalog) :
    ∀ server ∈ Seed.build includeRemote catalog, server.Declares := by
  intro server built
  simp only [Seed.build, List.mem_map] at built
  obtain ⟨⟨key, entry⟩, _, rfl⟩ := built
  exact Server.ofEntry_declares key entry

/-- An entry that declares variables on every way there is, two of them beside the value of one of
its own variables, and a hosted entry. -/
theorem Seed.build_declares_files :
    let files := { Entry.ofMembers [] with
      env := [⟨"PATHS", "{{{a|b}}}:{{x y}}"⟩]
      secrets := [⟨"{ }", "TOKEN", ""⟩]
      command := ["serve", "{{a}}", "--dir={{}}", "--quiet"]
      volumes := ["{{x y}}:/data"]
      user := some "{{u}}:{{u}}" }
    let hosted := { Entry.ofMembers [] with
      type := "remote"
      remote := some ⟨"sse", "", KeyMap.empty.insert "Authorization" "Bearer {{a}}"⟩ }
    let catalog : Catalog := ⟨"", "", (KeyMap.empty.insert "files" files).insert "hosted" hosted⟩
    (Server.ofEntry "files" files ∈ Seed.build true catalog ∧
      (Server.ofEntry "files" files).Declares ∧
      ∃ package ∈ (Server.ofEntry "files" files).packages,
        ∃ named ∈ package.environmentVariables, named.value = "{{a}}:{x y}" ∧
          named.vars.keys = ["x y", "\x7ba"] ∧ named.vars.StandIn named.value) ∧
    (Server.ofEntry "hosted" hosted ∈ Seed.build true catalog ∧
      (Server.ofEntry "hosted" hosted).Declares) := by
  intro files hosted catalog
  have entries : catalog.registry.entries = [("files", files), ("hosted", hosted)] := rfl
  have first : Server.ofEntry "files" files ∈ Seed.build true catalog := by
    simp [Seed.build, entries]
  have second : Server.ofEntry "hosted" hosted ∈ Seed.build true catalog := by
    simp [Seed.build, entries]
  have declares := Seed.build_declares true catalog _ first
  have packaged : Package.ofEntry files ∈ (Server.ofEntry "files" files).packages :=
    List.mem_singleton.2 rfl
  have named : NamedValue.ofEnv (.build []) ⟨"PATHS", "{{{a|b}}}:{{x y}}"⟩ ∈
      (Package.ofEntry files).environmentVariables := List.mem_cons_self
  refine ⟨⟨first, declares, _, packaged, _, named, by decide +kernel, by decide +kernel, ?_⟩,
    second, Seed.build_declares true catalog _ second⟩
  exact (declares.packages _ packaged).environment _ named

end CatalogSeed
