import CatalogSeed.Proofs.Secrets

/-!
What the descriptor of an entry depends on. Entries that agree on the parts that are shown have one
descriptor, whatever else they hold.
-/

namespace CatalogSeed

/-! Configuration is seen through descriptions only. -/

namespace ConfigIndex

theorem definitions_dotted {blocks : List ConfigBlock} {key : String} {schema : Bag}
    (defined : (key, schema) ∈ definitions blocks) :
    ∃ block property, key = block ++ "." ++ property := by
  obtain ⟨block, _, found⟩ := List.mem_flatMap.1 defined
  obtain ⟨⟨property, value⟩, _, made⟩ := List.mem_filterMap.1 found
  obtain ⟨_, _, same⟩ := Option.map_eq_some_iff.1 made
  exact ⟨block.name, property, (Prod.mk.inj same).1.symm⟩

theorem description?_dotted {blocks : List ConfigBlock} {key text : String}
    (described : (build blocks).description? key = some text) :
    ∃ block property, key = block ++ "." ++ property := by
  obtain ⟨_, schema, found, _⟩ := description?_eq_some.1 described
  rw [get?, build, KeyMap.get?_ofList] at found
  exact definitions_dotted (List.mem_reverse.1 (KeyMap.mem_of_lookup found))

/-- Two indexes that agree on dotted keys agree on all, as no other key is described. -/
theorem description?_eq_of_dotted {blocks others : List ConfigBlock}
    (same : ∀ block property, (build blocks).description? (block ++ "." ++ property) =
      (build others).description? (block ++ "." ++ property)) (key : String) :
    (build blocks).description? key = (build others).description? key := by
  by_cases dotted : ∃ block property, key = block ++ "." ++ property
  · obtain ⟨block, property, rfl⟩ := dotted
    exact same block property
  · have nothing (blocks : List ConfigBlock) : (build blocks).description? key = none :=
      Option.eq_none_iff_forall_ne_some.2 fun text described =>
        dotted (description?_dotted described)
    rw [nothing, nothing]

end ConfigIndex

section

variable {index other : ConfigIndex}

theorem Template.vars_congr (template : Template)
    (same : ∀ key, index.description? key = other.description? key) :
    template.vars index = template.vars other := by
  simp only [vars, same]

theorem NamedValue.ofEnv_congr (same : ∀ key, index.description? key = other.description? key) :
    ofEnv index = ofEnv other := by
  funext env
  simp only [ofEnv, Template.vars_congr _ same]

theorem Argument.templated_congr
    (same : ∀ key, index.description? key = other.description? key) :
    templated index = templated other := by
  funext flag raw
  simp only [templated, Template.vars_congr _ same]

theorem Argument.ofToken_congr (same : ∀ key, index.description? key = other.description? key) :
    ofToken index = ofToken other := by
  funext token
  simp only [ofToken, templated_congr same]

end

/-! Packages of containers. -/

theorem NamedValue.map_ofSecret_congr {secrets others : List Secret}
    (same : secrets.map (fun secret => (secret.name, secret.env)) =
      others.map fun secret => (secret.name, secret.env)) :
    secrets.map ofSecret = others.map ofSecret := by
  have parts (secrets : List Secret) : secrets.map ofSecret =
      (secrets.map fun secret => (secret.name, secret.env)).map fun shown =>
        ofSecret ⟨shown.1, shown.2, ""⟩ := by
    rw [List.map_map]
    rfl
  rw [parts, parts, same]

/-- The entries agree on all that the package of a container is made of. -/
structure Entry.SameContainer (entry other : Entry) : Prop where
  image : entry.image = other.image
  env : entry.env = other.env
  secrets : entry.secrets.map (fun secret => (secret.name, secret.env)) =
    other.secrets.map fun secret => (secret.name, secret.env)
  command : entry.command = other.command
  volumes : entry.volumes = other.volumes
  user : entry.user? = other.user?
  described : ∀ block property,
    (ConfigIndex.build entry.config).description? (block ++ "." ++ property) =
      (ConfigIndex.build other.config).description? (block ++ "." ++ property)

theorem Package.ofEntry_congr {entry other : Entry} (same : entry.SameContainer other) :
    ofEntry entry = ofEntry other := by
  have described := ConfigIndex.description?_eq_of_dotted same.described
  simp only [ofEntry, same.image, same.env, same.command, same.volumes, same.user,
    NamedValue.ofEnv_congr described, NamedValue.map_ofSecret_congr same.secrets,
    Argument.ofToken_congr described, Argument.templated_congr described]

/-! Attributes that are passed on. -/

/-- The entries agree on the attributes that are passed on. Stars count only where they are shown. -/
structure Entry.SameAttributes (entry other : Entry) : Prop where
  pulls : entry.metadata.pulls = other.metadata.pulls
  githubStars : entry.metadata.githubStars = other.metadata.githubStars
  category : entry.metadata.category = other.metadata.category
  tags : entry.metadata.tags = other.metadata.tags
  license : entry.metadata.license = other.metadata.license
  owner : entry.metadata.owner = other.metadata.owner
  tools : entry.tools = other.tools
  source : entry.source = other.source
  icon : entry.icon = other.icon
  prompts : entry.prompts = other.prompts
  title : entry.title = other.title
  readme : entry.readme = other.readme
  toolsUrl : entry.toolsUrl = other.toolsUrl
  dateAdded : entry.dateAdded = other.dateAdded
  upstream : entry.upstream = other.upstream
  resources : entry.resources = other.resources
  stars : 0 < entry.metadata.stars ∨ 0 < other.metadata.stars →
    entry.metadata.stars = other.metadata.stars

namespace Server

theorem publisherBag_congr {entry other : Entry} (same : entry.SameAttributes other) :
    publisherBag entry = publisherBag other := by
  have stars : (if 0 < entry.metadata.stars then [("stars", Json.int entry.metadata.stars)] else [])
      = if 0 < other.metadata.stars then [("stars", Json.int other.metadata.stars)] else [] := by
    by_cases shown : 0 < entry.metadata.stars ∨ 0 < other.metadata.stars
    · rw [same.stars shown]
    · rw [not_or] at shown
      rw [if_neg shown.1, if_neg shown.2]
  simp only [publisherBag, stars, same.pulls, same.githubStars, same.category, same.tags,
    same.license, same.owner, same.tools, same.source, same.icon, same.prompts, same.title,
    same.readme, same.toolsUrl, same.dateAdded, same.upstream, same.resources]

/-- Of two entries with the same description and attributes, those that somebody else hosts in the
same way have one descriptor, and so have those that become the same container, whatever else they
hold. -/
theorem ofEntry_ignores (key : String) {entry other : Entry}
    (description : entry.description = other.description)
    (attributes : entry.SameAttributes other) :
    (∀ remote, entry.isRemote = true → other.isRemote = true → entry.remote = some remote →
      other.remote = some remote → ofEntry key entry = ofEntry key other) ∧
    (entry.isRemote = false ∨ entry.remote = none → other.isRemote = false ∨ other.remote = none →
      entry.SameContainer other → ofEntry key entry = ofEntry key other) := by
  have bag := publisherBag_congr attributes
  constructor
  · intro remote hosted hostedToo reached reachedToo
    simp only [ofEntry, hosted, hostedToo, reached, reachedToo, description, bag]
  · intro contained containedToo container
    have upstream : entry.upstream? = other.upstream? := by
      rw [Entry.upstream?, Entry.upstream?, attributes.upstream]
    rw [ofEntry_of_contained contained, ofEntry_of_contained containedToo, description, bag,
      upstream, Package.ofEntry_congr container]

end Server

namespace ConfigIndex

/-- A property with a description. -/
def describedOnce : List ConfigBlock :=
  [⟨"a", "", "", [("b", .object [("description", .string "d")])], []⟩]

/-- The same one described anew, beside others without a description. -/
def describedAnew : List ConfigBlock :=
  [⟨"a", "", "", [("b", .object [("description", .string "c")]), ("e", .null)], ["b"]⟩,
    ⟨"a", "", "", [("b", .object [("description", .string "d")]), ("f", .object [])], []⟩]

theorem describedAnew_same (key : String) :
    (build describedOnce).description? key = (build describedAnew).description? key := by
  simp only [description?, get?, build, KeyMap.get?_ofList]
  simp only [describedOnce, describedAnew, definitions, List.flatMap_cons, List.flatMap_nil,
    List.filterMap_cons, List.filterMap_nil, Json.asObject?, Option.map_some, Option.map_none,
    List.append_nil, List.nil_append, List.cons_append, List.reverse_cons, List.reverse_nil,
    KeyMap.lookup_cons_eq, List.lookup_nil]
  by_cases other : key = "a" ++ "." ++ "f"
  · subst other
    decide
  · by_cases same : key = "a" ++ "." ++ "b"
    · subst same
      decide
    · simp only [other, same, if_false]

end ConfigIndex

/-- Two containers with one template that is described in two ways, and the same two hosted. -/
theorem Server.ofEntry_ignores_anew :
    let remote : Remote := ⟨"sse", "", KeyMap.empty.insert "A" "{{a.b}}"⟩
    let entry := { Entry.ofMembers [] with
      env := [⟨"PATHS", "{{a.b}}:{{a.f}}"⟩]
      secrets := [⟨"s", "TOKEN", "one"⟩]
      config := ConfigIndex.describedOnce
      remote := some remote }
    let other := { entry with
      type := remoteType
      metadata := { Metadata.empty with stars := -1 }
      secrets := [⟨"s", "TOKEN", "two"⟩]
      config := ConfigIndex.describedAnew
      remote := none
      user := some "" }
    let hosted := { entry with type := remoteType }
    let hostedToo := { other with remote := some remote, env := [] }
    ofEntry "k" entry = ofEntry "k" other ∧ ofEntry "k" hosted = ofEntry "k" hostedToo := by
  intro remote entry other hosted hostedToo
  have attributes : entry.SameAttributes other :=
    ⟨rfl, rfl, rfl, rfl, rfl, rfl, rfl, rfl, rfl, rfl, rfl, rfl, rfl, rfl, rfl, rfl, by decide⟩
  have container : entry.SameContainer other :=
    ⟨rfl, rfl, rfl, rfl, rfl, rfl, fun _ _ => ConfigIndex.describedAnew_same _⟩
  constructor
  · exact (@ofEntry_ignores "k" entry other rfl attributes).2 (Or.inl rfl) (Or.inr rfl) container
  · exact (@ofEntry_ignores "k" hosted hostedToo rfl { attributes with }).1 remote rfl rfl rfl rfl

end CatalogSeed
