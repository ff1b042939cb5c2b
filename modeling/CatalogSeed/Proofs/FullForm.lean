import CatalogSeed.Proofs.Document.Record
import CatalogSeed.Proofs.Entries

/-!
Catalogs in their full form, with every member written and a null for what is absent, as they are
read again.
-/

namespace CatalogSeed

open Datum Document ParseTree

variable {nesting : Nat}

theorem Whole.toInt64?_ofInt64 (n : Int64) : (Whole.ofInt64 n).toInt64? = some n := by
  have small : (Whole.ofInt64 n).val < 0x8000000000000000 := n.toInt_lt
  rw [Whole.toInt64?, if_pos small]
  exact congrArg some (Int64.ofInt_toInt n)

theorem datum?_integer (value : Int64) :
    datum? nesting .integer (Json.int value).tree = some (.integer value) := by
  have read : (number? (Utf8.bytes (Number.text (.whole (.ofInt64 value))))).bind integer? =
      some value := by
    rw [number?_whole]
    exact Whole.toInt64?_ofInt64 value
  cases nesting with
  | zero => exact congrArg (Option.map Datum.integer) read
  | succ nesting => exact congrArg (Option.map Datum.integer) read

theorem datum?_flag (value : Bool) :
    datum? nesting .flag (Json.bool value).tree = some (.flag value) := by
  cases nesting <;> rfl

theorem datum?_texts (values : List String) :
    datum? (nesting + 1) (.list .text) (Json.strings values).tree =
      some (.list (values.map .text)) :=
  datum?_list fun value _ => datum?_text value

/-- An open object that is kept, and holds no real number, is read as it was printed. -/
theorem datum?_bag {bag : Bag} (kept : KeptBag bag nesting) (unreal : (Json.object bag).Unreal) :
    datum? (nesting + 1) .bag (Json.object bag).tree = some (.bag bag) := by
  obtain ⟨tidy, shallow⟩ := kept
  have faithful : (Json.object bag).Faithful (nesting + 1) :=
    Json.faithful_of_unreal unreal (Json.depth_object_le.2 shallow)
  have read := (Json.json?_tree_iff tidy (nesting + 1)).2 faithful
  obtain ⟨members, taken, same⟩ := Option.map_eq_some_iff.1 read
  rw [Json.object.injEq] at same
  subst same
  exact congrArg (Option.map Datum.bag) taken

theorem datum?_null {kind : Kind} (other : kind ≠ .json) :
    datum? nesting kind .null = none := by
  cases nesting <;> cases kind <;> first | contradiction | rfl

/-! Slots of members that are always written. -/

theorem slot_given (key : String) {kind : Kind} {json : Json} {found : Datum}
    (read : datum? nesting kind json.tree = some found) (other : kind ≠ .json) :
    Slot (datum? nesting) (lenient key kind) [(key, json)] (some (some found)) := by
  have present : json.tree ≠ .null := by
    intro nothing
    rw [nothing, datum?_null other] at read
    contradiction
  refine Or.inr ⟨json, rfl, ?_⟩
  rw [memberDatum?_of_ne_null present]
  exact congrArg (Option.map some) read

theorem slot_given? {α : Type} (key : String) {kind : Kind} {toJson : α → Json}
    {item : α → Datum} (read : ∀ value, datum? nesting kind (toJson value).tree = some (item value))
    (other : kind ≠ .json) (value : Option α) :
    Slot (datum? nesting) (lenient key kind) [(key, (value.map toJson).getD .null)]
      (some (value.map item)) := by
  cases value with
  | none => exact Or.inr ⟨.null, rfl, memberDatum?_null rfl⟩
  | some value => exact slot_given key (read value) other

theorem slot_string (key value : String) :
    Slot (datum? nesting) (lenient key .text) [(key, .string value)]
      (some (some (.text value))) :=
  slot_given key (datum?_text value) nofun

theorem slot_strings (key : String) (values : List String) :
    Slot (datum? (nesting + 1)) (lenient key (.list .text)) [(key, .strings values)]
      (some (some (.list (values.map .text)))) :=
  slot_given key (datum?_texts values) nofun

theorem slot_int (key : String) (value : Int64) :
    Slot (datum? nesting) (lenient key .integer) [(key, .int value)]
      (some (some (.integer value))) :=
  slot_given key (datum?_integer value) nofun

theorem slot_items {α : Type} (key : String) {kind : Kind} {toJson : α → Json} {item : α → Datum}
    {items : List α}
    (read : ∀ value ∈ items, datum? nesting kind (toJson value).tree = some (item value)) :
    Slot (datum? (nesting + 1)) (lenient key (.list kind)) [(key, .array (items.map toJson))]
      (some (some (.list (items.map item)))) :=
  slot_given key (datum?_list read) nofun

theorem asTexts_texts (values : List String) :
    asTexts (some (.list (values.map .text))) = values := by
  simp [asTexts, asList, Function.comp_def, asText]

theorem asList_items {α : Type} {back : Datum → α} {item : α → Datum}
    (same : ∀ value, back (item value) = value) (items : List α) :
    asList back (some (.list (items.map item))) = items := by
  simp [asList, Function.comp_def, same]

theorem asTable_entries {α : Type} {back : Datum → α} {item : α → Datum}
    (same : ∀ value, back (item value) = value) (map : KeyMap α) :
    asTable back (some (.table (map.entries.map fun (key, value) => (key, item value)))) =
      map := by
  simp [asTable, Function.comp_def, same, KeyMap.ofList_entries]

namespace Tool

def datum (tool : Tool) : Datum := .record [some (.text tool.name)]

theorem ofDatum_datum (tool : Tool) : ofDatum tool.datum = tool := rfl

theorem datum?_tree (tool : Tool) :
    datum? (nesting + 1) kind tool.toJson.tree = some tool.datum := by
  have slots := Slots.last (@slot_string nesting "name" tool.name)
  exact slots.record (by decide) (json? nesting) "Tool"

end Tool

namespace Metadata

def datum (metadata : Metadata) : Datum := .record [
  some (.integer metadata.pulls),
  some (.integer metadata.stars),
  some (.integer metadata.githubStars),
  some (.text metadata.category),
  some (.list (metadata.tags.map .text)),
  some (.text metadata.license),
  some (.text metadata.owner)]

theorem ofDatum_datum (metadata : Metadata) : ofDatum metadata.datum = metadata := by
  simp only [ofDatum, datum, asTexts_texts]
  rfl

theorem datum?_tree (metadata : Metadata) :
    datum? (nesting + 2) kind metadata.toJson.tree = some metadata.datum := by
  have slots := Slots.cons (slot_int "pulls" metadata.pulls)
    (.cons (slot_int "stars" metadata.stars)
      (.cons (slot_int "githubStars" metadata.githubStars)
        (.cons (slot_string "category" metadata.category)
          (.cons (@slot_strings nesting "tags" metadata.tags)
            (.cons (slot_string "license" metadata.license)
              (.last (slot_string "owner" metadata.owner)))))))
  exact slots.record (by decide) (json? (nesting + 1)) "CatalogMetadata"

end Metadata

namespace Secret

def datum (secret : Secret) : Datum := .record [
  some (.text secret.name),
  some (.text secret.env),
  some (.text secret.sample)]

theorem ofDatum_datum (secret : Secret) : ofDatum secret.datum = secret := rfl

theorem datum?_tree (secret : Secret) :
    datum? (nesting + 1) kind secret.toJson.tree = some secret.datum := by
  have slots := Slots.cons (@slot_string nesting "name" secret.name)
    (.cons (slot_string "env" secret.env) (.last (slot_string "example" secret.sample)))
  exact slots.record (by decide) (json? nesting) "Secret"

end Secret

namespace EnvVar

def datum (env : EnvVar) : Datum := .record [some (.text env.name), some (.text env.value)]

theorem ofDatum_datum (env : EnvVar) : ofDatum env.datum = env := rfl

theorem datum?_tree (env : EnvVar) :
    datum? (nesting + 1) kind env.toJson.tree = some env.datum := by
  have slots := Slots.cons (@slot_string nesting "name" env.name)
    (.last (slot_string "value" env.value))
  exact slots.record (by decide) (json? nesting) "EnvVar"

end EnvVar

namespace ConfigBlock

def datum (block : ConfigBlock) : Datum := .record [
  some (.text block.name),
  some (.text block.description),
  some (.text block.type),
  some (.bag block.properties),
  some (.list (block.required.map .text))]

theorem ofDatum_datum (block : ConfigBlock) : ofDatum block.datum = block := by
  simp only [ofDatum, datum, asTexts_texts]
  rfl

theorem datum?_tree {block : ConfigBlock} (kept : KeptBag block.properties nesting)
    (unreal : (Json.object block.properties).Unreal) :
    datum? (nesting + 2) kind block.toJson.tree = some block.datum := by
  have slots := Slots.cons (slot_string "name" block.name)
    (.cons (slot_string "description" block.description)
      (.cons (slot_string "type" block.type)
        (.cons (slot_given "properties" (datum?_bag kept unreal) nofun)
          (.last (@slot_strings nesting "required" block.required)))))
  exact slots.record (by decide) (json? (nesting + 1)) "ConfigBlock"

end ConfigBlock

namespace Remote

def datum (remote : Remote) : Datum := .record [
  some (.text remote.transportType),
  some (.text remote.url),
  some (.table (remote.headers.entries.map fun (name, value) => (name, .text value)))]

theorem ofDatum_datum (remote : Remote) : ofDatum remote.datum = remote := by
  have headers := @asTable_entries _ (fun value => asText (some value)) .text (fun _ => rfl) remote.headers
  simp only [ofDatum, datum, headers]
  rfl

theorem datum?_tree (remote : Remote) :
    datum? (nesting + 2) kind remote.toJson.tree = some remote.datum := by
  have headers := @datum?_table _ nesting .text Json.string Datum.text remote.headers.entries
    fun entry _ => datum?_text entry.2
  have slots := Slots.cons (slot_string "transport_type" remote.transportType)
    (.cons (slot_string "url" remote.url) (.last (slot_given "headers" headers nofun)))
  exact slots.record (by decide) (json? (nesting + 1)) "RemoteDescriptor"

end Remote

namespace OAuthProvider

def datum (provider : OAuthProvider) : Datum := .record [
  some (.text provider.provider),
  some (.text provider.secret),
  some (.text provider.env)]

theorem ofDatum_datum (provider : OAuthProvider) : ofDatum provider.datum = provider := rfl

theorem datum?_tree (provider : OAuthProvider) :
    datum? (nesting + 1) kind provider.toJson.tree = some provider.datum := by
  have slots := Slots.cons (@slot_string nesting "provider" provider.provider)
    (.cons (slot_string "secret" provider.secret) (.last (slot_string "env" provider.env)))
  exact slots.record (by decide) (json? nesting) "OAuthProvider"

end OAuthProvider

namespace OAuth

def datum (oauth : OAuth) : Datum := .record [
  some (.list (oauth.providers.map OAuthProvider.datum))]

theorem ofDatum_datum (oauth : OAuth) : ofDatum oauth.datum = oauth := by
  simp only [ofDatum, datum, asList_items OAuthProvider.ofDatum_datum]

theorem datum?_tree (oauth : OAuth) :
    datum? (nesting + 3) kind oauth.toJson.tree = some oauth.datum := by
  have slots := Slots.last (@slot_items (nesting + 1) _ "providers" _ _ _ oauth.providers
    fun provider _ => OAuthProvider.datum?_tree provider)
  exact slots.record (by decide) (json? (nesting + 2)) "OAuthConfig"

end OAuth

namespace Entry

/-- None of its open objects holds a real number. -/
structure Unreal (entry : Entry) : Prop where
  resources : (Json.object entry.resources).Unreal
  config : ∀ block ∈ entry.config, (Json.object block.properties).Unreal

def datum (entry : Entry) : Datum := .record [
  some (.text entry.description),
  some (.text entry.title),
  some (.text entry.type),
  some (.text entry.dateAdded),
  some (.text entry.image),
  some (.text entry.ref),
  some (.text entry.readme),
  some (.text entry.toolsUrl),
  some (.text entry.source),
  some (.text entry.upstream),
  some (.text entry.icon),
  some (.list (entry.tools.map Tool.datum)),
  some (.integer entry.prompts),
  some (.bag entry.resources),
  some entry.metadata.datum,
  some (.list (entry.secrets.map Secret.datum)),
  some (.list (entry.env.map EnvVar.datum)),
  some (.list (entry.command.map .text)),
  some (.list (entry.volumes.map .text)),
  some (.list (entry.config.map ConfigBlock.datum)),
  entry.remote.map Remote.datum,
  entry.user.map .text,
  some (.flag entry.longLived),
  some (.list (entry.allowHosts.map .text)),
  entry.oauth.map OAuth.datum]

theorem ofDatum_datum (entry : Entry) : ofDatum entry.datum = entry := by
  have remote : (entry.remote.map Remote.datum).map Remote.ofDatum = entry.remote := by
    cases entry.remote <;> simp [Remote.ofDatum_datum]
  have user : asText? (entry.user.map .text) = entry.user := by
    cases entry.user <;> rfl
  have oauth : (entry.oauth.map OAuth.datum).map OAuth.ofDatum = entry.oauth := by
    cases entry.oauth <;> simp [OAuth.ofDatum_datum]
  simp only [ofDatum, datum, ofMembers, remote, user, oauth, asTexts_texts,
    asList_items Tool.ofDatum_datum, asList_items Secret.ofDatum_datum,
    asList_items EnvVar.ofDatum_datum, asList_items ConfigBlock.ofDatum_datum,
    Option.map_some, Option.getD_some, Metadata.ofDatum_datum]
  rfl

theorem datum?_tree {entry : Entry} (kept : entry.Kept (nesting + 4)) (unreal : entry.Unreal) :
    datum? (nesting + 4) kind entry.toJson.tree = some entry.datum := by
  have resources : datum? (nesting + 3) .bag (Json.object entry.resources).tree =
      some (.bag entry.resources) := datum?_bag kept.resources unreal.resources
  have config : ∀ block ∈ entry.config,
      datum? (nesting + 2) ConfigBlock.kind block.toJson.tree = some block.datum :=
    fun block among =>
      ConfigBlock.datum?_tree (kept.config block among) (unreal.config block among)
  have access := Slots.cons (slot_given? "remote" Remote.datum?_tree nofun entry.remote)
    (.cons (slot_given? "user" datum?_text nofun entry.user)
      (.cons (slot_given "longLived" (datum?_flag entry.longLived) nofun)
        (.cons (slot_strings "allowHosts" entry.allowHosts)
          (.last (slot_given? "oauth" (@OAuth.datum?_tree nesting) nofun entry.oauth)))))
  have running := Slots.cons (slot_items "secrets" fun secret (_ : secret ∈ entry.secrets) =>
      Secret.datum?_tree secret)
    (.cons (slot_items "env" fun env (_ : env ∈ entry.env) => EnvVar.datum?_tree env)
      (.cons (slot_strings "command" entry.command)
        (.cons (slot_strings "volumes" entry.volumes)
          (.cons (slot_items "config" config) access))))
  have offered := Slots.cons (slot_items "tools" fun tool (_ : tool ∈ entry.tools) =>
      Tool.datum?_tree tool)
    (.cons (slot_int "prompts" entry.prompts)
      (.cons (slot_given "resources" resources nofun)
        (.cons (slot_given "metadata" (Metadata.datum?_tree entry.metadata) nofun) running)))
  have found := Slots.cons (slot_string "readme" entry.readme)
    (.cons (slot_string "toolsUrl" entry.toolsUrl)
      (.cons (slot_string "source" entry.source)
        (.cons (slot_string "upstream" entry.upstream)
          (.cons (slot_string "icon" entry.icon) offered))))
  have slots := Slots.cons (slot_string "description" entry.description)
    (.cons (slot_string "title" entry.title)
      (.cons (slot_string "type" entry.type)
        (.cons (slot_string "dateAdded" entry.dateAdded)
          (.cons (slot_string "image" entry.image)
            (.cons (slot_string "ref" entry.ref) found)))))
  exact slots.record (by decide) (json? (nesting + 3)) "CatalogEntry"

end Entry

namespace Catalog

def datum (catalog : Catalog) : Datum := .record [
  some (.text catalog.name),
  some (.text catalog.displayName),
  some (.table (catalog.registry.entries.map fun (key, entry) => (key, entry.datum)))]

theorem ofDatum_datum (catalog : Catalog) : ofDatum catalog.datum = catalog := by
  have registry := asTable_entries Entry.ofDatum_datum catalog.registry
  simp only [ofDatum, datum, registry]
  rfl

theorem datum?_tree {catalog : Catalog}
    (kept : ∀ pair ∈ catalog.registry.entries, pair.2.Kept (nesting + 4))
    (unreal : ∀ pair ∈ catalog.registry.entries, pair.2.Unreal) :
    datum? (nesting + 6) kind catalog.toJson.tree = some catalog.datum := by
  have registry := datum?_table fun pair held =>
    Entry.datum?_tree (kept pair held) (unreal pair held)
  have slots := Slots.cons (slot_string "name" catalog.name)
    (.cons (slot_string "displayName" catalog.displayName)
      (.last (slot_given "registry" registry nofun)))
  exact slots.record (by decide) (json? (nesting + 5)) "DockerCatalog"

/-- The full form of a catalog that was read is read as that catalog, on one line, indented or in
any other spelling, unless an open object of it holds a real number. -/
theorem decode_toJson {document : List UInt8} {catalog : Catalog}
    (accepted : decode document = .ok catalog)
    (unreal : ∀ pair ∈ catalog.registry.entries, pair.2.Unreal) :
    decode (Utf8.encode (String.ofList catalog.toJson.compact)) = .ok catalog ∧
      decode (Utf8.encode (String.ofList (catalog.toJson.pretty 0))) = .ok catalog ∧
      ∀ text, catalog.toJson.tree.SpellsDocument text → decode text = .ok catalog := by
  have kept : ∀ pair ∈ catalog.registry.entries, pair.2.Kept (121 + 4) := decode_kept accepted
  have outcome : datum? nestingLimit kind catalog.toJson.tree = some catalog.datum :=
    datum?_tree kept unreal
  have spelled {text : List UInt8} (spells : catalog.toJson.tree.SpellsDocument text) :
      decode text = .ok catalog := by
    have read : (read kind text).toOption = some catalog.datum := by
      rw [read_document kind spells, outcome]
    exact decode_eq_ok.2 ⟨catalog.datum, toOption_eq_some.1 read, ofDatum_datum catalog⟩
  have document {text : List UInt8} (spells : catalog.toJson.tree.Spells text) :
      catalog.toJson.tree.SpellsDocument text :=
    ⟨[], text, [], Blank.nil, spells, Blank.nil, by simp⟩
  refine ⟨?_, ?_, fun text spells => spelled spells⟩
  · rw [Utf8.encode_ofList]
    exact spelled (document catalog.toJson.compact_spells)
  · rw [Utf8.encode_ofList]
    exact spelled (document (catalog.toJson.pretty_spells 0))

/-- A catalog that is written as an array, with nulls, unknown members and repeated keys. -/
def scatteredCatalog : List UInt8 :=
  Utf8.encode ("[null,\"d\",\x7b\"k\":\x7b\"user\":\"\",\"remote\":null,\"oauth\":[[[\"p\"]]]," ++
    "\"resources\":\x7b\"b\":\"1\",\"a\":\"\",\"b\":\"2\"\x7d,\"other\":[1.5],\"prompts\":-1," ++
    "\"config\":[\x7b\"properties\":\x7b\"p\":\"q\"\x7d\x7d]\x7d,\"j\":[null,\"t\"]\x7d]")

theorem decode_toJson_scattered :
    ∃ catalog entry, decode scatteredCatalog = .ok catalog ∧
      catalog.get? "k" = some entry ∧ entry.user = some "" ∧ entry.remote = none ∧
      entry.resources = [("b", .string "2"), ("a", .string "")] ∧
      decode (Utf8.encode (String.ofList catalog.toJson.compact)) = .ok catalog := by
  have found : (decode scatteredCatalog).toOption.any (fun catalog =>
      decide ((∀ pair ∈ catalog.registry.entries,
        (∀ member ∈ pair.2.resources, member.2.asString?.isSome) ∧
          ∀ block ∈ pair.2.config, ∀ member ∈ block.properties, member.2.asString?.isSome) ∧
        (catalog.get? "k").any fun entry =>
          entry.user = some "" ∧ entry.remote = none ∧
            entry.resources.map (fun member => (member.1, member.2.asString?)) =
              [("b", some "2"), ("a", some "")])) =
      true := by decide +kernel
  obtain ⟨catalog, accepted, texts, decoded⟩ := exists_of_any_decode found
  obtain ⟨entry, here, members⟩ := (Option.any_eq_true _ _).1 decoded
  obtain ⟨user, remote, resources⟩ := of_decide_eq_true members
  have unreal {bag : Bag} (each : ∀ member ∈ bag, member.2.asString?.isSome) :
      (Json.object bag).Unreal := Json.unreal_object.2 fun member among =>
    Json.unreal_of_asString? (each member among)
  obtain ⟨compact, _⟩ := decode_toJson accepted fun pair held =>
    ⟨unreal (texts pair held).1, fun block among => unreal ((texts pair held).2 block among)⟩
  refine ⟨catalog, entry, accepted, here, user, remote, ?_, compact⟩
  simpa [List.map_eq_cons_iff, Json.asString?_eq_some, Prod.ext_iff] using resources

end Catalog

end CatalogSeed
