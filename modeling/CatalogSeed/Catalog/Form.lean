import CatalogSeed.Catalog.Basic
import CatalogSeed.Document.Reading

/-!
Catalogs as documents: the kind of each part, the part a datum of that kind stands for, and its
full form as a tree, absent parts written as null.
-/

namespace CatalogSeed

open Datum

/-- A member that may be left out or null. -/
def lenient (key : String) (kind : Kind) : Member Kind := ⟨key, .lenient, kind⟩

namespace Tool

def kind : Kind := .record "Tool" [lenient "name" .text]

def ofDatum : Datum → Tool
  | .record [name] => ⟨asText name⟩
  | _ => ⟨""⟩

def toJson (tool : Tool) : Json := .object [("name", .string tool.name)]

end Tool

namespace Metadata

def kind : Kind := .record "CatalogMetadata" [
  lenient "pulls" .integer,
  lenient "stars" .integer,
  lenient "githubStars" .integer,
  lenient "category" .text,
  lenient "tags" (.list .text),
  lenient "license" .text,
  lenient "owner" .text]

def empty : Metadata := ⟨0, 0, 0, "", [], "", ""⟩

def ofDatum : Datum → Metadata
  | .record [pulls, stars, githubStars, category, tags, license, owner] =>
      ⟨asInteger pulls, asInteger stars, asInteger githubStars, asText category, asTexts tags,
        asText license, asText owner⟩
  | _ => empty

def toJson (metadata : Metadata) : Json := .object [
  ("pulls", .int metadata.pulls),
  ("stars", .int metadata.stars),
  ("githubStars", .int metadata.githubStars),
  ("category", .string metadata.category),
  ("tags", .strings metadata.tags),
  ("license", .string metadata.license),
  ("owner", .string metadata.owner)]

end Metadata

namespace Secret

def kind : Kind := .record "Secret" [
  lenient "name" .text,
  lenient "env" .text,
  lenient "example" .text]

def ofDatum : Datum → Secret
  | .record [name, env, sample] => ⟨asText name, asText env, asText sample⟩
  | _ => ⟨"", "", ""⟩

def toJson (secret : Secret) : Json := .object [
  ("name", .string secret.name),
  ("env", .string secret.env),
  ("example", .string secret.sample)]

end Secret

namespace EnvVar

def kind : Kind := .record "EnvVar" [lenient "name" .text, lenient "value" .text]

def ofDatum : Datum → EnvVar
  | .record [name, value] => ⟨asText name, asText value⟩
  | _ => ⟨"", ""⟩

def toJson (env : EnvVar) : Json := .object [
  ("name", .string env.name),
  ("value", .string env.value)]

end EnvVar

namespace ConfigBlock

def kind : Kind := .record "ConfigBlock" [
  lenient "name" .text,
  lenient "description" .text,
  lenient "type" .text,
  lenient "properties" .bag,
  lenient "required" (.list .text)]

def ofDatum : Datum → ConfigBlock
  | .record [name, description, type, properties, required] =>
      ⟨asText name, asText description, asText type, asBag properties, asTexts required⟩
  | _ => ⟨"", "", "", [], []⟩

def toJson (block : ConfigBlock) : Json := .object [
  ("name", .string block.name),
  ("description", .string block.description),
  ("type", .string block.type),
  ("properties", .object block.properties),
  ("required", .strings block.required)]

end ConfigBlock

namespace Remote

def kind : Kind := .record "RemoteDescriptor" [
  lenient "transport_type" .text,
  lenient "url" .text,
  lenient "headers" (.table .text)]

def ofDatum : Datum → Remote
  | .record [transportType, url, headers] =>
      ⟨asText transportType, asText url, asTable (fun value => asText (some value)) headers⟩
  | _ => ⟨"", "", .empty⟩

def toJson (remote : Remote) : Json := .object [
  ("transport_type", .string remote.transportType),
  ("url", .string remote.url),
  ("headers", .object (remote.headers.entries.map fun (name, value) => (name, .string value)))]

end Remote

namespace OAuthProvider

def kind : Kind := .record "OAuthProvider" [
  lenient "provider" .text,
  lenient "secret" .text,
  lenient "env" .text]

def ofDatum : Datum → OAuthProvider
  | .record [provider, secret, env] => ⟨asText provider, asText secret, asText env⟩
  | _ => ⟨"", "", ""⟩

def toJson (provider : OAuthProvider) : Json := .object [
  ("provider", .string provider.provider),
  ("secret", .string provider.secret),
  ("env", .string provider.env)]

end OAuthProvider

namespace OAuth

def kind : Kind := .record "OAuthConfig" [lenient "providers" (.list OAuthProvider.kind)]

def ofDatum : Datum → OAuth
  | .record [providers] => ⟨asList OAuthProvider.ofDatum providers⟩
  | _ => ⟨[]⟩

def toJson (oauth : OAuth) : Json := .object [
  ("providers", .array (oauth.providers.map OAuthProvider.toJson))]

end OAuth

namespace Entry

def kind : Kind := .record "CatalogEntry" [
  lenient "description" .text,
  lenient "title" .text,
  lenient "type" .text,
  lenient "dateAdded" .text,
  lenient "image" .text,
  lenient "ref" .text,
  lenient "readme" .text,
  lenient "toolsUrl" .text,
  lenient "source" .text,
  lenient "upstream" .text,
  lenient "icon" .text,
  lenient "tools" (.list Tool.kind),
  lenient "prompts" .integer,
  lenient "resources" .bag,
  lenient "metadata" Metadata.kind,
  lenient "secrets" (.list Secret.kind),
  lenient "env" (.list EnvVar.kind),
  lenient "command" (.list .text),
  lenient "volumes" (.list .text),
  lenient "config" (.list ConfigBlock.kind),
  lenient "remote" Remote.kind,
  lenient "user" .text,
  lenient "longLived" .flag,
  lenient "allowHosts" (.list .text),
  lenient "oauth" OAuth.kind]

def ofMembers : List (Option Datum) → Entry
  | [description, title, type, dateAdded, image, ref, readme, toolsUrl, source, upstream, icon,
      tools, prompts, resources, metadata, secrets, env, command, volumes, config, remote, user,
      longLived, allowHosts, oauth] =>
    { description := asText description
      title := asText title
      type := asText type
      dateAdded := asText dateAdded
      image := asText image
      ref := asText ref
      readme := asText readme
      toolsUrl := asText toolsUrl
      source := asText source
      upstream := asText upstream
      icon := asText icon
      tools := asList Tool.ofDatum tools
      prompts := asInteger prompts
      resources := asBag resources
      metadata := (metadata.map Metadata.ofDatum).getD .empty
      secrets := asList Secret.ofDatum secrets
      env := asList EnvVar.ofDatum env
      command := asTexts command
      volumes := asTexts volumes
      config := asList ConfigBlock.ofDatum config
      remote := remote.map Remote.ofDatum
      user := asText? user
      longLived := asFlag longLived
      allowHosts := asTexts allowHosts
      oauth := oauth.map OAuth.ofDatum }
  | _ =>
    ⟨"", "", "", "", "", "", "", "", "", "", "", [], 0, [], .empty, [], [], [], [], [], none, none,
      false, [], none⟩

def ofDatum : Datum → Entry
  | .record members => ofMembers members
  | _ => ofMembers []

def toJson (entry : Entry) : Json := .object [
  ("description", .string entry.description),
  ("title", .string entry.title),
  ("type", .string entry.type),
  ("dateAdded", .string entry.dateAdded),
  ("image", .string entry.image),
  ("ref", .string entry.ref),
  ("readme", .string entry.readme),
  ("toolsUrl", .string entry.toolsUrl),
  ("source", .string entry.source),
  ("upstream", .string entry.upstream),
  ("icon", .string entry.icon),
  ("tools", .array (entry.tools.map Tool.toJson)),
  ("prompts", .int entry.prompts),
  ("resources", .object entry.resources),
  ("metadata", entry.metadata.toJson),
  ("secrets", .array (entry.secrets.map Secret.toJson)),
  ("env", .array (entry.env.map EnvVar.toJson)),
  ("command", .strings entry.command),
  ("volumes", .strings entry.volumes),
  ("config", .array (entry.config.map ConfigBlock.toJson)),
  ("remote", (entry.remote.map Remote.toJson).getD .null),
  ("user", (entry.user.map Json.string).getD .null),
  ("longLived", .bool entry.longLived),
  ("allowHosts", .strings entry.allowHosts),
  ("oauth", (entry.oauth.map OAuth.toJson).getD .null)]

def decode (document : List UInt8) : Except DocumentError Entry :=
  (Document.read kind document).map ofDatum

end Entry

namespace ConfigBlock

def decodeAll (document : List UInt8) : Except DocumentError (List ConfigBlock) :=
  (Document.read (.list kind) document).map fun blocks => asList ofDatum (some blocks)

end ConfigBlock

namespace Catalog

def kind : Kind := .record "DockerCatalog" [
  lenient "name" .text,
  lenient "displayName" .text,
  lenient "registry" (.table Entry.kind)]

def ofDatum : Datum → Catalog
  | .record [name, displayName, registry] =>
      ⟨asText name, asText displayName, asTable Entry.ofDatum registry⟩
  | _ => empty

def toJson (catalog : Catalog) : Json := .object [
  ("name", .string catalog.name),
  ("displayName", .string catalog.displayName),
  ("registry", .object (catalog.registry.entries.map fun (key, entry) => (key, entry.toJson)))]

def decode (document : List UInt8) : Except DocumentError Catalog :=
  (Document.read kind document).map ofDatum

end Catalog

end CatalogSeed
