import CatalogSeed.Catalog.Form
import CatalogSeed.Registry.Form
import CatalogSeed.Template

/-!
The descriptor of one catalog entry. A hosted server with a description of how to reach it becomes
one remote transport; every other entry becomes one container package.
-/

namespace CatalogSeed

namespace NamedValue

/-- A variable of the environment, whose value may be a template. -/
def ofEnv (index : ConfigIndex) (env : EnvVar) : NamedValue :=
  let template := Template.parse env.value
  .new env.name template.canonical (template.vars index)

/-- The variable that takes a secret: a template of the secret's name alone. -/
def ofSecret (secret : Secret) : NamedValue :=
  .new secret.env (String.ofList (Template.token ⟨secret.name, []⟩))
    (KeyMap.empty.insert secret.name .secret)

end NamedValue

namespace Argument

/-- A flag with a value that may be a template. -/
def templated (index : ConfigIndex) (flag raw : String) : Argument :=
  let template := Template.parse raw
  .named flag template.canonical (template.vars index)

/-- Parts a token at its first equals sign, if it has one. -/
def partAtEquals (token : List Char) : List Char × Option (List Char) :=
  match token.span (· ≠ '=') with
  | (flag, []) => (flag, none)
  | (flag, _ :: value) => (flag, some value)

/-- What begins with two hyphens is a flag, with a value behind its equals sign; all else is
positional and taken as it is. -/
def ofToken (index : ConfigIndex) (token : String) : Argument :=
  match token.toList with
  | '-' :: '-' :: _ =>
      match partAtEquals token.toList with
      | (_, none) => .named token "" .empty
      | (flag, some value) => templated index (String.ofList flag) (String.ofList value)
  | _ => .positional token .empty

def volumeFlag : String := "-v"

def userFlag : String := "-u"

end Argument

namespace Package

/-- The container package of an entry. Values from the entry's environment come before its
secrets, volumes before the user. -/
def ofEntry (entry : Entry) : Package :=
  let index := ConfigIndex.build entry.config
  let runtimeArguments :=
    entry.volumes.map (.templated index Argument.volumeFlag) ++
      entry.user?.toList.map (.templated index Argument.userFlag)
  { Package.oci entry.image with
    environmentVariables := entry.env.map (.ofEnv index) ++ entry.secrets.map .ofSecret
    packageArguments := entry.command.map (.ofToken index)
    runtimeArguments := runtimeArguments
    runtimeHint := if runtimeArguments.isEmpty then none else some dockerHint }

end Package

/-- The transport of a hosted server, its headers in the order of their names. -/
def Transport.ofRemote (remote : Remote) : Transport :=
  ⟨remote.transportType, some remote.url |>.filter (· ≠ ""),
    remote.headers.entries.map fun (name, value) => .new name value .empty⟩

namespace Server

/-- The attributes of an entry that are passed on; the stars only if there are any. -/
def publisherBag (entry : Entry) : Bag :=
  [("pulls", .int entry.metadata.pulls),
    ("githubStars", .int entry.metadata.githubStars),
    ("category", .string entry.metadata.category),
    ("tags", .strings entry.metadata.tags),
    ("license", .string entry.metadata.license),
    ("owner", .string entry.metadata.owner),
    ("tools", .array (entry.tools.map Tool.toJson)),
    ("source", .string entry.source),
    ("icon", .string entry.icon),
    ("prompts", .int entry.prompts),
    ("title", .string entry.title),
    ("readme", .string entry.readme),
    ("toolsUrl", .string entry.toolsUrl),
    ("dateAdded", .string entry.dateAdded),
    ("upstream", .string entry.upstream),
    ("resources", .object entry.resources)] ++
  (if 0 < entry.metadata.stars then [("stars", .int entry.metadata.stars)] else [])

/-- The descriptor of the entry that a catalog holds under a key. -/
def ofEntry (key : String) (entry : Entry) : Server :=
  let server := { Server.new (nameOf key) (truncate entry.description) with
    attributes := [(publisherKey, .object (publisherBag entry))] }
  match entry.isRemote, entry.remote with
  | true, some remote => { server with remotes := [.ofRemote remote] }
  | _, _ => { server with
      packages := [.ofEntry entry]
      repository := entry.upstream?.map .ofUrl }

end Server

end CatalogSeed
