import CatalogSeed.Document.Reading
import CatalogSeed.Registry.Basic

/-!
Server descriptors as documents: the kind of each part, the part a datum of that kind stands for,
and its tree, in which members with nothing to say are left out.
-/

namespace CatalogSeed

open Datum

namespace Member

def required (key : String) (kind : Kind) : Member Kind := ⟨key, .required, kind⟩

/-- A member that may be left out, but not null. -/
def optional (key : String) (kind : Kind) : Member Kind := ⟨key, .optional, kind⟩

/-- A member that may be left out or null. -/
def nullable (key : String) (kind : Kind) : Member Kind := ⟨key, .lenient, kind⟩

end Member

/-! Members that are written only when there is something in them. -/

namespace Written

def text (key value : String) : Bag :=
  if value = "" then [] else [(key, .string value)]

def text? (key : String) (value : Option String) : Bag :=
  value.toList.map fun value => (key, .string value)

def flag (key : String) (value : Bool) : Bag :=
  if value then [(key, .bool true)] else []

def list {α : Type} (key : String) (item : α → Json) (items : List α) : Bag :=
  if items.isEmpty then [] else [(key, .array (items.map item))]

def table {α : Type} (key : String) (item : α → Json) (map : KeyMap α) : Bag :=
  if map.isEmpty then []
  else [(key, .object (map.entries.map fun (name, value) => (name, item value)))]

end Written

namespace VariableSchema

def kind : Kind := .record "InputSchema" [
  .optional "isSecret" .flag,
  .optional "isRequired" .flag,
  .nullable "format" .text,
  .nullable "description" .text]

def ofDatum : Datum → VariableSchema
  | .record [isSecret, isRequired, format, description] =>
      ⟨asFlag isSecret, asFlag isRequired, asText? format, asText? description⟩
  | _ => ⟨false, false, none, none⟩

def toJson (schema : VariableSchema) : Json := .object <|
  Written.flag "isSecret" schema.isSecret ++
  Written.flag "isRequired" schema.isRequired ++
  Written.text? "format" schema.format ++
  Written.text? "description" schema.description

end VariableSchema

namespace NamedValue

def kind : Kind := .record "KeyValueInput" [
  .required "name" .text,
  .optional "value" .text,
  .nullable "description" .text,
  .optional "isRequired" .flag,
  .optional "isSecret" .flag,
  .optional "isRepeated" .flag,
  .optional "variables" (.table VariableSchema.kind)]

def ofDatum : Datum → NamedValue
  | .record [name, value, description, isRequired, isSecret, isRepeated, vars] =>
      ⟨asText name, asText value, asText? description, asFlag isRequired, asFlag isSecret,
        asFlag isRepeated, asTable VariableSchema.ofDatum vars⟩
  | _ => .new "" "" .empty

def toJson (named : NamedValue) : Json := .object <|
  [("name", .string named.name)] ++
  Written.text "value" named.value ++
  Written.text? "description" named.description ++
  Written.flag "isRequired" named.isRequired ++
  Written.flag "isSecret" named.isSecret ++
  Written.flag "isRepeated" named.isRepeated ++
  Written.table "variables" VariableSchema.toJson named.vars

end NamedValue

namespace ArgumentType

def name : ArgumentType → String
  | positional => "positional"
  | named => "named"

def kind : Kind := .choice [name positional, name named]

def ofDatum : Option Datum → ArgumentType
  | some (.choice found) => if found = name named then named else positional
  | _ => positional

end ArgumentType

namespace Argument

def kind : Kind := .record "Argument" [
  .required "type" ArgumentType.kind,
  .optional "name" .text,
  .optional "value" .text,
  .optional "isRequired" .flag,
  .optional "isSecret" .flag,
  .optional "isRepeated" .flag,
  .optional "variables" (.table VariableSchema.kind)]

def ofDatum : Datum → Argument
  | .record [type, name, value, isRequired, isSecret, isRepeated, vars] =>
      ⟨.ofDatum type, asText name, asText value, asFlag isRequired, asFlag isSecret,
        asFlag isRepeated, asTable VariableSchema.ofDatum vars⟩
  | _ => .positional "" .empty

def toJson (argument : Argument) : Json := .object <|
  [("type", .string argument.type.name)] ++
  Written.text "name" argument.name ++
  Written.text "value" argument.value ++
  Written.flag "isRequired" argument.isRequired ++
  Written.flag "isSecret" argument.isSecret ++
  Written.flag "isRepeated" argument.isRepeated ++
  Written.table "variables" VariableSchema.toJson argument.vars

end Argument

namespace Transport

def kind : Kind := .record "Transport" [
  .required "type" .text,
  .nullable "url" .text,
  .optional "headers" (.list NamedValue.kind)]

def ofDatum : Datum → Transport
  | .record [type, url, headers] =>
      ⟨asText type, asText? url, asList NamedValue.ofDatum headers⟩
  | _ => ⟨"", none, []⟩

def toJson (transport : Transport) : Json := .object <|
  [("type", .string transport.type)] ++
  Written.text? "url" transport.url ++
  Written.list "headers" NamedValue.toJson transport.headers

end Transport

namespace Package

def kind : Kind := .record "Package" [
  .required "registryType" .text,
  .required "transport" Transport.kind,
  .required "identifier" .text,
  .nullable "version" .text,
  .optional "environmentVariables" (.list NamedValue.kind),
  .optional "packageArguments" (.list Argument.kind),
  .optional "runtimeArguments" (.list Argument.kind),
  .nullable "runtimeHint" .text]

def ofDatum : Datum → Package
  | .record [registryType, transport, identifier, version, environmentVariables,
      packageArguments, runtimeArguments, runtimeHint] =>
      ⟨asText registryType, (transport.map Transport.ofDatum).getD ⟨"", none, []⟩,
        asText identifier, asText? version, asList NamedValue.ofDatum environmentVariables,
        asList Argument.ofDatum packageArguments, asList Argument.ofDatum runtimeArguments,
        asText? runtimeHint⟩
  | _ => ⟨"", ⟨"", none, []⟩, "", none, [], [], [], none⟩

def toJson (package : Package) : Json := .object <|
  [("registryType", .string package.registryType),
    ("transport", package.transport.toJson),
    ("identifier", .string package.identifier)] ++
  Written.text? "version" package.version ++
  Written.list "environmentVariables" NamedValue.toJson package.environmentVariables ++
  Written.list "packageArguments" Argument.toJson package.packageArguments ++
  Written.list "runtimeArguments" Argument.toJson package.runtimeArguments ++
  Written.text? "runtimeHint" package.runtimeHint

end Package

namespace Repository

def kind : Kind := .record "Repository" [
  .required "url" .text,
  .optional "source" .text,
  .nullable "subfolder" .text]

def ofDatum : Datum → Repository
  | .record [url, source, subfolder] => ⟨asText url, asText source, asText? subfolder⟩
  | _ => ⟨"", "", none⟩

def toJson (repository : Repository) : Json := .object <|
  [("url", .string repository.url)] ++
  Written.text "source" repository.source ++
  Written.text? "subfolder" repository.subfolder

end Repository

namespace Server

def kind : Kind := .record "ServerDescriptor" [
  .required "$schema" .text,
  .required "name" .text,
  .required "description" .text,
  .required "version" .text,
  .optional "packages" (.list Package.kind),
  .optional "remotes" (.list Transport.kind),
  .nullable "repository" Repository.kind,
  .nullable "websiteUrl" .text,
  .optional "_meta" .bag]

def ofDatum : Datum → Server
  | .record [schema, name, description, version, packages, remotes, repository, websiteUrl,
      attributes] =>
      ⟨asText schema, asText name, asText description, asText version,
        asList Package.ofDatum packages, asList Transport.ofDatum remotes,
        repository.map Repository.ofDatum, asText? websiteUrl, asBag attributes⟩
  | _ => ⟨"", "", "", "", [], [], none, none, []⟩

def toJson (server : Server) : Json := .object <|
  [("$schema", .string server.schema),
    ("name", .string server.name),
    ("description", .string server.description),
    ("version", .string server.version)] ++
  Written.list "packages" Package.toJson server.packages ++
  Written.list "remotes" Transport.toJson server.remotes ++
  (server.repository.toList.map fun repository => ("repository", repository.toJson)) ++
  Written.text? "websiteUrl" server.websiteUrl ++
  (if server.attributes.isEmpty then [] else [("_meta", .object server.attributes)])

end Server

end CatalogSeed
