import CatalogSeed.Proofs.Document.Record
import CatalogSeed.Proofs.KeyMap
import CatalogSeed.Registry.Form

/-!
Server descriptors that were printed, as they are read again. Every part comes back as it was, the
open attributes as far as their values do.
-/

namespace CatalogSeed

open Datum Document ParseTree

variable {α : Type}

/-! What is read for a member that is printed only when there is something in it. -/

namespace Written

def readText (value : String) : Option Datum :=
  if value = "" then none else some (.text value)

def readText? (value : Option String) : Option Datum :=
  value.map .text

def readFlag (value : Bool) : Option Datum :=
  if value then some (.flag true) else none

def readList (item : α → Datum) (items : List α) : Option Datum :=
  if items.isEmpty then none else some (.list (items.map item))

def readTable (item : α → Datum) (map : KeyMap α) : Option Datum :=
  if map.isEmpty then none
  else some (.table (map.entries.map fun (key, value) => (key, item value)))

@[simp] theorem asText_text (value : String) : asText (some (.text value)) = value := rfl

@[simp] theorem asText_readText (value : String) : asText (readText value) = value := by
  by_cases empty : value = "" <;> simp [readText, empty, asText]

@[simp] theorem asText?_readText? (value : Option String) :
    asText? (readText? value) = value := by
  cases value <;> rfl

@[simp] theorem asFlag_readFlag (value : Bool) : asFlag (readFlag value) = value := by
  cases value <;> rfl

theorem asList_readList {back : Datum → α} {item : α → Datum}
    (same : ∀ value, back (item value) = value) (items : List α) :
    asList back (readList item items) = items := by
  cases items with
  | nil => rfl
  | cons first items => simp [readList, asList, Function.comp_def, same]

theorem asTable_readTable {back : Datum → α} {item : α → Datum}
    (same : ∀ value, back (item value) = value) (map : KeyMap α) :
    asTable back (readTable item map) = map := by
  by_cases empty : map.isEmpty = true
  · have nothing : map = .empty := KeyMap.ext (List.isEmpty_iff.1 empty)
    rw [nothing]
    rfl
  · simp [readTable, empty, asTable, Function.comp_def, same, KeyMap.ofList_entries]

end Written

/-! Slots of members. -/

variable {nesting : Nat}

theorem slot_required (key value : String) :
    Slot (datum? nesting) (.required key .text) [(key, .string value)]
      (some (some (.text value))) :=
  @slot_plain nesting (.required key .text) nofun _ _ (datum?_text value)

theorem slot_text (key value : String) :
    Slot (datum? nesting) (.optional key .text) (Written.text key value)
      (some (Written.readText value)) := by
  unfold Written.text Written.readText
  split
  next => exact slot_absent nofun
  next => exact @slot_plain nesting (.optional key .text) nofun _ _ (datum?_text value)

theorem slot_text? (key : String) (value : Option String) :
    Slot (datum? nesting) (.nullable key .text) (Written.text? key value)
      (some (Written.readText? value)) := by
  cases value with
  | none => exact slot_absent nofun
  | some value =>
      have read := congrArg (Option.map some) (@datum?_text nesting value)
      exact Or.inr ⟨.string value, rfl, read⟩

theorem slot_flag (key : String) (value : Bool) :
    Slot (datum? nesting) (.optional key .flag) (Written.flag key value)
      (some (Written.readFlag value)) := by
  cases value with
  | false => exact slot_absent nofun
  | true =>
      have read : datum? nesting .flag (Json.bool true).tree = some (.flag true) := by
        cases nesting <;> rfl
      exact @slot_plain nesting (.optional key .flag) nofun _ _ read

theorem slot_list (key : String) {kind : Kind} {toJson : α → Json} {item : α → Datum}
    (read : ∀ value, datum? nesting kind (toJson value).tree = some (item value))
    (items : List α) :
    Slot (datum? (nesting + 1)) (.optional key (.list kind)) (Written.list key toJson items)
      (some (Written.readList item items)) := by
  unfold Written.list Written.readList
  split
  next => exact slot_absent nofun
  next =>
    exact @slot_plain _ (.optional key (.list kind)) nofun _ _
      (datum?_list fun value _ => read value)

theorem slot_table (key : String) {kind : Kind} {toJson : α → Json} {item : α → Datum}
    (read : ∀ value, datum? nesting kind (toJson value).tree = some (item value))
    (map : KeyMap α) :
    Slot (datum? (nesting + 1)) (.optional key (.table kind)) (Written.table key toJson map)
      (some (Written.readTable item map)) := by
  unfold Written.table Written.readTable
  split
  next => exact slot_absent nofun
  next =>
    exact @slot_plain _ (.optional key (.table kind)) nofun _ _
      (datum?_table fun entry _ => read entry.2)

namespace VariableSchema

def datum (schema : VariableSchema) : Datum := .record [
  Written.readFlag schema.isSecret,
  Written.readFlag schema.isRequired,
  Written.readText? schema.format,
  Written.readText? schema.description]

theorem ofDatum_datum (schema : VariableSchema) : ofDatum schema.datum = schema := by
  simp [ofDatum, datum]

theorem datum?_tree (schema : VariableSchema) :
    datum? (nesting + 1) kind schema.toJson.tree = some schema.datum := by
  have slots := Slots.cons (slot_flag "isSecret" schema.isSecret)
    (.cons (slot_flag "isRequired" schema.isRequired)
      (.cons (slot_text? "format" schema.format)
        (.last (@slot_text? nesting "description" schema.description))))
  have read := slots.record (by decide) (json? nesting) "InputSchema"
  simp only [toJson, List.append_assoc]
  exact read

end VariableSchema

namespace NamedValue

def datum (named : NamedValue) : Datum := .record [
  some (.text named.name),
  Written.readText named.value,
  Written.readText? named.description,
  Written.readFlag named.isRequired,
  Written.readFlag named.isSecret,
  Written.readFlag named.isRepeated,
  Written.readTable VariableSchema.datum named.vars]

theorem ofDatum_datum (named : NamedValue) : ofDatum named.datum = named := by
  simp [ofDatum, datum, Written.asTable_readTable VariableSchema.ofDatum_datum]

theorem datum?_tree (named : NamedValue) :
    datum? (nesting + 3) kind named.toJson.tree = some named.datum := by
  have slots := Slots.cons (slot_required "name" named.name)
    (.cons (slot_text "value" named.value)
      (.cons (slot_text? "description" named.description)
        (.cons (slot_flag "isRequired" named.isRequired)
          (.cons (slot_flag "isSecret" named.isSecret)
            (.cons (slot_flag "isRepeated" named.isRepeated)
              (.last (slot_table "variables" (@VariableSchema.datum?_tree nesting)
                named.vars)))))))
  have read := slots.record (by decide) (json? (nesting + 2)) "KeyValueInput"
  simp only [toJson, List.append_assoc]
  exact read

end NamedValue

namespace Argument

theorem kind_read (type : ArgumentType) :
    datum? nesting ArgumentType.kind (Json.string type.name).tree = some (.choice type.name) := by
  cases type <;> cases nesting <;>
    simp [ArgumentType.kind, datum?, bracketed?, scalar?, name?, Json.tree, Json.text?_written]

def datum (argument : Argument) : Datum := .record [
  some (.choice argument.type.name),
  Written.readText argument.name,
  Written.readText argument.value,
  Written.readFlag argument.isRequired,
  Written.readFlag argument.isSecret,
  Written.readFlag argument.isRepeated,
  Written.readTable VariableSchema.datum argument.vars]

theorem ofDatum_datum (argument : Argument) : ofDatum argument.datum = argument := by
  obtain ⟨type, _⟩ := argument
  cases type <;>
    simp [ofDatum, datum, ArgumentType.ofDatum, ArgumentType.name,
      Written.asTable_readTable VariableSchema.ofDatum_datum]

theorem datum?_tree (argument : Argument) :
    datum? (nesting + 3) kind argument.toJson.tree = some argument.datum := by
  have slots := Slots.cons
    (@slot_plain _ (.required "type" ArgumentType.kind) nofun _ _ (kind_read argument.type))
    (.cons (slot_text "name" argument.name)
      (.cons (slot_text "value" argument.value)
        (.cons (slot_flag "isRequired" argument.isRequired)
          (.cons (slot_flag "isSecret" argument.isSecret)
            (.cons (slot_flag "isRepeated" argument.isRepeated)
              (.last (slot_table "variables" (@VariableSchema.datum?_tree nesting)
                argument.vars)))))))
  have read := slots.record (by decide) (json? (nesting + 2)) "Argument"
  simp only [toJson, List.append_assoc]
  exact read

end Argument

namespace Transport

def datum (transport : Transport) : Datum := .record [
  some (.text transport.type),
  Written.readText? transport.url,
  Written.readList NamedValue.datum transport.headers]

theorem ofDatum_datum (transport : Transport) : ofDatum transport.datum = transport := by
  simp [ofDatum, datum, Written.asList_readList NamedValue.ofDatum_datum]

theorem datum?_tree (transport : Transport) :
    datum? (nesting + 5) kind transport.toJson.tree = some transport.datum := by
  have slots := Slots.cons (slot_required "type" transport.type)
    (.cons (slot_text? "url" transport.url)
      (.last (slot_list "headers" (@NamedValue.datum?_tree nesting) transport.headers)))
  have read := slots.record (by decide) (json? (nesting + 4)) "Transport"
  simp only [toJson, List.append_assoc]
  exact read

end Transport

namespace Package

def datum (package : Package) : Datum := .record [
  some (.text package.registryType),
  some package.transport.datum,
  some (.text package.identifier),
  Written.readText? package.version,
  Written.readList NamedValue.datum package.environmentVariables,
  Written.readList Argument.datum package.packageArguments,
  Written.readList Argument.datum package.runtimeArguments,
  Written.readText? package.runtimeHint]

theorem ofDatum_datum (package : Package) : ofDatum package.datum = package := by
  simp [ofDatum, datum, Transport.ofDatum_datum,
    Written.asList_readList NamedValue.ofDatum_datum,
    Written.asList_readList Argument.ofDatum_datum]

theorem datum?_tree (package : Package) :
    datum? (nesting + 6) kind package.toJson.tree = some package.datum := by
  have slots := Slots.cons (slot_required "registryType" package.registryType)
    (.cons (@slot_plain _ (.required "transport" Transport.kind) nofun _ _
        (@Transport.datum?_tree nesting package.transport))
      (.cons (slot_required "identifier" package.identifier)
        (.cons (slot_text? "version" package.version)
          (.cons (slot_list "environmentVariables" (@NamedValue.datum?_tree (nesting + 1))
              package.environmentVariables)
            (.cons (slot_list "packageArguments" (@Argument.datum?_tree (nesting + 1))
                package.packageArguments)
              (.cons (slot_list "runtimeArguments" (@Argument.datum?_tree (nesting + 1))
                  package.runtimeArguments)
                (.last (slot_text? "runtimeHint" package.runtimeHint))))))))
  have read := slots.record (by decide) (json? (nesting + 5)) "Package"
  simp only [toJson, List.append_assoc]
  exact read

end Package

namespace Repository

def datum (repository : Repository) : Datum := .record [
  some (.text repository.url),
  Written.readText repository.source,
  Written.readText? repository.subfolder]

theorem ofDatum_datum (repository : Repository) : ofDatum repository.datum = repository := by
  simp [ofDatum, datum]

theorem datum?_tree (repository : Repository) :
    datum? (nesting + 1) kind repository.toJson.tree = some repository.datum := by
  have slots := Slots.cons (@slot_required nesting "url" repository.url)
    (.cons (slot_text "source" repository.source)
      (.last (slot_text? "subfolder" repository.subfolder)))
  have read := slots.record (by decide) (json? nesting) "Repository"
  simp only [toJson, List.append_assoc]
  exact read

end Repository

namespace Server

/-- The members of open attributes that were printed, if all of them are read. -/
def readMembers (nesting : Nat) (attributes : Bag) : Option Bag :=
  attributes.mapM fun member =>
    (member.2.tree.json? nesting).map fun found => (member.1, found)

/-- What is read for a descriptor whose attributes came back as these. -/
def datum (server : Server) (attributes : Option Datum) : Datum := .record [
  some (.text server.schema),
  some (.text server.name),
  some (.text server.description),
  some (.text server.version),
  Written.readList Package.datum server.packages,
  Written.readList Transport.datum server.remotes,
  server.repository.map Repository.datum,
  Written.readText? server.websiteUrl,
  attributes]

theorem ofDatum_datum (server : Server) (attributes : Option Datum) :
    ofDatum (server.datum attributes) = { server with attributes := asBag attributes } := by
  have repository : (server.repository.map Repository.datum).map Repository.ofDatum =
      server.repository := by
    cases server.repository <;> simp [Repository.ofDatum_datum]
  simp only [ofDatum, datum, repository, Written.asText_text, Written.asText?_readText?,
    Written.asList_readList Package.ofDatum_datum,
    Written.asList_readList Transport.ofDatum_datum]

theorem slot_repository (repository : Option Repository) :
    Slot (datum? (nesting + 1)) (.nullable "repository" Repository.kind)
      (repository.toList.map fun repository => ("repository", repository.toJson))
      (some (repository.map Repository.datum)) := by
  cases repository with
  | none => exact slot_absent nofun
  | some repository =>
      have read := congrArg (Option.map some) (@Repository.datum?_tree nesting repository)
      exact Or.inr ⟨repository.toJson, rfl, read⟩

theorem slot_attributes {attributes : Bag} (distinct : (attributes.map Prod.fst).Nodup) :
    Slot (datum? (nesting + 1)) (.optional "_meta" .bag)
      (if attributes.isEmpty then [] else [("_meta", .object attributes)])
      (if attributes.isEmpty then some none
        else (readMembers nesting attributes).map fun found => some (.bag found)) := by
  split
  next => exact slot_absent nofun
  next =>
    refine Or.inr ⟨_, rfl, ?_⟩
    rw [memberDatum?_of_plain (by nofun)]
    simp only [Member.optional, datum?, Json.tree, bracketed?, Json.json?_members distinct]
    exact Option.map_map ..

/-- A printed descriptor is read again exactly if the values of its attributes are, and differs
from the one before in nothing else. -/
theorem datum?_tree {server : Server} (distinct : (server.attributes.map Prod.fst).Nodup) :
    (datum? (nesting + 8) kind server.toJson.tree).map ofDatum =
      (readMembers (nesting + 6) server.attributes).map fun attributes =>
        { server with attributes } := by
  have slots := Slots.cons (slot_required "$schema" server.schema)
    (.cons (slot_required "name" server.name)
      (.cons (slot_required "description" server.description)
        (.cons (slot_required "version" server.version)
          (.cons (slot_list "packages" (@Package.datum?_tree nesting) server.packages)
            (.cons (slot_list "remotes" (@Transport.datum?_tree (nesting + 1)) server.remotes)
              (.cons (slot_repository server.repository)
                (.cons (slot_text? "websiteUrl" server.websiteUrl)
                  (.last (slot_attributes distinct)))))))))
  have read := slots.record (by decide) (json? (nesting + 7)) "ServerDescriptor"
  simp only [toJson, List.append_assoc]
  refine (congrArg (Option.map ofDatum) read).trans ?_
  have arranged (attributes : Option (Option Datum)) :
      ([some (some (.text server.schema)), some (some (.text server.name)),
          some (some (.text server.description)), some (some (.text server.version)),
          some (Written.readList Package.datum server.packages),
          some (Written.readList Transport.datum server.remotes),
          some (server.repository.map Repository.datum),
          some (Written.readText? server.websiteUrl), attributes].mapM id).map .record =
        attributes.map server.datum := by
    cases attributes <;> rfl
  rw [arranged, Option.map_map]
  split
  next empty =>
    have nothing : server.attributes = [] := List.isEmpty_iff.1 empty
    simp [readMembers, nothing, ofDatum_datum, asBag]
  next =>
    rw [Option.map_map]
    congr 1
    funext attributes
    exact ofDatum_datum ..

end Server

end CatalogSeed
