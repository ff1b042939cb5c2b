import CatalogSeed.KeyMap
import CatalogSeed.Json.Basic

/-!
Server descriptors of the registry, and how they are put together.
-/

namespace CatalogSeed

/-- What is asked of whoever fills in a variable. -/
structure VariableSchema where
  isSecret : Bool
  isRequired : Bool
  format : Option String
  description : Option String
  deriving DecidableEq

namespace VariableSchema

def plainFormat : String := "string"

def plain (description : Option String) : VariableSchema :=
  ⟨false, false, some plainFormat, description⟩

def secret : VariableSchema := ⟨true, true, none, none⟩

end VariableSchema

abbrev Variables := KeyMap VariableSchema

/-- A named value: a variable of the environment, or a header. -/
structure NamedValue where
  name : String
  value : String
  description : Option String
  isRequired : Bool
  isSecret : Bool
  isRepeated : Bool
  vars : Variables
  deriving DecidableEq

def NamedValue.new (name value : String) (vars : Variables) : NamedValue :=
  ⟨name, value, none, false, false, false, vars⟩

inductive ArgumentType
  | positional
  | named
  deriving DecidableEq

structure Argument where
  type : ArgumentType
  name : String
  value : String
  isRequired : Bool
  isSecret : Bool
  isRepeated : Bool
  vars : Variables
  deriving DecidableEq

namespace Argument

def positional (value : String) (vars : Variables) : Argument :=
  ⟨.positional, "", value, false, false, false, vars⟩

def named (name value : String) (vars : Variables) : Argument :=
  ⟨.named, name, value, false, false, false, vars⟩

end Argument

structure Transport where
  type : String
  url : Option String
  headers : List NamedValue
  deriving DecidableEq

namespace Transport

def stdioType : String := "stdio"

def stdio : Transport := ⟨stdioType, none, []⟩

end Transport

structure Package where
  registryType : String
  transport : Transport
  identifier : String
  version : Option String
  environmentVariables : List NamedValue
  packageArguments : List Argument
  runtimeArguments : List Argument
  runtimeHint : Option String
  deriving DecidableEq

namespace Package

def addVariable (named : NamedValue) (package : Package) : Package :=
  { package with environmentVariables := package.environmentVariables ++ [named] }

def addArgument (argument : Argument) (package : Package) : Package :=
  { package with packageArguments := package.packageArguments ++ [argument] }

def addRuntimeArgument (argument : Argument) (package : Package) : Package :=
  { package with runtimeArguments := package.runtimeArguments ++ [argument] }

def ociType : String := "oci"

def dockerHint : String := "docker"

/-- A container image, talked to over its standard streams. -/
def oci (image : String) : Package :=
  ⟨ociType, .stdio, image, none, [], [], [], none⟩

end Package

structure Repository where
  url : String
  source : String
  subfolder : Option String
  deriving DecidableEq

namespace Repository

/-- Whether a text holds a part somewhere. -/
def holds (part : List Char) : List Char → Bool
  | [] => part.isEmpty
  | c :: rest => part.isPrefixOf (c :: rest) || holds part rest

/-- The host that a repository seems to be on. -/
def sourceOf (url : String) : String :=
  if holds "github.com".toList url.toList then "github"
  else if holds "gitlab.com".toList url.toList then "gitlab"
  else ""

def ofUrl (url : String) : Repository := ⟨url, sourceOf url, none⟩

end Repository

structure Server where
  schema : String
  name : String
  description : String
  version : String
  packages : List Package
  remotes : List Transport
  repository : Option Repository
  websiteUrl : Option String
  attributes : Bag

namespace Server

def schemaUrl : String :=
  "https://static.modelcontextprotocol.io/schemas/2025-10-17/server.schema.json"

def seedVersion : String := "v0.1.0"

/-- The key of the attributes that come from whoever publishes the server. -/
def publisherKey : String := "io.modelcontextprotocol.registry/publisher-provided"

def longestDescription : Nat := 100

/-- The namespace that all names are put under. -/
def registryNamespace : String := "com.docker.mcp"

def nameOf (key : String) : String := registryNamespace ++ "/" ++ key

/-- Cuts a description that is too long, so that it ends in three dots. -/
def truncate (description : String) : String :=
  let text := description.toList
  if text.length ≤ longestDescription then description
  else String.ofList (text.take (longestDescription - 3)) ++ "..."

/-- A descriptor without any transport yet. -/
def new (name description : String) : Server :=
  ⟨schemaUrl, name, description, seedVersion, [], [], none, none, []⟩

def addPackage (package : Package) (server : Server) : Server :=
  { server with packages := server.packages ++ [package] }

def addRemote (transport : Transport) (server : Server) : Server :=
  { server with remotes := server.remotes ++ [transport] }

/-- Changes the package that was added last; `none` without packages. -/
def changePackage? (change : Package → Package) (server : Server) : Option Server :=
  server.packages.getLast?.map fun package =>
    { server with packages := server.packages.dropLast ++ [change package] }

def isRemote (server : Server) : Bool :=
  !server.remotes.isEmpty

def publisherProvided? (server : Server) : Option Bag :=
  (server.attributes.get? publisherKey).bind Json.asObject?

/-- Equality, without regard to the order of members of the open attributes. -/
def same (left right : Server) : Bool :=
  left.schema = right.schema ∧ left.name = right.name ∧ left.description = right.description ∧
    left.version = right.version ∧ left.packages = right.packages ∧
    left.remotes = right.remotes ∧ left.repository = right.repository ∧
    left.websiteUrl = right.websiteUrl ∧ left.attributes.same right.attributes

def sameAll (lefts rights : List Server) : Bool :=
  lefts.length = rights.length && (lefts.zip rights).all fun (left, right) => left.same right

end Server

end CatalogSeed
