import CatalogSeed.KeyMap
import CatalogSeed.Json.Basic

/-!
Catalogs of packaged servers. Whatever a document leaves out is empty here.
-/

namespace CatalogSeed

structure Tool where
  name : String

structure Metadata where
  pulls : Int64
  stars : Int64
  githubStars : Int64
  category : String
  tags : List String
  license : String
  owner : String

/-- A secret is named, and reaches the server through a variable of its environment. -/
structure Secret where
  name : String
  env : String
  sample : String

structure EnvVar where
  name : String
  value : String

/-- A named group of properties, each with the schema of its value. -/
structure ConfigBlock where
  name : String
  description : String
  type : String
  properties : Bag
  required : List String

/-- How a hosted server is reached. -/
structure Remote where
  transportType : String
  url : String
  headers : KeyMap String

structure OAuthProvider where
  provider : String
  secret : String
  env : String

structure OAuth where
  providers : List OAuthProvider

structure Entry where
  description : String
  title : String
  type : String
  dateAdded : String
  image : String
  ref : String
  readme : String
  toolsUrl : String
  source : String
  upstream : String
  icon : String
  tools : List Tool
  prompts : Int64
  resources : Bag
  metadata : Metadata
  secrets : List Secret
  env : List EnvVar
  command : List String
  volumes : List String
  config : List ConfigBlock
  remote : Option Remote
  user : Option String
  longLived : Bool
  allowHosts : List String
  oauth : Option OAuth

/-- The type of entries for servers that somebody else hosts. -/
def remoteType : String := "remote"

namespace Entry

def isRemote (entry : Entry) : Bool :=
  entry.type = remoteType

/-- The user to run as; an empty one counts as none. -/
def user? (entry : Entry) : Option String :=
  entry.user.filter (· ≠ "")

def upstream? (entry : Entry) : Option String :=
  some entry.upstream |>.filter (· ≠ "")

end Entry

structure Catalog where
  name : String
  displayName : String
  registry : KeyMap Entry

namespace Catalog

def empty : Catalog := ⟨"", "", .empty⟩

def get? (catalog : Catalog) (name : String) : Option Entry :=
  catalog.registry.get? name

end Catalog

end CatalogSeed
