import CatalogSeed.Descriptor

/-!
Seeds: the descriptors of a catalog's entries in the order of their keys, and their text.
-/

namespace CatalogSeed.Seed

/-- Hosted servers are taken in only when asked for. -/
def build (includeRemote : Bool) (catalog : Catalog) : List Server :=
  (catalog.registry.entries.filter fun (_, entry) => includeRemote || !entry.isRemote).map
    fun (key, entry) => .ofEntry key entry

def toJson (servers : List Server) : Json :=
  .array (servers.map Server.toJson)

def encode (servers : List Server) : String :=
  String.ofList ((toJson servers).pretty 0)

def decode (document : List UInt8) : Except DocumentError (List Server) :=
  (Document.read (.list Server.kind) document).map fun servers =>
    Datum.asList Server.ofDatum (some servers)

end CatalogSeed.Seed
