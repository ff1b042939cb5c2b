import CatalogSeed.Source

/-!
Work on catalogs and seeds step by step, in a tree of files. A step that fails leaves the catalog
and the servers as they were.
-/

namespace CatalogSeed

structure Session where
  catalog : Catalog
  includeRemote : Bool
  servers : List Server
  tree : FileTree

namespace Session

def start : Session := ⟨.empty, false, [], .fresh⟩

def load (document : List UInt8) (session : Session) : Except SeedError Catalog × Session :=
  match Catalog.decode document with
  | .ok catalog => (.ok catalog, { session with catalog })
  | .error error => (.error (.document error), session)

def loadFrom (source : Source) (session : Session) : Except SeedError Catalog × Session :=
  match source.load Environment.standard session.tree with
  | (.ok catalog, tree) => (.ok catalog, { session with catalog, tree })
  | (.error error, tree) => (.error error, { session with tree })

def build (session : Session) : Session :=
  { session with servers := Seed.build session.includeRemote session.catalog }

def write (path : String) (session : Session) : Except SeedError Nat × Session :=
  let (written, tree) := Seed.write path session.servers session.tree
  (written, { session with tree })

/-- Why a seed could not be read back. -/
inductive ReadError
  | file (path : String) (error : FileError)
  | document (error : DocumentError)

def readSeed (path : String) (session : Session) : Except ReadError (List Server) := do
  let content ← (session.tree.read path).mapError (.file path)
  (Seed.decode content).mapError .document

end Session

end CatalogSeed
