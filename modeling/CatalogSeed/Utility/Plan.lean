import CatalogSeed.Utility.Basic

/-!
What a utility that runs other programs is about to do: the calls, the environment that they get,
and what becomes of their outcome.
-/

namespace CatalogSeed.Utility

/-- How long calls may take, in nanoseconds, and the signal that ends them then. The status tells of
this end unless it is kept. -/
structure Limit where
  duration : Nat
  signal : Nat
  keepsStatus : Bool
  tells : Bool

/-- Calls that a utility makes one after the other. -/
structure Plan where
  clear : Bool
  dropped : List String
  settings : List (String × String)
  calls : List (List String)
  /-- Whether the utility's status is made of those of all calls, and not the last one's. -/
  gathers : Bool
  limit : Option Limit
  directory : Option (List String)
  readsInput : Bool
  /-- The complaint about a program that cannot be run. -/
  complaint : String → FileError → String
  /-- What is said before the calls. -/
  warnings : List String
  /-- Why there are no more calls. -/
  failure : Option String
  showsCalls : Bool

namespace Plan

def plain (job : Job) (words : List String) : Plan where
  clear := false
  dropped := []
  settings := []
  calls := [words]
  gathers := false
  limit := none
  directory := none
  readsInput := false
  complaint program error := job.name ++ ": " ++ quoted program ++ ": " ++ reason error
  warnings := []
  failure := none
  showsCalls := false

/-- The environment that the calls get. -/
def environment (plan : Plan) (before : List (String × String)) : List (String × String) :=
  let kept := if plan.clear then [] else before.filter fun (name, _) => !plan.dropped.contains name
  plan.settings.foldl (fun known setting =>
    if (known.lookup setting.1).isSome then
      known.map fun entry => if entry.1 = setting.1 then setting else entry
    else known ++ [setting]) kept

end Plan

end CatalogSeed.Utility
