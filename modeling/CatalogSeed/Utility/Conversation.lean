import CatalogSeed.Utility.Basic

/-!
Utilities that have other programs run on their way. Such a utility is taken anew with the replies
to what it has asked for so far, until it asks for nothing more.
-/

namespace CatalogSeed.Utility

/-- A program that is to be run, perhaps in another directory and with a text as its input; its
output may be wanted. -/
structure Request where
  words : List String
  input : Option String
  captures : Bool
  directory : Option (List String)

/-- What became of a request; `missing` tells why nothing could be run, and `signal` what ended
it. -/
structure Reply where
  output : List Char
  status : Nat
  missing : Option FileError
  signal : Option Nat
  tree : FileTree

/-- Where a utility has got to: to its end, or to a program that has to be run before it goes
on. -/
inductive Progress
  | done (result : Result)
  | asks (request : Request) (result : Result)

end CatalogSeed.Utility
