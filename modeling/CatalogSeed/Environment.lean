/-!
The environment that programs run in: names and what they stand for.
-/

namespace CatalogSeed

abbrev Environment := List (String × String)

/-- What a name stands for. An entry is a text with an equals sign behind its name, and a name that
has an equals sign itself can reach into the value of one. -/
def Environment.find? (environment : Environment) (name : String) : Option String :=
  let front := (name ++ "=").toList
  if name = "" then none
  else environment.findSome? fun (other, value) =>
    let whole := (other ++ "=" ++ value).toList
    if front.isPrefixOf whole then some (String.ofList (whole.drop front.length)) else none

/-- The variables that are set wherever the program runs. -/
def Environment.standard : Environment := [
  ("HOME", "/root"),
  ("PATH", "/usr/local/sbin:/usr/local/bin:/usr/sbin:/usr/bin:/sbin:/bin")]

/-- An environment with the standard variables that it does not set itself. -/
def Environment.complete (environment : Environment) : Environment :=
  environment ++ standard.filter fun (name, _) => (environment.lookup name).isNone

end CatalogSeed
