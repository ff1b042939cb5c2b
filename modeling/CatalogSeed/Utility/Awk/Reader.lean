import CatalogSeed.Utility.Awk.Token
import CatalogSeed.Utility.Basic

/-!
Reading tokens one by one.
-/

namespace CatalogSeed.Utility.Awk

/-- What is read: the action of a rule for records, one of the first or last rules, or a
function. -/
inductive Scope
  | record
  | edge
  | function
  deriving DecidableEq

/-- The tokens that are left, the number of the last line, and the functions that were called. -/
structure Reader where
  rest : List (Token × Nat)
  lastLine : Nat
  called : List String
  scope : Scope

abbrev Parser := StateT Reader (Except String)

/-- Where expressions stand: whether a greater-than sign compares in them, and whether `in` asks
for an element. -/
structure Place where
  compares : Bool
  asks : Bool

def inside : Place := ⟨true, true⟩

namespace Parser

def complain {α : Type} (message : String) : Parser α := fun reader =>
  let line := (reader.rest.head?.map Prod.snd).getD reader.lastLine
  .error ("line " ++ decimal line ++ ": " ++ message)

/-- The complaint about the next token. -/
def fail {α : Type} : Parser α := fun reader =>
  match reader.rest with
  | [] => .error ("line " ++ decimal (reader.lastLine + 1) ++ ": missing \x7d near end of file")
  | (token, _) :: _ => complain ("syntax error at or near " ++ token.shown) reader

def peek? : Parser (Option Token) := fun reader =>
  .ok (reader.rest.head?.map Prod.fst, reader)

def skip : Parser Unit :=
  modify fun reader => { reader with rest := reader.rest.drop 1 }

def sees (text : String) : Parser Bool :=
  return ((← peek?).map (·.isSign text)).getD false

def seesWord (text : String) : Parser Bool :=
  return ((← peek?).map (·.isWord text)).getD false

/-- Takes a sign if it comes next. -/
def takes (text : String) : Parser Bool := do
  let found ← sees text
  if found then skip
  return found

def expect (text : String) : Parser Unit := do
  unless ← takes text do fail

def isLineEnd : Token → Bool
  | .lineEnd => true
  | _ => false

def skipLines : Parser Unit :=
  modify fun reader => { reader with rest := reader.rest.dropWhile fun (t, _) => isLineEnd t }

/-- Goes on behind the end of a statement, which may also be a closing brace that is left. -/
def endStatement : Parser Unit := do
  match ← peek? with
  | some (.sign ";") | some .lineEnd =>
      skip
      skipLines
  | some (.sign "\x7d") => return
  | none => return
  | _ => fail

def takeName : Parser String := do
  match ← peek? with
  | some (.name name) | some (.function name) =>
      skip
      return name
  | _ => fail

end Parser

end CatalogSeed.Utility.Awk
