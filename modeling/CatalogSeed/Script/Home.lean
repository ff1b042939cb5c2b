import CatalogSeed.Files.Owner
import CatalogSeed.Script.Field

/-!
Home directories, which a tilde at the front of a word stands for.
-/

namespace CatalogSeed.Script

/-- The directory that a tilde with a name behind it stands for: without a name the user's own one,
in the extended dialect with a sign the one that the shell is or was in. -/
def homeOf? (name : String) : Run (Option String) := do
  let extended ← Run.isExtended
  if name = "" then
    return (← Run.lookup? "HOME").or (if extended then some "/root" else none)
  else if name = "+" ∧ extended then Run.lookup? "PWD"
  else if name = "-" ∧ extended then Run.lookup? "OLDPWD"
  else return (← get).world.tree.homeOf? name

/-- Where tildes stand for directories: nowhere, at the front of a word, or behind colons too. -/
inductive Tildes
  | nowhere
  | atFront
  | atColons
  deriving DecidableEq

/-- A text with a directory for the tilde at its front. The name behind the tilde ends with the
text only if nothing follows this. -/
def homely (closed : Bool) (text : List Char) : Run (List Piece) := do
  let plain := text.map fun c => Piece.letter ⟨c, false⟩ false
  let (name, behind) := (text.drop 1).span (· ≠ '/')
  if text.head? ≠ some '~' || (behind = [] && !closed) then return plain
  else match ← homeOf? (String.ofList name) with
    | none => return plain
    | some home =>
        let letters := home.toList.map fun c => Piece.letter ⟨c, true⟩ false
        let trace := if home = "" && (← Run.isExtended) then [Piece.mark] else []
        return letters ++ trace ++ behind.map fun c => .letter ⟨c, false⟩ false

/-- The pieces of a text without quotes, which may be the front or the end of a word. -/
def Tildes.pieces (tildes : Tildes) (front ends : Bool) (text : String) : Run (List Piece) := do
  match tildes with
  | .nowhere => return text.toList.map fun c => .letter ⟨c, false⟩ false
  | .atFront =>
      if front then homely ends text.toList
      else return text.toList.map fun c => .letter ⟨c, false⟩ false
  | .atColons => do
      let segments := text.toList.splitOn ':'
      let parts ← segments.zipIdx.mapM fun (segment, index) =>
        if front || 0 < index then homely (index + 1 < segments.length || ends) segment
        else return segment.map fun c => .letter ⟨c, false⟩ false
      return [Piece.letter ⟨':', false⟩ false].intercalate parts

end CatalogSeed.Script
