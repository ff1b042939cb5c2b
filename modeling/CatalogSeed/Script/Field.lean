import CatalogSeed.Files.Rearranging
import CatalogSeed.Script.Pattern
import CatalogSeed.Script.Shell

/-!
From the pieces that a word expands to, to fields: what was filled in without quotes is parted at
separators, and fields that are patterns become the file names they fit.
-/

namespace CatalogSeed.Script

/-- A piece of an expanded word. Loose letters may be separators; a cut always parts fields, a gap
does so as a blank does, and a mark makes a field even where there are no letters. -/
inductive Piece
  | letter (letter : Letter) (loose : Bool)
  | cut
  | gap
  | mark

abbrev Field := List Letter

/-- A field as far as it is gathered, the last letter first. `parted` tells that the field before
it ended with blanks. -/
structure Gathered where
  fields : List Field
  letters : Field
  present : Bool
  parted : Bool

namespace Gathered

def start : Gathered := ⟨[], [], false, false⟩

def finish (gathered : Gathered) : Gathered :=
  if gathered.present then
    { gathered with
      fields := gathered.letters.reverse :: gathered.fields, letters := [], present := false }
  else gathered

def separate (c : Char) (gathered : Gathered) : Gathered :=
  if c = ' ' ∨ c = '\t' ∨ c = '\n' then
    if gathered.present then { gathered.finish with parted := true } else gathered
  else if gathered.present then gathered.finish
  else if gathered.parted then { gathered with parted := false }
  else { gathered with fields := [] :: gathered.fields }

def add (separators : String) (gathered : Gathered) : Piece → Gathered
  | .cut => { gathered.finish with parted := false }
  | .gap => gathered.separate ' '
  | .mark => { gathered with present := true, parted := false }
  | .letter letter loose =>
      if loose && separators.contains letter.char then gathered.separate letter.char
      else
        { gathered with letters := letter :: gathered.letters, present := true, parted := false }

end Gathered

/-- The fields that pieces make with these separators. -/
def fieldsOf (separators : String) (pieces : List Piece) : List Field :=
  (pieces.foldl (Gathered.add separators) .start).finish.fields.reverse

def textOf (field : Field) : String :=
  String.ofList (field.map Letter.char)

/-- Parts a field at its slashes; each part comes with the slashes behind it. -/
def segments : Nat → Field → List (Field × Nat)
  | 0, _ => []
  | _ + 1, [] => []
  | fuel + 1, field =>
      let (segment, rest) := field.span (·.char ≠ '/')
      let slashes := (rest.takeWhile (·.char = '/')).length
      (segment, slashes) :: segments fuel (rest.drop slashes)

/-- The names in a directory, in order. -/
def namesIn (tree : FileTree) (path : String) : List String :=
  match tree.resolve (Octets.toText (if path = "" then "." else path)) with
  | .ok (location, .directory) =>
      let names := (tree.children location).map Octets.ofText
      ("." :: ".." :: names).mergeSort fun a b => a ≤ b
  | _ => []

/-- How file names are found: whether a caret negates, whether names with a point in front count
without being asked for, and whether a pattern that fits none is dropped. -/
structure Naming where
  carets : Bool
  hidden : Bool
  drops : Bool

/-- The paths that begin with one of these and go on as the segments say. -/
def pathsFrom (tree : FileTree) (naming : Naming) (befores : List String) :
    List (Field × Nat) → List String
  | [] => befores.filter fun path => (tree.resolveSelf (Octets.toText path)).isOk
  | (segment, slashes) :: rest =>
      let pattern := Pattern.ofWord naming.carets segment
      let behind := String.ofList (List.replicate slashes '/')
      let befores :=
        if pattern.isActive then
          befores.flatMap fun before =>
            let names := (namesIn tree before).filter fun name =>
              pattern.fits name.toList &&
                (!name.startsWith "." || pattern.head? = some (.one '.') ||
                  (naming.hidden && name ≠ "." && name ≠ ".."))
            names.map fun name => before ++ name ++ behind
        else
          befores.map fun before =>
            before ++ String.ofList (pattern.filterMap fun
              | .one c => some c
              | _ => none) ++ behind
      pathsFrom tree naming befores rest

/-- The file names that a field fits; a field that fits none, or is no pattern, is a text. -/
def namesOf (tree : FileTree) (naming : Naming) (field : Field) : List String :=
  if (Pattern.ofWord naming.carets field).isActive then
    match (pathsFrom tree naming [""] (segments (field.length + 1) field)) with
    | [] => if naming.drops then [] else [textOf field]
    | paths => paths.mergeSort fun a b => a ≤ b
  else [textOf field]

end CatalogSeed.Script
