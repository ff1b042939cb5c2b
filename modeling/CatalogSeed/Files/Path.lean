import CatalogSeed.Text.Utf8

/-!
Paths as texts: slashes between names, repeated ones counting once. The parent of a path is what
stands before its last name.
-/

namespace CatalogSeed

inductive FileError
  | notAllowed
  | notFound
  | noDevice
  | notPermitted
  | badFormat
  | alreadyThere
  | notDirectory
  | isDirectory
  | noSpace
  | nameTooLong
  | notEmpty
  | endless
  | zeroInName
  deriving DecidableEq

def FileError.message : FileError → String
  | .notAllowed => "Operation not permitted (os error 1)"
  | .notFound => "No such file or directory (os error 2)"
  | .noDevice => "No such device or address (os error 6)"
  | .notPermitted => "Permission denied (os error 13)"
  | .badFormat => "Exec format error (os error 8)"
  | .alreadyThere => "File exists (os error 17)"
  | .notDirectory => "Not a directory (os error 20)"
  | .isDirectory => "Is a directory (os error 21)"
  | .noSpace => "No space left on device (os error 28)"
  | .nameTooLong => "File name too long (os error 36)"
  | .notEmpty => "Directory not empty (os error 39)"
  | .endless => "Too many levels of symbolic links (os error 40)"
  | .zeroInName => "file name contained an unexpected NUL byte"

/-- A path taken apart. A slash at the end wants what the names lead to to be a directory. -/
structure Path where
  absolute : Bool
  names : List String
  slashAtEnd : Bool
  deriving DecidableEq

namespace Path

def longestName : Nat := 255

def longestPath : Nat := 4095

def parse (text : String) : Except FileError Path :=
  let chars := text.toList
  if chars = [] then .error .notFound
  else if '\x00' ∈ chars then .error .zeroInName
  else if longestPath < text.utf8ByteSize then .error .nameTooLong
  else
    let names := (chars.splitOn '/').filter (· ≠ [])
    .ok ⟨chars.head? = some '/', names.map String.ofList, chars.getLast? = some '/'⟩

/-- The names to follow; a slash at the end stands for one more step, into the directory. -/
def steps (path : Path) : List String :=
  path.names ++ if path.slashAtEnd then ["."] else []

/-- The last name, unless it is a point or two, which name a directory by where it is. -/
def lastName? (path : Path) : Option String :=
  path.names.getLast?.filter fun name => name ≠ "." && name ≠ ".."

/-- Takes off the last segment of a path written backwards, with the slash before it. -/
def dropSegment (backwards : List Char) : List Char × List Char :=
  match backwards.span (· ≠ '/') with
  | (segment, []) => (segment, [])
  | (segment, _ :: rest) => (segment, rest)

/-- Takes off segments at the end that are empty or a single point. -/
def dropIdle : Nat → List Char → List Char
  | 0, backwards => backwards
  | fuel + 1, backwards =>
      if backwards = [] then []
      else match dropSegment backwards with
        | ([], rest) => dropIdle fuel rest
        | (['.'], rest) => dropIdle fuel rest
        | _ => backwards

/-- The path without its last name; a path that is a lone name or point has an empty parent, the
root and the empty path have none. -/
def parent? (text : String) : Option String :=
  let chars := text.toList
  let (start, body) := match chars with
    | '/' :: rest => (['/'], rest)
    | ['.'] => (['.'], [])
    | '.' :: '/' :: rest => (['.'], '/' :: rest)
    | rest => ([], rest)
  let fuel := chars.length
  match dropIdle fuel body.reverse with
  | [] => if start = ['.'] then some "" else none
  | backwards =>
      some (String.ofList (start ++ (dropIdle fuel (dropSegment backwards).2).reverse))

/-- The path, its parent, the parent's parent and so on, as long as there is something to name. -/
def ancestors : Nat → String → List String
  | 0, _ => []
  | fuel + 1, text =>
      if text = "" then []
      else text :: match parent? text with
        | none => []
        | some parent => ancestors fuel parent

end Path

end CatalogSeed
