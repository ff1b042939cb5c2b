import CatalogSeed.Files.FileTree
import CatalogSeed.Script.Reader
import CatalogSeed.Text.Octets

/-!
What a program file is: a utility, a shell, or a script that names the program to run it with.
-/

namespace CatalogSeed

/-- A program that can be run, with the name it goes by and the words it is given. -/
inductive Program
  | shell (dialect : Script.Dialect) (name : String) (words : List String)
  | utility (kind name : String) (words : List String)

/-- A program that was looked for by a name and found at a path goes by that name, unless the path
names an interpreter. -/
def Program.lookedFor (name path : String) : Program → Program
  | .shell dialect called words => .shell dialect (if called = path then name else called) words
  | .utility kind called words => .utility kind (if called = path then name else called) words

namespace FileTree

/-- How much of a script is looked at for its interpreter. -/
def interpreterLine : Nat := 256

/-- The interpreter and its argument that the first line of a file asks for. -/
def interpreter? (content : List UInt8) : Option (String × Option String) :=
  match content with
  | 0x23 :: 0x21 :: rest =>
      let line := (rest.take (interpreterLine - 2)).takeWhile fun b => b ≠ 0x0A
      let line := ((Octets.ofBytes line).toList.dropWhile Script.isBlank).reverse
      let line := (line.dropWhile Script.isBlank).reverse
      let (path, rest) := line.span fun c => !Script.isBlank c && c ≠ '\x00'
      let argument := (rest.dropWhile Script.isBlank).takeWhile (· ≠ '\x00')
      if path = [] then none
      else some (String.ofList path, if argument = [] then none else some (String.ofList argument))
  | _ => none

/-- The program that a path leads to, for a call with these words. A script is given to its
interpreter, which may be a script too, but not without end. -/
def programAt (tree : FileTree) : Nat → String → List String → Except FileError Program
  | 0, _, _ => .error .endless
  | fuel + 1, path, words => do
      match ← tree.resolve (Octets.toText path) with
      | (_, .utility "sh") => .ok (.shell .plain path words)
      | (_, .utility "bash") => .ok (.shell .extended path words)
      | (_, .utility utility) => .ok (.utility utility path words)
      | (_, .file content) =>
          if !(← tree.nodeAt (Octets.toText path)).isRunnable then .error .notPermitted
          else match interpreter? content with
          | none => .error .badFormat
          | some (interpreter, argument) =>
              tree.programAt fuel interpreter (argument.toList ++ path :: words)
      | _ => .error .notPermitted

/-- How many interpreters can stand behind one another. -/
def longestChain : Nat := 6

def program (tree : FileTree) (path : String) (words : List String) : Except FileError Program :=
  tree.programAt longestChain path words

end FileTree

end CatalogSeed
