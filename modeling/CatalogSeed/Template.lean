import CatalogSeed.ConfigIndex
import CatalogSeed.Registry.Basic

/-!
Templates: texts with placeholders in doubled braces. A placeholder opens at the first doubled
opening brace and ends at the nearest doubled closing brace behind it; an opening without an end
is plain text, and so is all behind it.
-/

namespace CatalogSeed

structure Placeholder where
  name : String
  modifiers : List String
  deriving DecidableEq

/-- Bars part the content into a name and its modifiers. -/
def Placeholder.ofContent (content : List Char) : Placeholder :=
  match content.splitOn '|' with
  | [] => ⟨"", []⟩
  | name :: modifiers => ⟨String.ofList name, modifiers.map String.ofList⟩

/-- Literals and placeholder contents in turn, and what follows the last placeholder. -/
structure Template where
  pieces : List (List Char × List Char)
  tail : List Char
  deriving DecidableEq

namespace Template

/-- Cuts a text at the first place where a character stands twice. -/
def cut (mark : Char) : List Char → Option (List Char × List Char)
  | [] => none
  | [_] => none
  | first :: second :: rest =>
      if first = mark ∧ second = mark then some ([], rest)
      else (cut mark (second :: rest)).map fun (before, behind) => (first :: before, behind)

theorem eq_of_cut {mark : Char} {text before behind : List Char}
    (found : cut mark text = some (before, behind)) : text = before ++ mark :: mark :: behind := by
  fun_induction cut mark text generalizing before with
  | case1 => contradiction
  | case2 => contradiction
  | case3 first second rest doubled =>
      obtain ⟨rfl, rfl⟩ := doubled
      simp only [Option.some.injEq, Prod.mk.injEq] at found
      obtain ⟨rfl, rfl⟩ := found
      rfl
  | case4 first second rest _ ih =>
      simp only [Option.map_eq_some_iff, Prod.mk.injEq] at found
      obtain ⟨⟨inner, _⟩, later, rfl, rfl⟩ := found
      simp [ih later]

def ofChars (raw : List Char) : Template :=
  match opening : cut '{' raw with
  | none => ⟨[], raw⟩
  | some (literal, opened) =>
      match closing : cut '}' opened with
      | none => ⟨[], raw⟩
      | some (content, rest) =>
          have : rest.length < raw.length := by
            rw [eq_of_cut opening, eq_of_cut closing]
            simp only [List.length_append, List.length_cons]
            omega
          let later := ofChars rest
          ⟨(literal, content) :: later.pieces, later.tail⟩
termination_by raw.length

def parse (raw : String) : Template :=
  ofChars raw.toList

/-- Whether a text holds a placeholder: an opening, and an ending somewhere behind it. -/
def hasPlaceholders (raw : String) : Bool :=
  match cut '{' raw.toList with
  | none => false
  | some (_, opened) => (cut '}' opened).isSome

/-- Replaces what stands doubled, from left to right, by one of it. -/
def halve (mark : Char) : List Char → List Char
  | [] => []
  | [last] => [last]
  | first :: second :: rest =>
      if first = mark ∧ second = mark then mark :: halve mark rest
      else first :: halve mark (second :: rest)

/-- Plain text with its doubled braces made single. -/
def collapse (text : List Char) : List Char :=
  halve '}' (halve '{' text)

def placeholders (template : Template) : List Placeholder :=
  template.pieces.map fun (_, content) => .ofContent content

/-- A placeholder as it stands in the canonical value: its name in single braces. -/
def token (placeholder : Placeholder) : List Char :=
  '{' :: (placeholder.name.toList ++ ['}'])

def canonicalChars (template : Template) : List Char :=
  template.pieces.flatMap (fun (literal, content) =>
    collapse literal ++ token (.ofContent content)) ++ collapse template.tail

/-- The text in which every variable is a name in single braces. -/
def canonical (template : Template) : String :=
  String.ofList template.canonicalChars

/-- Declares every name once, described as the index has it. -/
def vars (template : Template) (index : ConfigIndex) : Variables :=
  .ofList <| template.placeholders.map fun placeholder =>
    (placeholder.name, .plain (index.description? placeholder.name))

end Template

end CatalogSeed
