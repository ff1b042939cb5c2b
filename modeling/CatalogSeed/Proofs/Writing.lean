import Mathlib
import CatalogSeed.Proofs.Document.Quoted
import CatalogSeed.Proofs.Files.Storing
import CatalogSeed.Source

/-!
Writing a seed: the directories that its path needs are made, then the seed is stored where the path
leads, or nothing is.
-/

namespace CatalogSeed

open FileTree

namespace Seed

/-- Makes the directories that a path needs. -/
def prepare (path : String) (tree : FileTree) : Except FileError Unit × FileTree :=
  let parent := (Path.parent? path).getD ""
  if parent = "" then (.ok (), tree) else tree.createDirectories parent

theorem keeps_prepare (path : String) (tree : FileTree) :
    tree.Keeps (prepare path tree).2 := by
  unfold prepare
  dsimp only
  split
  · exact .refl tree
  · exact keeps_createDirectories _ tree

theorem write_eq (path : String) (servers : List Server) (tree : FileTree) :
    write path servers tree =
      match prepare path tree with
      | (.error error, made) => (.error (.file ((Path.parent? path).getD "") error), made)
      | (.ok (), made) =>
          match made.write path (Utf8.encode (encode servers)) with
          | (.error error, last) => (.error (.file path error), last)
          | (.ok (), last) => (.ok (Utf8.encode (encode servers)).length, last) := by
  unfold write prepare
  dsimp only
  generalize (if (Path.parent? path).getD "" = "" then (.ok (), tree)
    else tree.createDirectories ((Path.parent? path).getD "") : Except FileError Unit × FileTree) =
    prepared
  obtain ⟨created, made⟩ := prepared
  cases created <;> rfl

/-- The path of a seed can be opened for writing, after the directories that it needs were made. -/
def Opens (path : String) (tree : FileTree) (location : List String) (there : Option Item) : Prop :=
  ∃ made, prepare path tree = (.ok (), made) ∧ made.openForWriting path = .ok (location, there)

section Writing

variable {path : String} {tree : FileTree} {location : List String} {there : Option Item}

theorem Opens.unique {other : List String} {found : Option Item}
    (opens : Opens path tree location there) (again : Opens path tree other found) :
    location = other ∧ there = found := by
  obtain ⟨made, prepared, opened⟩ := opens
  obtain ⟨remade, preparedAgain, openedAgain⟩ := again
  rw [prepared] at preparedAgain
  obtain ⟨_, rfl⟩ := Prod.mk.inj preparedAgain
  rw [opened] at openedAgain
  exact Prod.mk.inj (Except.ok.inj openedAgain)

theorem encode_ne_nil (servers : List Server) : Utf8.encode (encode servers) ≠ [] := by
  rw [encode, Utf8.encode_ofList, toJson]
  cases servers.map Server.toJson with
  | nil => simp [Json.pretty, Utf8.bytes_cons]
  | cons first others => simp [Json.pretty, Utf8.bytes_cons]

theorem write_closed (servers : List Server)
    (closed : ∀ location there, ¬ Opens path tree location there) :
    ∃ error last, write path servers tree = (.error error, last) ∧ tree.Keeps last := by
  have keeps := keeps_prepare path tree
  rw [write_eq]
  cases prepared : prepare path tree with
  | mk created made =>
      rw [prepared] at keeps
      cases created with
      | error error => exact ⟨_, _, rfl, keeps⟩
      | ok _ =>
          cases opened : made.openForWriting path with
          | error error =>
              exact ⟨.file path error, made, by simp only [FileTree.write, opened], keeps⟩
          | ok place => exact absurd ⟨made, prepared, opened⟩ (closed place.1 place.2)

theorem write_opened (servers : List Server) (opens : Opens path tree location there) :
    ∃ made, tree.Keeps made ∧ made.openForWriting path = .ok (location, there) ∧
      write path servers tree =
        (((made.write path (Utf8.encode (encode servers))).1.map fun _ =>
            (Utf8.encode (encode servers)).length).mapError (.file path),
          (made.write path (Utf8.encode (encode servers))).2) := by
  have keeps := keeps_prepare path tree
  obtain ⟨made, prepared, opened⟩ := opens
  rw [prepared] at keeps
  refine ⟨made, keeps, opened, ?_⟩
  rw [write_eq, prepared]
  dsimp only
  obtain ⟨outcome, last⟩ := made.write path (Utf8.encode (encode servers))
  cases outcome <;> rfl

/-- A seed goes into the regular file that its path leads to. -/
theorem write_takes (servers : List Server) (opens : Opens path tree location there)
    (takes : Takes there) :
    ∃ size last, write path servers tree = (.ok size, last) ∧
      Stored path (Utf8.encode (encode servers)) location tree last := by
  obtain ⟨made, keeps, opened, written⟩ := write_opened servers opens
  obtain ⟨success, stored⟩ := write_stored opened takes (Utf8.encode (encode servers))
  obtain ⟨_, _, _, held⟩ := opened_parts opened
  rw [success] at written
  exact ⟨_, _, written, stored.of_keeps keeps (held ▸ takes)⟩

/-- A seed that goes elsewhere is in no regular file. -/
theorem write_loose (servers : List Server) {item : Item}
    (opens : Opens path tree location (some item)) (loose : item.isPlain = false) :
    ∃ result last, write path servers tree = (result, last) ∧
      ((∃ size, result = .ok size) ↔ item ≠ .device .full) ∧
      (∀ other, last.file? other = tree.file? other) ∧
      last.output = tree.output ++
        if item = .device .output then Utf8.encode (encode servers) else [] := by
  obtain ⟨made, keeps, opened, written⟩ := write_opened servers opens
  obtain ⟨success, same, output⟩ := write_elsewhere opened loose (encode_ne_nil servers)
  refine ⟨_, _, written, ?_, fun other => (same other).trans (keeps.file? other), ?_⟩
  · rw [← success]
    cases (made.write path (Utf8.encode (encode servers))).1 with
    | error error => simp [Except.map, Except.mapError]
    | ok _ => simp [Except.map, Except.mapError]
  · rw [output, keeps.process.2]

end Writing

end Seed

end CatalogSeed
