import CatalogSeed.Proofs.Files.Changes

/-!
Directories that are made, and a file that is written: nothing else of what was there is touched,
and the path of the file leads to what was written.
-/

namespace CatalogSeed.FileTree

/-- The process is where it was, and nothing more was written to its output device. -/
def Continues (tree left : FileTree) : Prop :=
  left.workingDirectory = tree.workingDirectory ∧ left.output = tree.output

theorem Continues.trans {tree left last : FileTree} (first : tree.Continues left)
    (second : left.Continues last) : tree.Continues last :=
  ⟨second.1.trans first.1, second.2.trans first.2⟩

theorem continues_change (number : Nat) (edit : Node → Node) (tree : FileTree) :
    tree.Continues (tree.change number edit) := by
  unfold change
  split <;> exact ⟨rfl, rfl⟩

theorem continues_changeAround (place : List String) (tree : FileTree) :
    tree.Continues (tree.changeAround place) := by
  unfold changeAround
  split
  · exact ⟨rfl, rfl⟩
  · exact continues_change _ _ _

theorem continues_addName (place : List String) (number : Nat) (tree : FileTree) :
    tree.Continues (tree.addName place number) := by
  unfold addName
  split
  · exact continues_changeAround place _
  · exact ⟨rfl, rfl⟩

theorem continues_create (place : List String) (item : Item) (mode : Nat) (tree : FileTree) :
    tree.Continues (tree.create place item mode) :=
  continues_addName place tree.made (tree.addNode _)

theorem continues_fill (number : Nat) (content : List UInt8) (tree : FileTree) :
    tree.Continues (tree.fill number content) :=
  continues_change number _ tree

/-- All that was there is still there, and what was added is no regular file. -/
structure Keeps (tree left : FileTree) : Prop where
  there : ∀ location, tree.item? location ≠ none →
    left.seen? location = tree.seen? location ∧ left.number? location = tree.number? location
  added : ∀ location, tree.item? location = none → left.file? location = none
  process : tree.Continues left

variable {tree left last : FileTree} {location : List String}

theorem Keeps.refl (tree : FileTree) : tree.Keeps tree where
  there _ _ := ⟨rfl, rfl⟩
  added location nothing := by
    rw [file?, seen?_of_item?_none nothing]
    rfl
  process := ⟨rfl, rfl⟩

/-- No regular file is made, changed or lost. -/
theorem Keeps.file? (keeps : tree.Keeps left) (location : List String) :
    left.file? location = tree.file? location := by
  by_cases nothing : tree.item? location = none
  · rw [keeps.added location nothing, FileTree.file?, seen?_of_item?_none nothing]
    rfl
  · rw [FileTree.file?, (keeps.there location nothing).1, ← FileTree.file?]

theorem item?_congr (same : left.seen? location = tree.seen? location) :
    left.item? location = tree.item? location := by
  rw [item?_eq_seen?, same, ← item?_eq_seen?]

theorem Keeps.trans (first : tree.Keeps left) (second : left.Keeps last) : tree.Keeps last where
  there location present := by
    obtain ⟨seen, number⟩ := first.there location present
    have still : left.item? location ≠ none := by rwa [item?_congr seen]
    obtain ⟨seenAgain, numberAgain⟩ := second.there location still
    exact ⟨seenAgain.trans seen, numberAgain.trans number⟩
  added location nothing := by
    rw [second.file? location]
    exact first.added location nothing
  process := first.process.trans second.process

/-! Making directories. -/

theorem bind_eq_ok {ε α β : Type} {first : Except ε α} {next : α → Except ε β} {result : β} :
    first >>= next = .ok result ↔ ∃ value, first = .ok value ∧ next value = .ok result := by
  cases first with
  | error error => simp [bind, Except.bind]
  | ok value => simp [bind, Except.bind]

theorem keeps_create {mode : Nat} (vacant : tree.item? location = none) :
    tree.Keeps (tree.create location .directory mode) where
  there other present := by
    have unlike : other ≠ location := by
      rintro rfl
      exact present vacant
    rw [seen?_create, number?_create, if_neg unlike, if_neg unlike]
    exact ⟨rfl, rfl⟩
  added other nothing := by
    rw [FileTree.file?, seen?_create]
    by_cases here : other = location
    · rw [if_pos here]
      rfl
    · rw [if_neg here, seen?_of_item?_none nothing]
      rfl
  process := continues_create location .directory mode tree

theorem keeps_createDirectory {text : String} (made : tree.createDirectory text = .ok left) :
    tree.Keeps left := by
  obtain ⟨path, _, placing⟩ := bind_eq_ok.1 made
  obtain ⟨place, _, making⟩ := bind_eq_ok.1 placing
  cases place with
  | none => contradiction
  | some location =>
      by_cases present : (tree.item? location).isSome
      · simp [present] at making
      · have vacant : tree.item? location = none := by simpa using present
        simp only [vacant, Option.isSome_none, Bool.false_eq_true, if_false] at making
        obtain rfl := Except.ok.inj making
        exact keeps_create vacant

theorem keeps_createFirst (texts : List String) (tree : FileTree) :
    tree.Keeps (createFirst texts tree).2 := by
  induction texts generalizing tree with
  | nil => exact .refl tree
  | cons text outer ih =>
      unfold createFirst
      cases first : tree.createDirectory text with
      | ok left => exact keeps_createDirectory first
      | error error =>
          cases error with
          | notFound =>
              have before := ih tree
              cases above : createFirst outer tree with
              | mk outcome left =>
                  rw [above] at before
                  cases outcome with
                  | error error => exact before
                  | ok _ =>
                      dsimp only
                      cases again : left.createDirectory text with
                      | ok last => exact before.trans (keeps_createDirectory again)
                      | error error => exact before
          | _ => exact .refl tree

theorem keeps_createDirectories (text : String) (tree : FileTree) :
    tree.Keeps (tree.createDirectories text).2 :=
  keeps_createFirst _ tree

/-! Writing a file. -/

/-- Every path that leads somewhere leads there still. -/
structure SameWays (tree left : FileTree) : Prop where
  directory : ∀ location, tree.item? location = some .directory →
    left.item? location = some .directory
  link : ∀ location target, tree.item? location = some (.link target) →
    left.item? location = some (.link target)
  other : ∀ location item, tree.item? location = some item → (∀ target, item ≠ .link target) →
    ∃ found, left.item? location = some found ∧ ∀ target, found ≠ .link target
  added : ∀ location item, tree.item? location = none → left.item? location = some item →
    ∀ target, item ≠ .link target

theorem SameWays.follow (ways : tree.SameWays left) {name : String} {next : List String}
    (found : tree.follow location name = .ok next) : left.follow location name = .ok next := by
  unfold FileTree.follow at found ⊢
  by_cases inside : tree.item? location = some .directory
  · simp only [inside, ne_eq, not_true_eq_false, if_false] at found
    simp only [ways.directory location inside, ne_eq, not_true_eq_false, if_false]
    exact found
  · simp [inside] at found

theorem SameWays.walk (ways : tree.SameWays left) {follows : Bool} {links : Nat}
    {names target : List String} (found : tree.walk follows links location names = .ok target) :
    left.walk follows links location names = .ok target := by
  induction links, location, names using walk.induct tree follows with
  | case1 links location =>
      unfold FileTree.walk at found ⊢
      exact found
  | case2 links location name rest error stuck =>
      rw [FileTree.walk, stuck] at found
      contradiction
  | case3 links location name next stepped nothing =>
      rw [FileTree.walk, stepped] at found
      simp only [nothing, if_true] at found
      rw [FileTree.walk, ways.follow stepped]
      cases there : left.item? next with
      | none => simpa [there] using found
      | some item =>
          have passes := ways.added next item nothing there
          cases item with
          | link target => exact absurd rfl (passes target)
          | _ => simpa [there, FileTree.walk] using found
  | case4 links location name rest next stepped nothing more =>
      rw [FileTree.walk, stepped] at found
      simp [nothing, more] at found
  | case5 links location name rest next stepped target there stays =>
      rw [FileTree.walk, stepped] at found
      simp only [there, stays, if_true] at found
      rw [FileTree.walk, ways.follow stepped]
      simp only [ways.link next target there, stays, if_true]
      exact found
  | case6 location name rest next stepped target there goes =>
      rw [FileTree.walk, stepped] at found
      simp [there, goes] at found
  | case7 links location name rest next stepped target there goes error broken more =>
      rw [FileTree.walk, stepped] at found
      cases links with
      | zero => exact absurd rfl more
      | succ links => simp [there, goes, broken] at found
  | case8 location name rest next stepped target there goes links path parsed ih =>
      rw [FileTree.walk, stepped] at found
      rw [FileTree.walk, ways.follow stepped]
      simp only [there, goes, parsed] at found
      simp only [ways.link next target there, goes, parsed]
      exact ih found
  | case9 links location name rest next stepped item plain there ih =>
      rw [FileTree.walk, stepped] at found
      rw [FileTree.walk, ways.follow stepped]
      obtain ⟨other, present, passes⟩ := ways.other next item there plain
      have onwards : tree.walk follows links next rest = .ok target := by
        cases item with
        | link elsewhere => exact absurd rfl (plain elsewhere)
        | _ => simpa only [there] using found
      have same := ih onwards
      cases other with
      | link elsewhere => exact absurd rfl (passes elsewhere)
      | _ => simpa only [present] using same

theorem resolve_of_parts {text : String} {path : Path} {item : Item}
    (parsed : Path.parse text = .ok path) (found : tree.locate true path = .ok location)
    (held : tree.item? location = some item) : tree.resolve text = .ok (location, item) := by
  unfold resolve lookUp
  simp only [parsed, found, held, bind, Except.bind]

/-- What was found at a path is read there. -/
theorem SameWays.read (ways : tree.SameWays left) (process : tree.Continues left) {path : Path}
    {text : String} (parsed : Path.parse text = .ok path)
    (found : tree.locate true path = .ok location) {content : List UInt8}
    (held : left.item? location = some (.file content)) : left.read text = .ok content := by
  have start : left.startOf path = tree.startOf path := by
    unfold startOf
    rw [process.1]
  have again : left.locate true path = .ok location := by
    unfold locate
    rw [start]
    exact ways.walk found
  unfold FileTree.read readUpTo
  rw [resolve_of_parts parsed again held]
  rfl

/-- A file is stored where a path leads, and no other regular file is touched. What has another
name of the same node is the same file. -/
structure Stored (text : String) (content : List UInt8) (location : List String)
    (tree left : FileTree) : Prop where
  held : left.item? location = some (.file content)
  read : left.read text = .ok content
  mode : ∀ item mode, tree.seen? location = some (item, mode) →
    left.seen? location = some (.file content, mode)
  others : ∀ other, other ≠ location →
    (tree.item? location ≠ none → tree.number? other ≠ tree.number? location) →
    left.file? other = tree.file? other
  process : tree.Continues left

theorem opened_parts {text : String} {there : Option Item}
    (opened : tree.openForWriting text = .ok (location, there)) :
    ∃ path, Path.parse text = .ok path ∧ tree.locate true path = .ok location ∧
      tree.item? location = there := by
  obtain ⟨path, parsed, opening⟩ := bind_eq_ok.1 opened
  refine ⟨path, parsed, ?_⟩
  cases named : path.lastName? with
  | none =>
      simp only [named] at opening
      obtain ⟨_, _, refused⟩ := bind_eq_ok.1 opening
      contradiction
  | some name =>
      cases slash : path.slashAtEnd with
      | true =>
          simp only [named, slash] at opening
          obtain ⟨_, _, refused⟩ := bind_eq_ok.1 opening
          contradiction
      | false =>
          simp only [named, slash] at opening
          obtain ⟨place, found, kept⟩ := bind_eq_ok.1 opening
          split at kept
          · contradiction
          · contradiction
          · obtain ⟨rfl, rfl⟩ := Prod.mk.inj (Except.ok.inj kept)
            exact ⟨found, rfl⟩

theorem openForWriting_of_parts {text name : String} {path : Path} {there : Option Item}
    (parsed : Path.parse text = .ok path)
    (named : path.lastName? = some name) (slash : path.slashAtEnd = false)
    (found : tree.locate true path = .ok location) (held : tree.item? location = there)
    (accessible : there ≠ some .directory ∧ there ≠ some (.device .terminal)) :
    tree.openForWriting text = .ok (location, there) := by
  simp only [openForWriting, parsed, named, slash, found, bind, Except.bind]
  split
  case h_1 directory => exact absurd (held.symm.trans directory) accessible.1
  case h_2 terminal => exact absurd (held.symm.trans terminal) accessible.2
  case h_3 => rw [held]

theorem sameWays_create (vacant : tree.item? location = none) (content : List UInt8)
    (mode : Nat) : tree.SameWays (tree.create location (.file content) mode) := by
  have elsewhere {other : List String} {item : Item} (present : tree.item? other = some item) :
      (tree.create location (.file content) mode).item? other = some item := by
    have unlike : other ≠ location := by
      rintro rfl
      rw [vacant] at present
      contradiction
    rw [item?_create, if_neg unlike, present]
  refine ⟨fun other there => elsewhere there, fun other target there => elsewhere there,
    fun other item there plain => ⟨item, elsewhere there, plain⟩,
    fun other item nothing there target => ?_⟩
  rw [item?_create] at there
  by_cases here : other = location
  · rw [if_pos here] at there
    obtain rfl := Option.some.inj there
    nofun
  · rw [if_neg here, nothing] at there
    contradiction

theorem stored_create {path : Path} {text : String} (parsed : Path.parse text = .ok path)
    (found : tree.locate true path = .ok location) (vacant : tree.item? location = none)
    (content : List UInt8) (mode : Nat) :
    Stored text content location tree (tree.create location (.file content) mode) := by
  have process := continues_create location (.file content) mode tree
  have held : (tree.create location (.file content) mode).item? location =
      some (.file content) := by
    rw [item?_create, if_pos rfl]
  have read := (sameWays_create vacant content mode).read process parsed found held
  refine ⟨held, read, fun item mode present => ?_, fun other different _ => ?_, process⟩
  · rw [seen?_of_item?_none vacant] at present
    contradiction
  · rw [file?, seen?_create, if_neg different, ← file?]

theorem fill_of_isPlain {item : Item} (regular : item.isPlain = true) (content : List UInt8) :
    item.fill content = .file content := by
  cases item with
  | file _ => rfl
  | utility _ => rfl
  | _ => contradiction

section Filling

variable {item : Item} {number : Nat} (there : tree.item? location = some item)
  (regular : item.isPlain = true) (numbered : tree.number? location = some number)
  (content : List UInt8)

include there regular numbered

theorem item?_filled {other : List String} (same : tree.number? other = some number) :
    tree.item? other = some item ∧
      (tree.fill number content).item? other = some (.file content) := by
  have shared : tree.item? other = some item := by
    rw [item?_of_number? (same.trans numbered.symm), there]
  refine ⟨shared, ?_⟩
  rw [item?_fill, if_pos same, shared, Option.map_some, fill_of_isPlain regular]

theorem sameWays_fill : tree.SameWays (tree.fill number content) := by
  have filled := fun other same =>
    @item?_filled tree location item number there regular numbered content other same
  -- No name of the node that is filled is on the way to anything else.
  have kept {other : List String} {passing : Item} (present : tree.item? other = some passing)
      (passes : passing.isPlain = false) :
      (tree.fill number content).item? other = some passing := by
    have unlike : tree.number? other ≠ some number := by
      intro same
      obtain rfl : passing = item := Option.some.inj (present.symm.trans (filled other same).1)
      rw [regular] at passes
      contradiction
    rw [item?_fill, if_neg unlike, present]
  refine ⟨fun other present => kept present rfl, fun other target present => kept present rfl,
    fun other former present plain => ?_, fun other former nothing present target => ?_⟩
  · by_cases same : tree.number? other = some number
    · exact ⟨.file content, (filled other same).2, nofun⟩
    · exact ⟨former, by rw [item?_fill, if_neg same, present], plain⟩
  · have unlike : tree.number? other ≠ some number := by
      intro same
      rw [(filled other same).1] at nothing
      contradiction
    rw [item?_fill, if_neg unlike, nothing] at present
    contradiction

theorem stored_fill {path : Path} {text : String} (parsed : Path.parse text = .ok path)
    (found : tree.locate true path = .ok location) :
    Stored text content location tree (tree.fill number content) := by
  have process := continues_fill number content tree
  have held := (item?_filled there regular numbered content numbered).2
  have read := (sameWays_fill there regular numbered content).read process parsed found held
  refine ⟨held, read, fun former mode present => ?_, fun other _ unlike => ?_, process⟩
  · obtain rfl : former = item := by
      rw [item?_eq_seen?, present] at there
      exact Option.some.inj there
    rw [seen?_fill, if_pos numbered, present, Option.map_some, fill_of_isPlain regular]
  · have apart : tree.number? other ≠ some number := by
      rw [← numbered]
      exact unlike (by simp [there])
    rw [file?, seen?_fill, if_neg apart, ← file?]

end Filling

/-- Whether a place takes a regular file: there is one, or nothing yet. -/
def Takes (there : Option Item) : Prop :=
  ∀ item, there = some item → item.isPlain = true

theorem write_stored {text : String} {there : Option Item}
    (opened : tree.openForWriting text = .ok (location, there)) (takes : Takes there)
    (content : List UInt8) :
    (tree.write text content).1 = .ok () ∧
      Stored text content location tree (tree.write text content).2 := by
  obtain ⟨path, parsed, found, held⟩ := opened_parts opened
  unfold write
  rw [opened]
  cases there with
  | none => exact ⟨rfl, stored_create parsed found held content 0o666⟩
  | some item =>
      have regular := takes item rfl
      obtain ⟨number, numbered⟩ := exists_number? held
      have stored := stored_fill held regular numbered content parsed found
      dsimp only
      rw [numbered]
      cases item with
      | file _ => exact ⟨rfl, stored⟩
      | utility _ => exact ⟨rfl, stored⟩
      | _ => contradiction

/-- What is written to anything else leaves all regular files as they were, and fails only where
there is no space. -/
theorem write_elsewhere {text : String} {item : Item}
    (opened : tree.openForWriting text = .ok (location, some item))
    (loose : item.isPlain = false) {content : List UInt8} (filled : content ≠ []) :
    ((tree.write text content).1 = .ok () ↔ item ≠ .device .full) ∧
      (∀ other, (tree.write text content).2.file? other = tree.file? other) ∧
      (tree.write text content).2.output =
        tree.output ++ if item = .device .output then content else [] := by
  obtain ⟨path, parsed, found, held⟩ := opened_parts opened
  obtain ⟨number, numbered⟩ := exists_number? held
  unfold write
  rw [opened]
  dsimp only
  rw [numbered]
  cases item with
  | file _ => contradiction
  | utility _ => contradiction
  | directory => simp
  | link target => simp
  | pipe written =>
      refine ⟨by simp, fun other => ?_, ?_⟩
      · rw [file?, seen?_fill]
        by_cases same : tree.number? other = some number
        · have shared : tree.number? other = tree.number? location := same.trans numbered.symm
          rw [item?_eq_seen?] at held
          obtain ⟨⟨before, mode⟩, seen, holds⟩ := Option.map_eq_some_iff.1 held
          have pipe : before = .pipe written := holds
          subst pipe
          rw [if_pos same, file?, seen?_of_number? shared, seen]
          rfl
        · rw [if_neg same, ← file?]
      · rw [(continues_fill number content tree).2]
        simp
  | device device =>
      cases device with
      | full => simp [filled]
      | output => exact ⟨by simp, fun _ => rfl, rfl⟩
      | errors => exact ⟨by simp, fun _ => rfl, by simp⟩
      | _ => simp

/-- What was made before does not count: the file is stored as in the tree without it. -/
theorem Stored.of_keeps {made : FileTree} {text : String} {content : List UInt8}
    (keeps : tree.Keeps made) (takes : Takes (made.item? location))
    (stored : Stored text content location made left) :
    Stored text content location tree left where
  held := stored.held
  read := stored.read
  mode item mode present := by
    have there : tree.item? location ≠ none := by
      rw [item?_eq_seen?, present]
      nofun
    exact stored.mode item mode ((keeps.there location there).1.trans present)
  others other different apart := by
    rw [← keeps.file? other]
    refine stored.others other different fun present same => ?_
    -- A regular file that was not made just now has kept its number, and so have its other names.
    have numbered {place : List String} (shared : made.seen? place = made.seen? location) :
        tree.item? place ≠ none ∧ made.number? place = tree.number? place := by
      obtain ⟨item, held⟩ := Option.ne_none_iff_exists'.1 present
      have regular : (made.file? place).isSome := by
        rw [item?_eq_seen?] at held
        obtain ⟨⟨found, mode⟩, seen, rfl⟩ := Option.map_eq_some_iff.1 held
        have plain : found.isPlain = true :=
          takes found (by rw [item?_eq_seen?, seen]; rfl)
        simp [FileTree.file?, shared, seen, plain]
      have before : tree.item? place ≠ none := by
        intro nothing
        rw [keeps.added place nothing] at regular
        contradiction
      exact ⟨before, (keeps.there place before).2⟩
    obtain ⟨there, first⟩ := numbered rfl
    obtain ⟨_, second⟩ := numbered (seen?_of_number? same)
    exact apart there (second.symm.trans (same.trans first))
  process := keeps.process.trans stored.process

end CatalogSeed.FileTree
