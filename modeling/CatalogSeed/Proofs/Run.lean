import CatalogSeed.Proofs.Acceptance
import CatalogSeed.Proofs.Writing
import CatalogSeed.Run

/-!
One run of the program: it stores a whole seed and says so, or it fails and leaves every regular
file as it was.
-/

namespace CatalogSeed

open FileTree

theorem FileTree.output_runProgram (program : String) (words : List String)
    (environment : Environment) (tree : FileTree) :
    (tree.runProgram program words environment).2.output = tree.output := by
  unfold runProgram
  split <;> rfl

namespace Settings

variable {settings : Settings} {tree : FileTree}
  {ended : Except StartError Ending × FileTree}

/-- The tree that a run goes on in: the program, if it is asked, may leave another one. -/
def onward (settings : Settings) (tree : FileTree) (ended : Except StartError Ending × FileTree) :
    FileTree :=
  match settings.source with
  | .file _ => tree
  | .program _ => ended.2

def document (settings : Settings) (tree : FileTree)
    (ended : Except StartError Ending × FileTree) : Except SeedError (List UInt8) :=
  match settings.source with
  | .file path => (tree.read path).mapError (.file path)
  | .program _ => settings.source.outputOf ended.1

/-- What is made of the document. -/
def deliver (settings : Settings) (document : Except SeedError (List UInt8)) (left : FileTree) :
    Outcome × FileTree :=
  match document.bind fun bytes => (Catalog.decode bytes).mapError .document with
  | .error error => (.failed settings.loading error, left)
  | .ok catalog =>
      match Seed.write settings.output (Seed.build settings.includeRemote catalog) left with
      | (.error error, last) => ((Outcome.failed settings.writing error).behind last, last)
      | (.ok _, last) => ((Outcome.created settings.output).behind last, last)

/-- A run whose program, if it is asked, ends like this. -/
def runAfter (settings : Settings) (tree : FileTree)
    (ended : Except StartError Ending × FileTree) : Outcome × FileTree :=
  settings.deliver (settings.document tree ended) (settings.onward tree ended)

theorem run_eq_deliver (settings : Settings) (environment : Environment) (tree : FileTree) :
    settings.run environment tree =
      settings.deliver (settings.source.document environment tree).1
        (settings.source.document environment tree).2 := by
  unfold run Source.load deliver
  obtain ⟨document, left⟩ := settings.source.document environment tree
  dsimp only
  cases document.bind fun bytes => (Catalog.decode bytes).mapError .document <;> rfl

theorem run_eq {environment : Environment}
    (ends : ∀ name, settings.source = .program name →
      tree.runProgram name Source.showArguments environment = ended) :
    settings.run environment tree = settings.runAfter tree ended := by
  rw [run_eq_deliver]
  unfold runAfter document onward Source.document
  cases source : settings.source with
  | file path => rfl
  | program name =>
      dsimp only
      rw [ends name source]

/-- Where the document comes from: the catalog file, or a program that ended well, whatever it
wrote to its error output. -/
inductive Obtains (settings : Settings) (tree : FileTree)
    (ended : Except StartError Ending × FileTree) : List UInt8 → Prop
  | file {path : String} {bytes : List UInt8} (source : settings.source = .file path)
      (read : tree.read path = .ok bytes) : Obtains settings tree ended bytes
  | program {name : String} {ending : Ending} (source : settings.source = .program name)
      (started : ended.1 = .ok ending) (well : ending.exit = .status 0) :
      Obtains settings tree ended ending.output

theorem obtains_iff {bytes : List UInt8} :
    settings.Obtains tree ended bytes ↔ settings.document tree ended = .ok bytes := by
  constructor
  · rintro (⟨source, read⟩ | ⟨source, started, well⟩)
    · simp only [document, source, read]
      rfl
    · simp only [document, source, Source.outputOf, started, well, if_true]
  · intro given
    cases source : settings.source with
    | file path =>
        simp only [document, source] at given
        cases read : tree.read path with
        | error error =>
            rw [read] at given
            contradiction
        | ok found =>
            rw [read] at given
            obtain rfl : found = bytes := Except.ok.inj given
            exact .file source read
    | program name =>
        simp only [document, source, Source.outputOf] at given
        cases started : ended.1 with
        | error error =>
            rw [started] at given
            contradiction
        | ok ending =>
            by_cases well : ending.exit = .status 0
            · simp only [started, well, if_true] at given
              obtain rfl := Except.ok.inj given
              exact .program source started well
            · simp [started, well] at given

/-- What a run has to be: it succeeds just if it has a document that is a catalog and a path that
opens and is not the device without space. Then it stores the whole seed in the file and tells so,
where the path leads to no device. Else no regular file is touched. -/
structure AllOrNothing (settings : Settings) (tree : FileTree)
    (ended : Except StartError Ending × FileTree) (outcome : Outcome) (final : FileTree) :
    Prop where
  succeeds : outcome.exit = 0 ↔ ∃ bytes catalog location there,
    settings.Obtains tree ended bytes ∧ Catalog.decode bytes = .ok catalog ∧
      Seed.Opens settings.output (settings.onward tree ended) location there ∧
      there ≠ some (.device .full)
  stored : ∀ bytes catalog location there, settings.Obtains tree ended bytes →
    Catalog.decode bytes = .ok catalog →
    Seed.Opens settings.output (settings.onward tree ended) location there → Takes there →
      Stored settings.output
        (Utf8.encode (Seed.encode (Seed.build settings.includeRemote catalog))) location
        (settings.onward tree ended) final ∧
      outcome.output = "Successfully created " ++ settings.output ++ "\n"
  elsewhere : ∀ bytes catalog location item, settings.Obtains tree ended bytes →
    Catalog.decode bytes = .ok catalog →
    Seed.Opens settings.output (settings.onward tree ended) location (some item) →
    item.isPlain = false → item ≠ .device .full →
      (∀ other, final.file? other = (settings.onward tree ended).file? other) ∧
      final.output = (if item = .device .output then
        Utf8.encode (Seed.encode (Seed.build settings.includeRemote catalog)) else []) ∧
      outcome.output = Utf8.decodeLossy final.output ++
        ("Successfully created " ++ settings.output ++ "\n")
  fails : outcome.exit ≠ 0 → outcome.exit = 1 ∧ outcome.output = "" ∧
    ∀ location, final.file? location = (settings.onward tree ended).file? location

section Outcomes

variable {outcome : Outcome} {final : FileTree}

theorem AllOrNothing.failed
    (never : ∀ bytes catalog location there, settings.Obtains tree ended bytes →
      Catalog.decode bytes = .ok catalog →
      Seed.Opens settings.output (settings.onward tree ended) location there →
      there = some (.device .full))
    (exit : outcome.exit = 1) (silent : outcome.output = "")
    (same : ∀ location, final.file? location = (settings.onward tree ended).file? location) :
    settings.AllOrNothing tree ended outcome final where
  succeeds := by
    constructor
    · intro success
      omega
    · rintro ⟨bytes, catalog, location, there, obtained, accepted, opened, spacious⟩
      exact absurd (never bytes catalog location there obtained accepted opened) spacious
  stored bytes catalog location there obtained accepted opened takes := by
    have full := never bytes catalog location there obtained accepted opened
    have regular := takes (.device .full) full
    contradiction
  elsewhere bytes catalog location item obtained accepted opened _ spacious := by
    have full := never bytes catalog location (some item) obtained accepted opened
    exact absurd (Option.some.inj full) spacious
  fails _ := ⟨exit, silent, same⟩

theorem AllOrNothing.done {bytes : List UInt8} {catalog : Catalog} {location : List String}
    {there : Option Item} (obtained : settings.Obtains tree ended bytes)
    (accepted : Catalog.decode bytes = .ok catalog)
    (opened : Seed.Opens settings.output (settings.onward tree ended) location there)
    (spacious : there ≠ some (.device .full)) (exit : outcome.exit = 0)
    (stored : Takes there →
      Stored settings.output
        (Utf8.encode (Seed.encode (Seed.build settings.includeRemote catalog))) location
        (settings.onward tree ended) final ∧
      outcome.output = "Successfully created " ++ settings.output ++ "\n")
    (elsewhere : ∀ item, there = some item → item.isPlain = false →
      (∀ other, final.file? other = (settings.onward tree ended).file? other) ∧
      final.output = (if item = .device .output then
        Utf8.encode (Seed.encode (Seed.build settings.includeRemote catalog)) else []) ∧
      outcome.output = Utf8.decodeLossy final.output ++
        ("Successfully created " ++ settings.output ++ "\n")) :
    settings.AllOrNothing tree ended outcome final := by
  have single {found : List UInt8} {other : Catalog} (obtains : settings.Obtains tree ended found)
      (decodes : Catalog.decode found = .ok other) : other = catalog := by
    have same : found = bytes :=
      Except.ok.inj ((obtains_iff.1 obtains).symm.trans (obtains_iff.1 obtained))
    rw [same, accepted] at decodes
    exact (Except.ok.inj decodes).symm
  refine ⟨⟨fun _ => ⟨bytes, catalog, location, there, obtained, accepted, opened, spacious⟩,
    fun _ => exit⟩, ?_, ?_, fun failed => absurd exit failed⟩
  · intro found other place item obtains decodes opens takes
    obtain ⟨rfl, rfl⟩ := opened.unique opens
    rw [single obtains decodes]
    exact stored takes
  · intro found other place item obtains decodes opens loose _
    obtain ⟨rfl, rfl⟩ := opened.unique opens
    rw [single obtains decodes]
    exact elsewhere item rfl loose

end Outcomes

theorem runAfter_of_catalog {bytes : List UInt8} {catalog : Catalog}
    (obtained : settings.Obtains tree ended bytes)
    (accepted : Catalog.decode bytes = .ok catalog) :
    settings.runAfter tree ended =
      match Seed.write settings.output (Seed.build settings.includeRemote catalog)
        (settings.onward tree ended) with
      | (.error error, last) => ((Outcome.failed settings.writing error).behind last, last)
      | (.ok _, last) => ((Outcome.created settings.output).behind last, last) := by
  unfold runAfter deliver
  rw [obtains_iff.1 obtained]
  simp only [Except.bind, accepted, Except.mapError]

theorem runAfter_of_none
    (none : ∀ bytes catalog, settings.Obtains tree ended bytes →
      Catalog.decode bytes ≠ .ok catalog) :
    ∃ error, settings.runAfter tree ended =
      (.failed settings.loading error, settings.onward tree ended) := by
  unfold runAfter deliver
  cases given : settings.document tree ended with
  | error error => exact ⟨error, rfl⟩
  | ok bytes =>
      cases decoded : Catalog.decode bytes with
      | error error => exact ⟨.document error, by simp only [Except.bind, decoded, Except.mapError]⟩
      | ok catalog => exact absurd decoded (none bytes catalog (obtains_iff.2 given))

theorem runAfter_allOrNothing (quiet : (settings.onward tree ended).output = []) :
    settings.AllOrNothing tree ended (settings.runAfter tree ended).1
      (settings.runAfter tree ended).2 := by
  have behind (outcome : Outcome) {left : FileTree} (empty : left.output = []) :
      (outcome.behind left).output = outcome.output := by
    simp only [Outcome.behind, empty]
    exact String.empty_append
  by_cases accepts : ∃ bytes catalog, settings.Obtains tree ended bytes ∧
      Catalog.decode bytes = .ok catalog
  case neg =>
    obtain ⟨error, ran⟩ := @runAfter_of_none settings tree ended
      fun bytes catalog obtained accepted => accepts ⟨bytes, catalog, obtained, accepted⟩
    rw [ran]
    exact .failed (fun bytes catalog _ _ obtained accepted _ =>
      absurd ⟨bytes, catalog, obtained, accepted⟩ accepts) rfl rfl fun _ => rfl
  obtain ⟨bytes, catalog, obtained, accepted⟩ := accepts
  rw [runAfter_of_catalog obtained accepted]
  by_cases opens : ∃ location there,
      Seed.Opens settings.output (settings.onward tree ended) location there
  case neg =>
    obtain ⟨error, last, written, keeps⟩ := Seed.write_closed
      (Seed.build settings.includeRemote catalog)
      fun location there opens' => opens ⟨location, there, opens'⟩
    rw [written]
    have empty : last.output = [] := keeps.process.2.trans quiet
    exact .failed (fun _ _ location there _ _ opened => absurd ⟨location, there, opened⟩ opens) rfl
      (behind _ empty) keeps.file?
  obtain ⟨location, there, opened⟩ := opens
  by_cases takes : Takes there
  case pos =>
    obtain ⟨size, last, written, stored⟩ := Seed.write_takes
      (Seed.build settings.includeRemote catalog) opened takes
    rw [written]
    have empty : last.output = [] := stored.process.2.trans quiet
    refine .done obtained accepted opened ?_ rfl (fun _ => ⟨stored, behind _ empty⟩) ?_
    · rintro rfl
      exact absurd (takes (.device .full) rfl) (by decide)
    · intro item present loose
      rw [takes item present] at loose
      contradiction
  obtain ⟨item, present, loose⟩ : ∃ item, there = some item ∧ item.isPlain = false := by
    simpa [Takes] using takes
  subst present
  obtain ⟨result, last, written, success, same, output⟩ := Seed.write_loose
    (Seed.build settings.includeRemote catalog) opened loose
  rw [quiet, List.nil_append] at output
  rw [written]
  by_cases full : item = .device .full
  case pos =>
    subst full
    cases result with
    | ok size => exact absurd rfl (success.1 ⟨size, rfl⟩)
    | error error =>
        refine .failed (fun _ _ other found _ _ again => ?_) rfl (behind _ output) same
        exact (opened.unique again).2.symm
  obtain ⟨size, rfl⟩ := success.2 full
  refine .done obtained accepted opened (fun there => full (Option.some.inj there)) rfl
    (fun takes' => absurd takes' takes) fun other present _ => ?_
  obtain rfl := Option.some.inj present
  exact ⟨same, output, rfl⟩

end Settings

/-- A catalog file without entries, and two devices. -/
def FileTree.sparse : FileTree where
  names := [([], 0), (["c.json"], 1), (["dev"], 2), (["dev", "stdout"], 3), (["dev", "null"], 4)]
  nodes :=
    let node (number : Nat) (item : Item) : Nat × Node := (number, ⟨item, 0o755, 0, 0, 0, 0⟩)
    [node 0 .directory, node 1 (.file [123, 125]), node 2 .directory, node 3 (.device .output),
      node 4 (.device .nothing)]
  made := 5
  numbered := by decide
  workingDirectory := []
  mask := 0o022
  limits := []
  now := 0
  output := []
  errors := []

theorem FileTree.located_sparse : Path.parse "c.json" = .ok ⟨false, ["c.json"], false⟩ ∧
    sparse.locate true ⟨false, ["c.json"], false⟩ = .ok ["c.json"] := by
  constructor
  · decide +kernel
  · cbv

theorem FileTree.read_sparse : sparse.read "c.json" = .ok [123, 125] := by
  obtain ⟨parsed, found⟩ := located_sparse
  have held : sparse.item? ["c.json"] = some (.file [123, 125]) := rfl
  unfold FileTree.read readUpTo
  rw [resolve_of_parts parsed found held]
  rfl

theorem Seed.opens_sparse : Seed.Opens "c.json" sparse ["c.json"] (some (.file [123, 125])) := by
  have prepared : Seed.prepare "c.json" sparse = (.ok (), sparse) := by cbv
  obtain ⟨parsed, found⟩ := located_sparse
  have named : (Path.mk false ["c.json"] false).lastName? = some "c.json" := by decide +kernel
  have held : sparse.item? ["c.json"] = some (.file [123, 125]) := rfl
  exact ⟨sparse, prepared, openForWriting_of_parts parsed named rfl found held (by decide)⟩

theorem Catalog.decode_braces : ∃ catalog, Catalog.decode [123, 125] = .ok catalog ∧
    Utf8.encode (Seed.encode (Seed.build false catalog)) = [91, 93] := by
  have found : (Catalog.decode [123, 125]).toOption.any (fun catalog =>
      decide (Utf8.encode (Seed.encode (Seed.build false catalog)) = [91, 93])) = true := by
    decide +kernel
  exact Catalog.exists_of_any_decode found

namespace Settings

theorem run_all_or_nothing (settings : Settings) {tree : FileTree} (quiet : tree.output = []) :
    (∀ ended, ended.2.output = [] →
      settings.AllOrNothing tree ended (settings.runAfter tree ended).1
        (settings.runAfter tree ended).2) ∧
    ∀ environment ended, (∀ name, settings.source = .program name →
        tree.runProgram name Source.showArguments environment = ended) →
      settings.AllOrNothing tree ended (settings.run environment tree).1
        (settings.run environment tree).2 := by
  constructor
  · intro ended silent
    apply runAfter_allOrNothing
    unfold onward
    split
    · exact quiet
    · exact silent
  · intro environment ended ends
    rw [run_eq ends]
    apply runAfter_allOrNothing
    unfold onward
    split
    case h_1 => exact quiet
    case h_2 name source =>
      rw [← ends name source, output_runProgram]
      exact quiet

/-- The seed replaces the very file that its catalog was read from, and a program that complained
but ended well is as good as a file. -/
theorem run_all_or_nothing_onto_catalog :
    sparse.output = [] ∧
      (∃ outcome last,
        (Settings.mk (.file "c.json") "c.json" false).run [] sparse = (outcome, last) ∧
          outcome.exit = 0 ∧ outcome.output = "Successfully created c.json\n" ∧
          last.read "c.json" = .ok [91, 93]) ∧
      ∃ outcome last,
        (Settings.mk (.program "docker") "c.json" false).runAfter sparse
            (.ok ⟨.status 0, [123, 125], [33]⟩, sparse) = (outcome, last) ∧
          outcome.exit = 0 ∧ outcome.output = "Successfully created c.json\n" ∧
          last.read "c.json" = .ok [91, 93] := by
  have quiet : sparse.output = [] := rfl
  have takes : Takes (some (.file [123, 125])) := fun item same => Option.some.inj same ▸ rfl
  obtain ⟨catalog, accepted, seed⟩ := Catalog.decode_braces
  have replaced {settings : Settings} {ended : Except StartError Ending × FileTree}
      {outcome : Outcome} {last : FileTree}
      (whole : settings.AllOrNothing sparse ended outcome last)
      (toCatalog : settings.output = "c.json") (noHosted : settings.includeRemote = false)
      (unmoved : settings.onward sparse ended = sparse)
      (obtained : settings.Obtains sparse ended [123, 125]) :
      outcome.exit = 0 ∧ outcome.output = "Successfully created c.json\n" ∧
        last.read "c.json" = .ok [91, 93] := by
    have opened : Seed.Opens settings.output (settings.onward sparse ended) ["c.json"]
        (some (.file [123, 125])) := by
      rw [toCatalog, unmoved]
      exact Seed.opens_sparse
    have success := whole.succeeds.2 ⟨_, _, _, _, obtained, accepted, opened, by decide⟩
    obtain ⟨stored, output⟩ := whole.stored _ _ _ _ obtained accepted opened takes
    have read := stored.read
    rw [toCatalog, noHosted, seed] at read
    rw [toCatalog] at output
    exact ⟨success, output, read⟩
  have byFile := (run_all_or_nothing (Settings.mk (.file "c.json") "c.json" false) quiet).2 []
    (.error .zeroInName, sparse) nofun
  have byProgram := (run_all_or_nothing (Settings.mk (.program "docker") "c.json" false) quiet).1
    (.ok ⟨.status 0, [123, 125], [33]⟩, sparse) rfl
  have printed := @Obtains.program (Settings.mk (.program "docker") "c.json" false) sparse
    (.ok ⟨.status 0, [123, 125], [33]⟩, sparse) "docker" ⟨.status 0, [123, 125], [33]⟩ rfl rfl rfl
  exact ⟨quiet, ⟨_, _, rfl, replaced byFile rfl rfl rfl (.file rfl read_sparse)⟩,
    ⟨_, _, rfl, replaced byProgram rfl rfl rfl printed⟩⟩

/-- A device is opened like a file and the run succeeds, yet nothing is stored; what is written to
the standard output stands before the report. -/
theorem run_to_device_stores_nothing :
    sparse.read "c.json" = .ok [123, 125] ∧
      (∃ catalog, Catalog.decode [123, 125] = .ok catalog ∧
        Utf8.encode (Seed.encode (Seed.build false catalog)) = [91, 93]) ∧
      (∃ last, (Settings.mk (.file "c.json") "/dev/stdout" false).run [] sparse =
        (⟨0, "[]Successfully created /dev/stdout\n", ""⟩, last)) ∧
      ∃ last, (Settings.mk (.file "c.json") "/dev/null" false).run [] sparse =
          (⟨0, "Successfully created /dev/null\n", ""⟩, last) ∧
        last.read "/dev/null" = .ok [] := by
  obtain ⟨catalog, accepted, seed⟩ := Catalog.decode_braces
  have ran {path : String} {final : FileTree}
      (prepared : Seed.prepare path sparse = (.ok (), sparse))
      (written : sparse.write path [91, 93] = (.ok (), final)) :
      (Settings.mk (.file "c.json") path false).run [] sparse =
        ((Outcome.created path).behind final, final) := by
    have first : (Settings.mk (.file "c.json") path false).run [] sparse =
        (Settings.mk (.file "c.json") path false).runAfter sparse (.error .zeroInName, sparse) :=
      run_eq nofun
    rw [first, runAfter_of_catalog (.file rfl read_sparse) accepted]
    simp only [onward, Seed.write_eq, prepared, seed, written]
  refine ⟨read_sparse, Catalog.decode_braces, ?_, ?_⟩
  · have prepared : Seed.prepare "/dev/stdout" sparse = (.ok (), sparse) := by cbv
    have parsed : Path.parse "/dev/stdout" = .ok ⟨true, ["dev", "stdout"], false⟩ := by
      decide +kernel
    have named : (Path.mk true ["dev", "stdout"] false).lastName? = some "stdout" := by
      decide +kernel
    have found : sparse.locate true ⟨true, ["dev", "stdout"], false⟩ = .ok ["dev", "stdout"] := by
      cbv
    have held : sparse.item? ["dev", "stdout"] = some (.device .output) := rfl
    have opened := openForWriting_of_parts parsed named rfl found held (by decide)
    have written : sparse.write "/dev/stdout" [91, 93] =
        (.ok (), { sparse with output := [91, 93] }) := by
      unfold write
      rw [opened]
      rfl
    have shown : (Outcome.created "/dev/stdout").behind { sparse with output := [91, 93] } =
        ⟨0, "[]Successfully created /dev/stdout\n", ""⟩ := by decide +kernel
    exact ⟨_, (ran prepared written).trans (congrArg (·, _) shown)⟩
  · have prepared : Seed.prepare "/dev/null" sparse = (.ok (), sparse) := by cbv
    have parsed : Path.parse "/dev/null" = .ok ⟨true, ["dev", "null"], false⟩ := by decide +kernel
    have named : (Path.mk true ["dev", "null"] false).lastName? = some "null" := by decide +kernel
    have found : sparse.locate true ⟨true, ["dev", "null"], false⟩ = .ok ["dev", "null"] := by cbv
    have held : sparse.item? ["dev", "null"] = some (.device .nothing) := rfl
    have opened := openForWriting_of_parts parsed named rfl found held (by decide)
    have written : sparse.write "/dev/null" [91, 93] = (.ok (), sparse) := by
      unfold write
      rw [opened]
    have read : sparse.read "/dev/null" = .ok [] := by
      unfold FileTree.read readUpTo
      rw [resolve_of_parts parsed found held]
      rfl
    exact ⟨sparse, ran prepared written, read⟩

end Settings

end CatalogSeed
