import Mathlib.Algebra.Group.Nat.Even
import Mathlib.Data.List.Chain
import Mathlib.Data.List.TakeWhile
import CatalogSeed.Proofs.Template.Collapse

/-!
Texts as runs of one character. A text is written by one list of runs only, and collapsing it makes
its runs of braces half as long, an odd brace being kept. So it does not matter which brace comes
first, and a text may be cut anywhere but between two odd parts of a run of braces.
-/

namespace CatalogSeed.Template

/-- A character, and how often it stands in a row. -/
structure Run where
  mark : Char
  count : Nat
  positive : 0 < count
  deriving DecidableEq

namespace Run

def chars (run : Run) : List Char :=
  List.replicate run.count run.mark

/-- Half of the run, rounded up. -/
def halved (run : Run) : Run :=
  ⟨run.mark, (run.count + 1) / 2, by have := run.positive; omega⟩

/-- Runs of these marks are halved, all others stay. -/
def halvedAt (marks : List Char) (run : Run) : Run :=
  if run.mark ∈ marks then run.halved else run

theorem mark_halvedAt (marks : List Char) (run : Run) : (run.halvedAt marks).mark = run.mark := by
  unfold halvedAt
  split
  next => rfl
  next => rfl

theorem halvedAt_halvedAt {mark other : Char} (different : mark ≠ other) (run : Run) :
    (run.halvedAt [mark]).halvedAt [other] = run.halvedAt [mark, other] := by
  unfold halvedAt
  by_cases here : run.mark = mark
  · have unlike : run.halved.mark ≠ other := here ▸ different
    simp [here, unlike]
  · simp [here]

theorem halvedAt_comm (mark other : Char) (run : Run) :
    run.halvedAt [mark, other] = run.halvedAt [other, mark] := by
  simp only [halvedAt, List.mem_pair, or_comm]

theorem head?_chars (run : Run) : run.chars.head? = some run.mark := by
  rw [chars, List.head?_replicate, if_neg (Nat.ne_of_gt run.positive)]

theorem getLast?_chars (run : Run) : run.chars.getLast? = some run.mark := by
  rw [chars, List.getLast?_replicate, if_neg (Nat.ne_of_gt run.positive)]

end Run

/-- Neighbours are of different characters: no run could go on. -/
def Apart (runs : List Run) : Prop :=
  runs.IsChain fun left right => left.mark ≠ right.mark

def spell (runs : List Run) : List Char :=
  runs.flatMap Run.chars

theorem spell_cons (run : Run) (later : List Run) :
    spell (run :: later) = run.chars ++ spell later := rfl

theorem head?_spell (runs : List Run) : (spell runs).head? = runs.head?.map Run.mark := by
  cases runs with
  | nil => rfl
  | cons run later =>
      rw [spell_cons, List.head?_append, run.head?_chars, List.head?_cons, Option.map_some]
      rfl

theorem apart_cons {run : Run} {later : List Run} :
    Apart (run :: later) ↔ (later.head?.map Run.mark ≠ some run.mark) ∧ Apart later := by
  unfold Apart
  rw [List.isChain_cons]
  refine and_congr_left fun _ => ?_
  cases later with
  | nil => simp
  | cons next later => simp [eq_comm]

theorem apart_map {change : Run → Run} (same : ∀ run, (change run).mark = run.mark)
    {runs : List Run} : Apart (runs.map change) ↔ Apart runs := by
  unfold Apart
  simp only [List.isChain_map, same]

/-! The runs of a text. -/

/-- Puts a character in front: the first run goes on, or a new one begins. -/
def prepend (c : Char) : List Run → List Run
  | [] => [⟨c, 1, Nat.one_pos⟩]
  | run :: later =>
      if c = run.mark then ⟨c, run.count + 1, Nat.succ_pos _⟩ :: later
      else ⟨c, 1, Nat.one_pos⟩ :: run :: later

def runs (text : List Char) : List Run :=
  text.foldr prepend []

theorem spell_prepend (c : Char) (runs : List Run) : spell (prepend c runs) = c :: spell runs := by
  fun_cases prepend c runs with
  | case1 => rfl
  | case2 run later same =>
      rw [spell_cons, spell_cons, Run.chars, Run.chars, ← same, List.replicate_succ,
        List.cons_append]
  | case3 run later different => rfl

theorem apart_prepend (c : Char) {runs : List Run} (apart : Apart runs) :
    Apart (prepend c runs) := by
  fun_cases prepend c runs with
  | case1 => exact List.isChain_singleton _
  | case2 run later same =>
      rw [apart_cons] at apart ⊢
      exact ⟨same ▸ apart.1, apart.2⟩
  | case3 run later different =>
      refine apart_cons.2 ⟨fun next => different ?_, apart⟩
      simpa [eq_comm] using next

theorem spell_runs (text : List Char) : spell (runs text) = text := by
  induction text with
  | nil => rfl
  | cons c text ih => exact (spell_prepend c (runs text)).trans (congrArg (c :: ·) ih)

theorem apart_runs (text : List Char) : Apart (runs text) := by
  induction text with
  | nil => exact List.isChain_nil
  | cons c text ih => exact apart_prepend c ih

theorem foldr_prepend_chars (run : Run) {later : List Run} (apart : Apart (run :: later)) :
    run.chars.foldr prepend later = run :: later := by
  obtain ⟨mark, count, positive⟩ := run
  have begins := (apart_cons.1 apart).1
  induction count with
  | zero => contradiction
  | succ count ih =>
      rw [Run.chars, List.replicate_succ, List.foldr_cons]
      cases count with
      | zero =>
          cases later with
          | nil => rfl
          | cons next later =>
              have different : ¬mark = next.mark := fun same => begins (by simp [same])
              exact if_neg different
      | succ count =>
          have shorter := ih (Nat.succ_pos count)
            (apart_cons.2 ⟨begins, (apart_cons.1 apart).2⟩) begins
          rw [Run.chars] at shorter
          rw [shorter, prepend, if_pos rfl]

/-- No other list of runs writes the text. -/
theorem runs_spell {others : List Run} (apart : Apart others) : runs (spell others) = others := by
  induction others with
  | nil => rfl
  | cons run later ih =>
      rw [spell_cons, runs, List.foldr_append, ← runs, ih (apart_cons.1 apart).2,
        foldr_prepend_chars run apart]

/-! Halving and collapsing, run by run. -/

theorem halve_replicate (mark : Char) (count : Nat) :
    halve mark (List.replicate count mark) = List.replicate ((count + 1) / 2) mark := by
  match count with
  | 0 => rfl
  | 1 => rfl
  | count + 2 =>
      have half : (count + 2 + 1) / 2 = (count + 1) / 2 + 1 := by omega
      rw [List.replicate_succ, List.replicate_succ, halve, if_pos ⟨rfl, rfl⟩,
        halve_replicate mark count, half, List.replicate_succ]

theorem halve_chars (mark : Char) (run : Run) :
    halve mark run.chars = (run.halvedAt [mark]).chars := by
  unfold Run.halvedAt
  split
  next among =>
    have same := List.mem_singleton.1 among
    rw [Run.chars, same, halve_replicate, Run.chars, Run.halved, same]
  next other =>
    exact halve_of_not_mem fun among =>
      other (List.mem_singleton.2 (List.eq_of_mem_replicate among).symm)

theorem halve_spell (mark : Char) {runs : List Run} (apart : Apart runs) :
    halve mark (spell runs) = spell (runs.map (Run.halvedAt [mark])) := by
  induction runs with
  | nil => rfl
  | cons run later ih =>
      obtain ⟨begins, rest⟩ := apart_cons.1 apart
      have parted : run.chars.getLast? = some mark → (spell later).head? ≠ some mark := by
        rw [run.getLast?_chars, head?_spell]
        exact fun same => same ▸ begins
      rw [spell_cons, halve_append parted, halve_chars, ih rest, List.map_cons, spell_cons]

theorem halve_halve_spell {mark other : Char} (different : mark ≠ other) {runs : List Run}
    (apart : Apart runs) :
    halve other (halve mark (spell runs)) = spell (runs.map (Run.halvedAt [mark, other])) := by
  rw [halve_spell mark apart, halve_spell other ((apart_map (Run.mark_halvedAt [mark])).2 apart),
    List.map_map]
  exact congrArg spell (List.map_congr_left fun run _ => run.halvedAt_halvedAt different)

theorem collapse_spell {runs : List Run} (apart : Apart runs) :
    collapse (spell runs) = spell (runs.map (Run.halvedAt ['{', '}'])) :=
  halve_halve_spell (by decide) apart

/-- It does not matter which mark comes first. -/
theorem halve_comm (mark other : Char) (text : List Char) :
    halve other (halve mark text) = halve mark (halve other text) := by
  by_cases same : mark = other
  · rw [same]
  · rw [← spell_runs text, halve_halve_spell same (apart_runs text),
      halve_halve_spell (Ne.symm same) (apart_runs text)]
    exact congrArg spell (List.map_congr_left fun run _ => run.halvedAt_comm mark other)

/-! Texts that are cut within a run. -/

/-- How often a mark stands at the beginning of a text. -/
def leading (mark : Char) (text : List Char) : Nat :=
  (text.takeWhile (· = mark)).length

/-- How often a mark stands at the end of a text. -/
def trailing (mark : Char) (text : List Char) : Nat :=
  leading mark text.reverse

theorem eq_replicate_append (mark : Char) (text : List Char) :
    ∃ rest, text = List.replicate (leading mark text) mark ++ rest ∧ rest.head? ≠ some mark := by
  have all : text.takeWhile (· = mark) = List.replicate (leading mark text) mark :=
    List.eq_replicate_iff.2 ⟨rfl, fun c among => by simpa using List.mem_takeWhile_imp among⟩
  refine ⟨text.dropWhile (· = mark), ?_, fun begins => ?_⟩
  · rw [← all, List.takeWhile_append_dropWhile]
  · have ended := List.head?_dropWhile_not (· = mark) text
    rw [begins] at ended
    simp at ended

theorem eq_append_replicate (mark : Char) (text : List Char) :
    ∃ front, text = front ++ List.replicate (trailing mark text) mark ∧
      front.getLast? ≠ some mark := by
  obtain ⟨rest, parts, begins⟩ := eq_replicate_append mark text.reverse
  refine ⟨rest.reverse, ?_, by rwa [List.getLast?_reverse]⟩
  rw [← List.reverse_replicate, ← List.reverse_append]
  exact List.reverse_eq_iff.1 parts

theorem leading_eq_zero_iff {mark : Char} {text : List Char} :
    leading mark text = 0 ↔ text.head? ≠ some mark := by
  cases text with
  | nil => simp [leading]
  | cons first rest =>
      by_cases same : first = mark
      · simp [leading, same]
      · simp [leading, same]

theorem trailing_eq_zero_iff {mark : Char} {text : List Char} :
    trailing mark text = 0 ↔ text.getLast? ≠ some mark := by
  rw [trailing, leading_eq_zero_iff, List.head?_reverse]

/-- A whole run of braces is collapsed for itself. -/
theorem collapse_around {brace : Char} (isBrace : brace ∈ ['{', '}'])
    (front rest : List Char) (ends : front.getLast? ≠ some brace)
    (begins : rest.head? ≠ some brace) {count : Nat} (positive : 0 < count) :
    collapse (front ++ (List.replicate count brace ++ rest)) =
      collapse front ++ (List.replicate ((count + 1) / 2) brace ++ collapse rest) := by
  let run : Run := ⟨brace, count, positive⟩
  have alone : collapse run.chars = run.halved.chars := by
    have halved : run.halvedAt ['{', '}'] = run.halved := if_pos isBrace
    have single := collapse_spell (List.isChain_singleton run)
    rwa [List.map_singleton, halved, spell, spell, List.flatMap_singleton,
      List.flatMap_singleton] at single
  have behind : (run.chars ++ rest).head? = some brace := by
    rw [List.head?_append, run.head?_chars]
    rfl
  have first {mark : Char} (last : front.getLast? = some mark) :
      (run.chars ++ rest).head? ≠ some mark := fun head => ends (by rw [last, ← head, behind])
  have second {mark : Char} (last : run.chars.getLast? = some mark) : rest.head? ≠ some mark :=
    fun head => begins (by rw [head, ← last, run.getLast?_chars])
  calc collapse (front ++ (run.chars ++ rest))
      = collapse front ++ collapse (run.chars ++ rest) := collapse_append first first
    _ = collapse front ++ (run.halved.chars ++ collapse rest) := by
        rw [collapse_append second second, alone]

theorem collapse_append_of_meet {brace : Char} (isBrace : brace ∈ ['{', '}'])
    {before behind : List Char} (last : before.getLast? = some brace)
    (first : behind.head? = some brace) :
    collapse (before ++ behind) = collapse before ++ collapse behind ↔
      Even (trailing brace before) ∨ Even (leading brace behind) := by
  obtain ⟨front, parts, ends⟩ := eq_append_replicate brace before
  obtain ⟨rest, partsToo, begins⟩ := eq_replicate_append brace behind
  have left : 0 < trailing brace before :=
    Nat.pos_of_ne_zero fun zero => trailing_eq_zero_iff.1 zero last
  have right : 0 < leading brace behind :=
    Nat.pos_of_ne_zero fun zero => leading_eq_zero_iff.1 zero first
  generalize trailing brace before = count at *
  generalize leading brace behind = further at *
  subst parts partsToo
  -- All three texts are the same but for the run, so what counts is how often it is rounded up.
  have whole := collapse_around isBrace front rest ends begins (Nat.add_pos_left left further)
  have before := collapse_around isBrace front [] ends nofun left
  have behind := collapse_around isBrace [] rest nofun begins right
  rw [List.append_nil] at before
  rw [List.nil_append] at behind
  have joined : front ++ List.replicate count brace ++ (List.replicate further brace ++ rest) =
      front ++ (List.replicate (count + further) brace ++ rest) := by
    rw [← List.replicate_append_replicate, List.append_assoc, List.append_assoc]
  have halves : List.replicate ((count + 1) / 2) brace ++ List.replicate ((further + 1) / 2) brace =
      List.replicate ((count + 1) / 2 + (further + 1) / 2) brace := List.replicate_append_replicate
  have empty : collapse [] = [] := rfl
  rw [joined, whole, before, behind, empty, List.append_nil, List.nil_append, List.append_assoc,
    List.append_cancel_left_eq, ← List.append_assoc, halves, List.append_cancel_right_eq,
    List.replicate_left_inj, Nat.even_iff, Nat.even_iff]
  omega

/-- A cut does no harm unless it leaves an odd part of a run of braces on both sides. -/
theorem collapse_append_iff {before behind : List Char} :
    collapse (before ++ behind) = collapse before ++ collapse behind ↔
      ∀ brace ∈ ['{', '}'], Even (trailing brace before) ∨ Even (leading brace behind) := by
  by_cases met : ∃ brace ∈ ['{', '}'], before.getLast? = some brace ∧ behind.head? = some brace
  · obtain ⟨brace, isBrace, last, first⟩ := met
    refine (collapse_append_of_meet isBrace last first).trans
      ⟨fun even other _ => ?_, fun all => all brace isBrace⟩
    by_cases same : other = brace
    · exact same ▸ even
    · have ends : before.getLast? ≠ some other := by simpa [last, eq_comm] using same
      exact Or.inl (trailing_eq_zero_iff.2 ends ▸ Even.zero)
  · have parted {brace : Char} (isBrace : brace ∈ ['{', '}'])
        (last : before.getLast? = some brace) : behind.head? ≠ some brace :=
      fun first => met ⟨brace, isBrace, last, first⟩
    refine iff_of_true (collapse_append (parted (by simp)) (parted (by simp)))
      fun brace isBrace => ?_
    by_cases last : before.getLast? = some brace
    · exact Or.inr (leading_eq_zero_iff.2 (parted isBrace last) ▸ Even.zero)
    · exact Or.inl (trailing_eq_zero_iff.2 last ▸ Even.zero)

/-- Every text is one list of runs, of which collapsing halves those of braces, rounding up, and
keeps all else and the order: the runs that are left are the runs of what is left. Hence either
brace may come first, and a text may be cut where no run of braces goes over the cut (one part of it
is empty then) or where either part of the run is even, but nowhere else. -/
theorem collapse_runs (text : List Char) :
    (Apart (runs text) ∧ spell (runs text) = text ∧
      ∀ others, Apart others → spell others = text → others = runs text) ∧
    collapse text = spell ((runs text).map (Run.halvedAt ['{', '}'])) ∧
    runs (collapse text) = (runs text).map (Run.halvedAt ['{', '}']) ∧
    halve '}' (halve '{' text) = halve '{' (halve '}' text) ∧
    ∀ behind, collapse (text ++ behind) = collapse text ++ collapse behind ↔
      ∀ brace ∈ ['{', '}'], Even (trailing brace text) ∨ Even (leading brace behind) := by
  have apart := apart_runs text
  have halved : collapse text = spell ((runs text).map (Run.halvedAt ['{', '}'])) := by
    rw [← collapse_spell apart, spell_runs]
  refine ⟨⟨apart, spell_runs text, fun others apartToo same => ?_⟩, halved, ?_,
    halve_comm '{' '}' text, fun behind => collapse_append_iff⟩
  · rw [← same, runs_spell apartToo]
  · rw [halved, runs_spell ((apart_map (Run.mark_halvedAt _)).2 apart)]

/-- An odd run, a mixed one, and a run that is cut into one brace and three. -/
example : collapse ['{', '{', '{', '}', '}', '{', '}'] = ['{', '{', '}', '{', '}'] ∧
    collapse ['{'] ++ collapse ['{', '{', '{'] ≠ collapse ['{', '{', '{', '{'] := by decide

end CatalogSeed.Template
