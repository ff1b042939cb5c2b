import CatalogSeed.Proofs.Document.ParseTree

/-!
Whatever is spelled can be passed over: brackets are kept on a stack, and each round of the
passing takes up at least one byte of the text.
-/

namespace CatalogSeed.Document

open ParseTree

theorem skipKey_written {lead key before : List UInt8} (leading : Blank lead)
    (content : Content key) (blank : Blank before) (rest : List UInt8) :
    skipKey (lead ++ 0x22 :: (key ++ 0x22 :: (before ++ 0x3A :: rest))) = .ok rest := by
  have quote : skipBlanks (lead ++ 0x22 :: (key ++ 0x22 :: (before ++ 0x3A :: rest))) =
      0x22 :: (key ++ 0x22 :: (before ++ 0x3A :: rest)) :=
    skipBlanks_gap leading (by decide) _
  have colon : skipBlanks (before ++ 0x3A :: rest) = 0x3A :: rest :=
    skipBlanks_gap blank (by decide) _
  simp [skipKey, quote, skipString_written content, colon, bind, Except.bind]

/-- In at most as many rounds as the text has bytes, the passing is behind it. -/
def Passed (step : SkipStep) (opened : List Bracket → List Bracket) (text : List UInt8) : Prop :=
  ∃ cost, cost ≤ text.length ∧ ∀ fuel outer rest, Ends rest →
    skipOpen (fuel + cost) step (opened outer) (text ++ rest) = skipOpen fuel .follow outer rest

/-- A value in one round. -/
theorem passed_of_round {gap text : List UInt8} {b : UInt8} {later : List UInt8}
    (blank : Blank gap) (head : text = b :: later)
    (round : ∀ fuel opened rest, Ends rest →
      skipOpen (fuel + 1) .value opened (b :: (later ++ rest)) =
        skipOpen fuel .follow opened rest) :
    Passed .value id (gap ++ text) := by
  subst head
  refine ⟨1, by simp only [List.length_append, List.length_cons]; omega,
    fun fuel opened rest ends => ?_⟩
  rw [← round fuel opened rest ends]
  simp only [List.append_assoc, List.cons_append, id, skipOpen, skipBlanks_append blank]

theorem passed_items {items : List ParseTree} {text : List UInt8}
    (each : ∀ item ∈ items, ∀ gap written, Blank gap → item.Spells written →
      Passed .value id (gap ++ written))
    (spells : SpellsItems false items text) : Passed .follow (.array :: ·) text := by
  induction items generalizing text with
  | nil =>
      obtain ⟨gap, blank, rfl⟩ := spells
      refine ⟨1, by simp, fun fuel outer rest _ => ?_⟩
      simp [skipOpen, skipBlanks_append blank, skipBlanks_cons, Bracket.closing,
        show isBlank 0x5D = false by decide]
  | cons item items ih =>
      obtain ⟨_, written, later, ⟨before, behind, blank, gap, rfl⟩, spelled, further, rfl⟩ := spells
      obtain ⟨cost, few, passed⟩ := each item List.mem_cons_self behind written gap spelled
      obtain ⟨more, enough, onwards⟩ :=
        ih (fun item found => each item (List.mem_cons_of_mem _ found)) further
      -- One round for the comma; the item and those behind it bring their own.
      refine ⟨more + cost + 1, ?_, fun fuel outer rest ends => ?_⟩
      · simp only [List.length_append, List.length_cons] at few enough ⊢
        omega
      · have comma : skipBlanks (before ++ 0x2C :: (behind ++ (written ++ (later ++ rest)))) =
            0x2C :: (behind ++ (written ++ (later ++ rest))) :=
          skipBlanks_gap blank (by decide) _
        calc skipOpen (fuel + (more + cost + 1)) .follow (.array :: outer)
              (before ++ 0x2C :: behind ++ (written ++ later) ++ rest)
            = skipOpen (fuel + more + cost) .value (.array :: outer)
                (behind ++ written ++ (later ++ rest)) := by
              simp [← Nat.add_assoc, skipOpen, comma]
          _ = skipOpen (fuel + more) .follow (.array :: outer) (later ++ rest) :=
              passed _ _ _ further.ends
          _ = skipOpen fuel .follow outer rest := onwards _ _ _ ends

theorem passed_members {members : List (List UInt8 × ParseTree)} {text : List UInt8}
    (each : ∀ member ∈ members, ∀ gap written, Blank gap → member.2.Spells written →
      Passed .value id (gap ++ written))
    (spells : SpellsMembers false members text) : Passed .follow (.object :: ·) text := by
  induction members generalizing text with
  | nil =>
      obtain ⟨gap, blank, rfl⟩ := spells
      refine ⟨1, by simp, fun fuel outer rest _ => ?_⟩
      simp [skipOpen, skipBlanks_append blank, skipBlanks_cons, Bracket.closing,
        show isBlank 0x7D = false by decide]
  | cons member members ih =>
      obtain ⟨_, before, behind, written, later, ⟨front, back, frontBlank, backBlank, rfl⟩, content,
        beforeBlank, behindBlank, spelled, further, rfl⟩ := spells
      obtain ⟨cost, few, passed⟩ :=
        each member List.mem_cons_self behind written behindBlank spelled
      obtain ⟨more, enough, onwards⟩ :=
        ih (fun member found => each member (List.mem_cons_of_mem _ found)) further
      refine ⟨more + cost + 1, ?_, fun fuel outer rest ends => ?_⟩
      · simp only [List.length_append, List.length_cons] at few enough ⊢
        omega
      · have comma (bytes : List UInt8) :
            skipBlanks (front ++ 0x2C :: bytes) = 0x2C :: bytes :=
          skipBlanks_gap frontBlank (by decide) _
        calc skipOpen (fuel + (more + cost + 1)) .follow (.object :: outer)
              (front ++ 0x2C :: back ++ 0x22 ::
                (member.1 ++ 0x22 :: (before ++ 0x3A :: (behind ++ (written ++ later)))) ++ rest)
            = skipOpen (fuel + more + cost) .value (.object :: outer)
                (behind ++ written ++ (later ++ rest)) := by
              simp [← Nat.add_assoc, skipOpen, comma,
                skipKey_written backBlank content beforeBlank, bind, Except.bind]
          _ = skipOpen (fuel + more) .follow (.object :: outer) (later ++ rest) :=
              passed _ _ _ further.ends
          _ = skipOpen fuel .follow outer rest := onwards _ _ _ ends

theorem passed_array {gap body : List UInt8} {items : List ParseTree} (blank : Blank gap)
    (each : ∀ item ∈ items, ∀ gap written, Blank gap → item.Spells written →
      Passed .value id (gap ++ written))
    (spells : SpellsItems true items body) : Passed .value id (gap ++ 0x5B :: body) := by
  have opening (bytes : List UInt8) : skipBlanks (gap ++ 0x5B :: bytes) = 0x5B :: bytes :=
    skipBlanks_gap blank (by decide) _
  cases items with
  | nil =>
      obtain ⟨lead, leading, rfl⟩ := spells
      refine ⟨1, by simp only [List.length_append, List.length_cons]; omega,
        fun fuel opened rest _ => ?_⟩
      simp [skipOpen, opening, skipBlanks_append leading, skipBlanks_cons,
        show isBlank 0x5D = false by decide]
  | cons item items =>
      obtain ⟨lead, written, later, leading, spelled, further, rfl⟩ := spells
      obtain ⟨cost, few, passed⟩ := each item List.mem_cons_self [] written Blank.nil spelled
      obtain ⟨more, enough, onwards⟩ :=
        passed_items (fun item found => each item (List.mem_cons_of_mem _ found)) further
      refine ⟨more + cost + 1, ?_, fun fuel opened rest ends => ?_⟩
      · simp only [List.nil_append, List.length_append, List.length_cons] at few enough ⊢
        omega
      · obtain ⟨b, bytes, rfl, visible, open_, _⟩ := spelled.head
        have first : skipBlanks (lead ++ b :: (bytes ++ (later ++ rest))) =
            b :: (bytes ++ (later ++ rest)) :=
          skipBlanks_gap leading visible _
        calc skipOpen (fuel + (more + cost + 1)) .value opened
              (gap ++ 0x5B :: (lead ++ (b :: bytes ++ later)) ++ rest)
            = skipOpen (fuel + more + cost) .value (.array :: opened)
                (b :: bytes ++ (later ++ rest)) := by
              simp [← Nat.add_assoc, skipOpen, opening, first, open_]
          _ = skipOpen (fuel + more) .follow (.array :: opened) (later ++ rest) :=
              passed _ _ _ further.ends
          _ = skipOpen fuel .follow opened rest := onwards _ _ _ ends

theorem passed_object {gap body : List UInt8} {members : List (List UInt8 × ParseTree)}
    (blank : Blank gap)
    (each : ∀ member ∈ members, ∀ gap written, Blank gap → member.2.Spells written →
      Passed .value id (gap ++ written))
    (spells : SpellsMembers true members body) : Passed .value id (gap ++ 0x7B :: body) := by
  have opening (bytes : List UInt8) : skipBlanks (gap ++ 0x7B :: bytes) = 0x7B :: bytes :=
    skipBlanks_gap blank (by decide) _
  cases members with
  | nil =>
      obtain ⟨lead, leading, rfl⟩ := spells
      refine ⟨1, by simp only [List.length_append, List.length_cons]; omega,
        fun fuel opened rest _ => ?_⟩
      simp [skipOpen, opening, skipBlanks_append leading, skipBlanks_cons,
        show isBlank 0x7D = false by decide]
  | cons member members =>
      obtain ⟨lead, before, behind, written, later, leading, content, beforeBlank, behindBlank,
        spelled, further, rfl⟩ := spells
      obtain ⟨cost, few, passed⟩ :=
        each member List.mem_cons_self behind written behindBlank spelled
      obtain ⟨more, enough, onwards⟩ :=
        passed_members (fun member found => each member (List.mem_cons_of_mem _ found)) further
      refine ⟨more + cost + 1, ?_, fun fuel opened rest ends => ?_⟩
      · simp only [List.length_append, List.length_cons] at few enough ⊢
        omega
      · have first (bytes : List UInt8) : skipBlanks (lead ++ 0x22 :: bytes) = 0x22 :: bytes :=
          skipBlanks_gap leading (by decide) _
        have key (bytes : List UInt8) :
            skipKey (0x22 :: (member.1 ++ 0x22 :: (before ++ 0x3A :: bytes))) = .ok bytes :=
          skipKey_written Blank.nil content beforeBlank bytes
        calc skipOpen (fuel + (more + cost + 1)) .value opened
              (gap ++ 0x7B :: (lead ++ 0x22 ::
                (member.1 ++ 0x22 :: (before ++ 0x3A :: (behind ++ (written ++ later))))) ++ rest)
            = skipOpen (fuel + more + cost) .value (.object :: opened)
                (behind ++ written ++ (later ++ rest)) := by
              simp [← Nat.add_assoc, skipOpen, opening, first, key, bind, Except.bind]
          _ = skipOpen (fuel + more) .follow (.object :: opened) (later ++ rest) :=
              passed _ _ _ further.ends
          _ = skipOpen fuel .follow opened rest := onwards _ _ _ ends

theorem ParseTree.Spells.passed {tree : ParseTree} {gap text : List UInt8} (blank : Blank gap)
    (spells : tree.Spells text) : Passed .value id (gap ++ text) := by
  induction tree generalizing gap text with
  | null =>
      refine passed_of_round blank spells fun fuel opened rest _ => ?_
      simp [skipOpen, skipBlanks_cons, show isBlank 0x6E = false by decide, word_append, bind,
        Except.bind]
  | bool value =>
      cases value with
      | true =>
          refine passed_of_round blank spells fun fuel opened rest _ => ?_
          simp [skipOpen, skipBlanks_cons, show isBlank 0x74 = false by decide, word_append, bind,
            Except.bind]
      | false =>
          refine passed_of_round blank spells fun fuel opened rest _ => ?_
          simp [skipOpen, skipBlanks_cons, show isBlank 0x66 = false by decide, word_append, bind,
            Except.bind]
  | number written =>
      obtain ⟨valid, rfl⟩ := spells
      obtain ⟨found, read⟩ := Option.isSome_iff_exists.1 valid
      obtain ⟨b, bytes, rfl, ⟨rfl, outcome⟩ | ⟨digit, outcome⟩⟩ := numeral_written read
      · refine passed_of_round blank rfl fun fuel opened rest ends => ?_
        simp [skipOpen, skipBlanks_cons, show isBlank 0x2D = false by decide,
          outcome .badNumber rest ends, bind, Except.bind]
      · obtain ⟨visible, _, _, n, t, f, minus, quote, array, object⟩ := visible_of_isDigit digit
        refine passed_of_round blank rfl fun fuel opened rest ends => ?_
        simp [skipOpen, skipBlanks_cons visible, n, t, f, minus, quote, array, object, digit,
          outcome .badNumber rest ends, bind, Except.bind]
  | string written =>
      obtain ⟨content, rfl⟩ := spells
      refine passed_of_round blank rfl fun fuel opened rest _ => ?_
      simp [skipOpen, skipBlanks_cons, show isBlank 0x22 = false by decide,
        skipString_written content, bind, Except.bind]
  | array items ih =>
      obtain ⟨body, spelled, rfl⟩ := spells
      exact passed_array blank
        (fun item found _ _ blank spelled => ih item found blank spelled) spelled
  | object members ih =>
      obtain ⟨body, spelled, rfl⟩ := spells
      exact passed_object blank
        (fun member found _ _ blank spelled => ih member found blank spelled) spelled

theorem skipValue_spelled {tree : ParseTree} {gap text rest : List UInt8} (blank : Blank gap)
    (spells : tree.Spells text) (ends : Ends rest) :
    skipValue (gap ++ (text ++ rest)) = .ok rest := by
  obtain ⟨cost, few, passed⟩ := spells.passed blank
  have fuel : (gap ++ (text ++ rest)).length + 1 =
      (gap ++ (text ++ rest)).length - cost + 1 + cost := by
    simp only [List.length_append] at few ⊢
    omega
  rw [skipValue, fuel, ← List.append_assoc]
  exact passed _ [] rest ends

end CatalogSeed.Document
