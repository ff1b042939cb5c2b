import CatalogSeed.Proofs.Document.Accepted

/-!
A document spells at most one tree. Where a value ends is known from the passing over it, and a
string ends at the same quote whoever reads it.
-/

namespace CatalogSeed.Document

variable {gap back key again rest later : List UInt8}

theorem eq_of_blank {b c : UInt8} (blank : Blank gap) (blankToo : Blank back)
    (visible : isBlank b = false) (visibleToo : isBlank c = false)
    (same : gap ++ b :: rest = back ++ c :: later) : b = c ∧ rest = later := by
  have skipped := congrArg skipBlanks same
  rw [skipBlanks_gap blank visible, skipBlanks_gap blankToo visibleToo] at skipped
  exact List.cons.inj skipped

theorem eq_of_content (content : Content key) (contentToo : Content again)
    (same : key ++ 0x22 :: rest = again ++ 0x22 :: later) : key = again ∧ rest = later := by
  have passed := skipString_written content rest
  rw [same, skipString_written contentToo] at passed
  obtain rfl := Except.ok.inj passed
  exact ⟨List.append_cancel_right same, rfl⟩

namespace ParseTree

theorem eq_of_leads {first : Bool} {b c : UInt8} (leads : Leads first gap)
    (leadsToo : Leads first back) (visible : isBlank b = false) (visibleToo : isBlank c = false)
    (same : gap ++ b :: rest = back ++ c :: later) : b = c ∧ rest = later := by
  cases first with
  | true => exact eq_of_blank leads leadsToo visible visibleToo same
  | false =>
      obtain ⟨_, _, blank, inner, rfl⟩ := leads
      obtain ⟨_, _, blankToo, innerToo, rfl⟩ := leadsToo
      simp only [List.append_assoc, List.cons_append] at same
      obtain ⟨_, behind⟩ := eq_of_blank blank blankToo (by decide) (by decide) same
      exact eq_of_blank inner innerToo visible visibleToo behind

/-- The byte that a value of this form begins with. -/
def Initial : ParseTree → UInt8 → Prop
  | .null, b => b = 0x6E
  | .bool value, b => b = if value then 0x74 else 0x66
  | .number _, b => b = 0x2D ∨ isDigit b = true
  | .string _, b => b = 0x22
  | .array _, b => b = 0x5B
  | .object _, b => b = 0x7B

theorem Spells.initial {tree : ParseTree} {text : List UInt8} (spells : tree.Spells text) :
    ∃ b later, text = b :: later ∧ tree.Initial b := by
  cases tree with
  | null => exact ⟨_, _, spells, rfl⟩
  | bool value => cases value <;> exact ⟨_, _, spells, rfl⟩
  | number written =>
      obtain ⟨valid, rfl⟩ := spells
      obtain ⟨b, bytes, rfl, ⟨minus, _⟩ | ⟨digit, _⟩⟩ := number_written valid
      · exact ⟨b, bytes, rfl, Or.inl minus⟩
      · exact ⟨b, bytes, rfl, Or.inr digit⟩
  | string written =>
      obtain ⟨_, rfl⟩ := spells
      exact ⟨_, _, rfl, rfl⟩
  | array items =>
      obtain ⟨body, _, rfl⟩ := spells
      exact ⟨_, _, rfl, rfl⟩
  | object members =>
      obtain ⟨body, _, rfl⟩ := spells
      exact ⟨_, _, rfl, rfl⟩

/-- Two values in front of bytes that no number goes on with end at the same place. -/
theorem Spells.eq_of_append {tree other : ParseTree} {text written : List UInt8}
    (spells : tree.Spells text) (spellsToo : other.Spells written) (ends : Ends rest)
    (endsToo : Ends later) (same : text ++ rest = written ++ later) :
    text = written ∧ rest = later := by
  have passed := skipValue_spelled Blank.nil spells ends
  rw [List.nil_append, same] at passed
  have passedToo := skipValue_spelled Blank.nil spellsToo endsToo
  rw [List.nil_append, passed] at passedToo
  obtain rfl := Except.ok.inj passedToo
  exact ⟨List.append_cancel_right same, rfl⟩

/-- The tree is the only one with its texts. -/
def Alone (tree : ParseTree) : Prop :=
  ∀ other text, tree.Spells text → other.Spells text → tree = other

theorem SpellsItems.eq_nil_iff {first : Bool} {items others : List ParseTree}
    {text : List UInt8} (spells : SpellsItems first items text)
    (spellsToo : SpellsItems first others text) : items = [] ↔ others = [] := by
  have closed := closeArray_spelled spells []
  rw [closeArray_spelled spellsToo] at closed
  by_cases empty : items = [] <;> simp_all

theorem SpellsItems.unique {first : Bool} {items others : List ParseTree} {text : List UInt8}
    (alone : ∀ item ∈ items, item.Alone) (spells : SpellsItems first items text)
    (spellsToo : SpellsItems first others text) : items = others := by
  induction items generalizing first others text with
  | nil => exact ((spells.eq_nil_iff spellsToo).1 rfl).symm
  | cons item items ih =>
      cases others with
      | nil => exact (spells.eq_nil_iff spellsToo).2 rfl
      | cons other others =>
          obtain ⟨lead, written, later, leads, spelled, further, rfl⟩ := spells
          obtain ⟨back, again, behind, leadsToo, spelledToo, furtherToo, same⟩ := spellsToo
          obtain ⟨b, bytes, rfl, visible, _⟩ := spelled.head
          obtain ⟨c, left, rfl, visibleToo, _⟩ := spelledToo.head
          have begins := eq_of_leads leads leadsToo visible visibleToo same
          have values : b :: bytes ++ later = c :: left ++ behind :=
            List.cons_eq_cons.2 begins
          have ends : Ends later := by simpa using @SpellsItems.ends _ _ [] further
          have endsToo : Ends behind := by simpa using @SpellsItems.ends _ _ [] furtherToo
          obtain ⟨text, rfl⟩ := spelled.eq_of_append spelledToo ends endsToo values
          rw [← text] at spelledToo
          rw [alone item List.mem_cons_self other _ spelled spelledToo,
            ih (fun item among => alone item (List.mem_cons_of_mem _ among)) further furtherToo]

/-- The first byte of what is left of the members is a brace only where there are none. -/
theorem SpellsMembers.head {first : Bool} {members : List (List UInt8 × ParseTree)}
    {text : List UInt8} (spells : SpellsMembers first members text) :
    (skipBlanks text).head? = some 0x7D ↔ members = [] := by
  cases members with
  | nil =>
      obtain ⟨gap, blank, rfl⟩ := spells
      simp [skipBlanks_gap blank (show isBlank 0x7D = false by decide)]
  | cons member members =>
      obtain ⟨lead, _, _, _, _, leads, _, _, _, _, _, rfl⟩ := spells
      cases first with
      | true =>
          have blank : Blank lead := leads
          simp [skipBlanks_gap blank (show isBlank 0x22 = false by decide)]
      | false =>
          obtain ⟨before, behind, blank, _, rfl⟩ := leads
          simp [skipBlanks_gap blank (show isBlank 0x2C = false by decide)]

theorem SpellsMembers.unique {first : Bool} {members others : List (List UInt8 × ParseTree)}
    {text : List UInt8} (alone : ∀ member ∈ members, member.2.Alone)
    (spells : SpellsMembers first members text) (spellsToo : SpellsMembers first others text) :
    members = others := by
  induction members generalizing first others text with
  | nil => exact (spellsToo.head.1 (spells.head.2 rfl)).symm
  | cons member members ih =>
      cases others with
      | nil => exact spells.head.1 (spellsToo.head.2 rfl)
      | cons other others =>
          obtain ⟨key, tree⟩ := member
          obtain ⟨again, value⟩ := other
          obtain ⟨lead, before, behind, written, later, leads, content, blank, gap, spelled,
            further, rfl⟩ := spells
          obtain ⟨leadToo, beforeToo, behindToo, writtenToo, laterToo, leadsToo, contentToo,
            blankToo, gapToo, spelledToo, furtherToo, same⟩ := spellsToo
          obtain ⟨b, bytes, rfl, visible, _⟩ := spelled.head
          obtain ⟨c, left, rfl, visibleToo, _⟩ := spelledToo.head
          obtain ⟨_, keys⟩ := eq_of_leads leads leadsToo (by decide) (by decide) same
          obtain ⟨rfl, colons⟩ := eq_of_content content contentToo keys
          obtain ⟨_, values⟩ := eq_of_blank blank blankToo (by decide) (by decide) colons
          have begins := eq_of_blank gap gapToo visible visibleToo values
          have values : b :: bytes ++ later = c :: left ++ laterToo := List.cons_eq_cons.2 begins
          have ends : Ends later := by simpa using @SpellsMembers.ends _ _ [] further
          have endsToo : Ends laterToo := by simpa using @SpellsMembers.ends _ _ [] furtherToo
          obtain ⟨text, rfl⟩ := spelled.eq_of_append spelledToo ends endsToo values
          rw [← text] at spelledToo
          have here : tree = value := alone _ List.mem_cons_self value _ spelled spelledToo
          rw [here, ih (fun member among => alone member (List.mem_cons_of_mem _ among)) further
            furtherToo]

/-- Whether two trees are of the same form. -/
inductive Formed : ParseTree → ParseTree → Prop
  | null : Formed .null .null
  | bool (value : Bool) : Formed (.bool value) (.bool value)
  | number (written again : List UInt8) : Formed (.number written) (.number again)
  | string (written again : List UInt8) : Formed (.string written) (.string again)
  | array (items others : List ParseTree) : Formed (.array items) (.array others)
  | object (members others : List (List UInt8 × ParseTree)) :
      Formed (.object members) (.object others)

theorem Initial.formed {tree other : ParseTree} {b : UInt8} (initial : tree.Initial b)
    (initialToo : other.Initial b) : Formed tree other := by
  cases tree with
  | null =>
      obtain rfl := initial
      cases other with
      | null => exact .null
      | bool value => cases value <;> simp [Initial] at initialToo
      | number written => simp [Initial, isDigit] at initialToo
      | _ => simp [Initial] at initialToo
  | bool value =>
      cases other with
      | bool again =>
          have same : value = again := by
            cases value <;> cases again <;> simp_all [Initial]
          exact same ▸ .bool value
      | _ => cases value <;> simp_all [Initial, isDigit]
  | number written =>
      cases other with
      | number again => exact .number written again
      | bool value => cases value <;> simp_all [Initial, isDigit]
      | _ => simp_all [Initial, isDigit]
  | string written =>
      obtain rfl := initial
      cases other with
      | string again => exact .string written again
      | bool value => cases value <;> simp [Initial] at initialToo
      | _ => simp [Initial, isDigit] at initialToo
  | array items =>
      obtain rfl := initial
      cases other with
      | array others => exact .array items others
      | bool value => cases value <;> simp [Initial] at initialToo
      | _ => simp [Initial, isDigit] at initialToo
  | object members =>
      obtain rfl := initial
      cases other with
      | object others => exact .object members others
      | bool value => cases value <;> simp [Initial] at initialToo
      | _ => simp [Initial, isDigit] at initialToo

theorem Spells.formed {tree other : ParseTree} {text : List UInt8} (spells : tree.Spells text)
    (spellsToo : other.Spells text) : Formed tree other := by
  obtain ⟨b, later, rfl, initial⟩ := spells.initial
  obtain ⟨c, _, same, initialToo⟩ := spellsToo.initial
  obtain ⟨rfl, _⟩ := List.cons.inj same
  exact initial.formed initialToo

theorem Spells.unique (tree : ParseTree) : tree.Alone := by
  induction tree with
  | null =>
      intro other text spells spellsToo
      cases spells.formed spellsToo
      rfl
  | bool value =>
      intro other text spells spellsToo
      cases spells.formed spellsToo
      rfl
  | number written =>
      intro other text spells spellsToo
      cases spells.formed spellsToo
      rw [← spells.2, ← spellsToo.2]
  | string written =>
      intro other text spells spellsToo
      cases spells.formed spellsToo with
      | string _ again =>
          obtain ⟨content, rfl⟩ := spells
          obtain ⟨contentToo, same⟩ := spellsToo
          rw [(eq_of_content content contentToo (List.cons.inj same).2).1]
  | array items ih =>
      intro other text spells spellsToo
      cases spells.formed spellsToo with
      | array _ others =>
          obtain ⟨body, spelled, rfl⟩ := spells
          obtain ⟨_, spelledToo, same⟩ := spellsToo
          obtain ⟨_, rfl⟩ := List.cons.inj same
          rw [spelled.unique ih spelledToo]
  | object members ih =>
      intro other text spells spellsToo
      cases spells.formed spellsToo with
      | object _ others =>
          obtain ⟨body, spelled, rfl⟩ := spells
          obtain ⟨_, spelledToo, same⟩ := spellsToo
          obtain ⟨_, rfl⟩ := List.cons.inj same
          rw [spelled.unique ih spelledToo]

theorem SpellsDocument.unique {tree other : ParseTree} {document : List UInt8}
    (spells : tree.SpellsDocument document) (spellsToo : other.SpellsDocument document) :
    tree = other := by
  obtain ⟨gap, text, behind, blank, spelled, trailing, rfl⟩ := spells
  obtain ⟨gapToo, written, behindToo, blankToo, spelledToo, trailingToo, same⟩ := spellsToo
  have ends {bytes : List UInt8} (blank : Blank bytes) : Ends bytes := by
    simpa using Ends.blank_append blank Ends.nil
  obtain ⟨b, bytes, rfl, visible, _⟩ := spelled.head
  obtain ⟨c, left, rfl, visibleToo, _⟩ := spelledToo.head
  have begins := eq_of_blank blank blankToo visible visibleToo same
  have values : b :: bytes ++ behind = c :: left ++ behindToo := List.cons_eq_cons.2 begins
  obtain ⟨text, _⟩ := spelled.eq_of_append spelledToo (ends trailing) (ends trailingToo) values
  rw [← text] at spelledToo
  exact Spells.unique tree other _ spelled spelledToo

theorem SpellsDocument.iff_eq {tree : ParseTree} {document : List UInt8}
    (spells : tree.SpellsDocument document) (other : ParseTree) :
    other.SpellsDocument document ↔ other = tree :=
  ⟨fun also => also.unique spells, fun same => same ▸ spells⟩

end ParseTree

/-- A document that is read spells one tree, and what was read is of that tree. -/
theorem read_unique {kind : Kind} {document : List UInt8} {found : Datum}
    (accepted : read kind document = .ok found) :
    ∃ tree : ParseTree, (∀ other : ParseTree, other.SpellsDocument document ↔ other = tree) ∧
      tree.datum? nestingLimit kind = some found := by
  obtain ⟨tree, spells⟩ := exists_spelled accepted
  have outcome := read_document kind spells
  rw [accepted, toOption_ok] at outcome
  exact ⟨tree, spells.iff_eq, outcome.symm⟩

end CatalogSeed.Document
