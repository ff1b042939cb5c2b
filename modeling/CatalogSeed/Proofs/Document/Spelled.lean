import CatalogSeed.Proofs.Document.Taken

/-!
Texts of values, items and members in front of other bytes. Whatever can be passed over is the text
of a tree: the brackets that are still open tell what is left of it.
-/

namespace CatalogSeed.Document

open ParseTree

variable {first : Bool} {bytes middle rest : List UInt8}

/-- The bytes are those of a value behind blanks, and then the rest. -/
def ValueThen (bytes rest : List UInt8) : Prop :=
  ∃ gap text tree, Blank gap ∧ Spells tree text ∧ bytes = gap ++ (text ++ rest)

/-- The bytes are those of the items that are left and a closing bracket, and then the rest. -/
def ItemsThen (first : Bool) (bytes rest : List UInt8) : Prop :=
  ∃ text items, SpellsItems first items text ∧ bytes = text ++ rest

def MembersThen (first : Bool) (bytes rest : List UInt8) : Prop :=
  ∃ text members, SpellsMembers first members text ∧ bytes = text ++ rest

/-- The bytes behind a key: a colon and a value. -/
def ColonThen (bytes rest : List UInt8) : Prop :=
  ∃ gap value, Blank gap ∧ bytes = gap ++ 0x3A :: value ∧ ValueThen value rest

theorem ValueThen.of_blank {gap : List UInt8} (blank : Blank gap) (value : ValueThen bytes rest) :
    ValueThen (gap ++ bytes) rest := by
  obtain ⟨inner, text, tree, first, spells, rfl⟩ := value
  exact ⟨gap ++ inner, text, tree, List.forall_mem_append.2 ⟨blank, first⟩, spells, by simp⟩

theorem ValueThen.of_skipBlanks (value : ValueThen (skipBlanks bytes) rest) :
    ValueThen bytes rest := by
  have blank : Blank (bytes.takeWhile isBlank) := List.all_eq_true.1 List.all_takeWhile
  have taken := value.of_blank blank
  rwa [skipBlanks, List.takeWhile_append_dropWhile] at taken

theorem ValueThen.shorter (value : ValueThen bytes rest) : rest.length < bytes.length := by
  obtain ⟨gap, text, tree, _, spells, rfl⟩ := value
  obtain ⟨b, later, rfl, _⟩ := spells.head
  simp only [List.length_append, List.length_cons]
  omega

theorem valueThen_text {tree : ParseTree} {text : List UInt8} (spells : tree.Spells text)
    (rest : List UInt8) : ValueThen (text ++ rest) rest :=
  ⟨[], text, tree, Blank.nil, spells, rfl⟩

theorem itemsThen_close {gap : List UInt8} (blank : Blank gap) (first : Bool)
    (rest : List UInt8) : ItemsThen first (gap ++ 0x5D :: rest) rest :=
  ⟨gap ++ [0x5D], [], ⟨gap, blank, rfl⟩, by simp⟩

theorem ItemsThen.cons {lead : List UInt8} (leads : Leads first lead)
    (value : ValueThen bytes middle) (items : ItemsThen false middle rest) :
    ItemsThen first (lead ++ bytes) rest := by
  obtain ⟨gap, text, tree, blank, spells, rfl⟩ := value
  obtain ⟨later, trees, further, rfl⟩ := items
  exact ⟨_, tree :: trees, ⟨lead ++ gap, text, later, leads.append blank, spells, further, rfl⟩,
    by simp⟩

theorem membersThen_close {gap : List UInt8} (blank : Blank gap) (first : Bool)
    (rest : List UInt8) : MembersThen first (gap ++ 0x7D :: rest) rest :=
  ⟨gap ++ [0x7D], [], ⟨gap, blank, rfl⟩, by simp⟩

theorem MembersThen.cons {lead key : List UInt8} (leads : Leads first lead)
    (content : Content key) (value : ColonThen bytes middle)
    (members : MembersThen false middle rest) :
    MembersThen first (lead ++ 0x22 :: (key ++ 0x22 :: bytes)) rest := by
  obtain ⟨before, _, blank, rfl, behind, text, tree, gap, spells, rfl⟩ := value
  obtain ⟨later, trees, further, rfl⟩ := members
  exact ⟨_, (key, tree) :: trees,
    ⟨lead, before, behind, text, later, leads, content, blank, gap, spells, further, rfl⟩, by simp⟩

theorem ItemsThen.value (items : ItemsThen true bytes rest) : ValueThen (0x5B :: bytes) rest := by
  obtain ⟨text, trees, spells, rfl⟩ := items
  exact @valueThen_text (.array trees) _ ⟨text, spells, rfl⟩ rest

theorem MembersThen.value (members : MembersThen true bytes rest) :
    ValueThen (0x7B :: bytes) rest := by
  obtain ⟨text, trees, spells, rfl⟩ := members
  exact @valueThen_text (.object trees) _ ⟨text, spells, rfl⟩ rest

/-! Values without brackets. -/

theorem null_gives (bytes : List UInt8) :
    Gives (ValueThen (0x6E :: bytes)) (word wordNull bytes) :=
  (word_gives wordNull bytes).imp fun rest parts =>
    parts ▸ @valueThen_text .null _ rfl rest

theorem true_gives (bytes : List UInt8) :
    Gives (ValueThen (0x74 :: bytes)) (word wordTrue bytes) :=
  (word_gives wordTrue bytes).imp fun rest parts =>
    parts ▸ @valueThen_text (.bool true) _ rfl rest

theorem false_gives (bytes : List UInt8) :
    Gives (ValueThen (0x66 :: bytes)) (word wordFalse bytes) :=
  (word_gives wordFalse bytes).imp fun rest parts =>
    parts ▸ @valueThen_text (.bool false) _ rfl rest

theorem valueThen_string {written : List UInt8} (content : Content written)
    (parts : bytes = written ++ 0x22 :: rest) : ValueThen (0x22 :: bytes) rest := by
  have spells : (ParseTree.string written).Spells (0x22 :: (written ++ [0x22])) := ⟨content, rfl⟩
  simpa [parts] using valueThen_text spells rest

theorem valueThen_negative {written : List UInt8} {found : Numeral}
    (read : numeral .badNumber true written = .ok (found, [])) (parts : bytes = written ++ rest) :
    ValueThen (0x2D :: bytes) rest := by
  have valid : numeral? (0x2D :: written) = some found := by
    rw [numeral?, if_pos rfl, read]
    rfl
  have spells : (ParseTree.number (0x2D :: written)).Spells (0x2D :: written) :=
    ⟨Option.isSome_of_eq_some valid, rfl⟩
  simpa [parts] using valueThen_text spells rest

theorem valueThen_positive {b : UInt8} (digit : isDigit b = true) {written : List UInt8}
    {found : Numeral} (read : numeral .badNumber false written = .ok (found, []))
    (parts : b :: bytes = written ++ rest) : ValueThen (b :: bytes) rest := by
  cases written with
  | nil => contradiction
  | cons c written =>
      obtain ⟨rfl, rfl⟩ := List.cons.inj parts
      have positive : b ≠ 0x2D := by
        rintro rfl
        contradiction
      have valid : numeral? (b :: written) = some found := by
        rw [numeral?, if_neg positive, read]
        rfl
      have spells : (ParseTree.number (b :: written)).Spells (b :: written) :=
        ⟨Option.isSome_of_eq_some valid, rfl⟩
      exact valueThen_text spells rest

/-! Values that nobody asked for. -/

/-- What the open brackets still want: the rest of their items or members. -/
def Closes : List Bracket → List UInt8 → List UInt8 → Prop
  | [], bytes, rest => bytes = rest
  | .array :: outer, bytes, rest => ∃ middle, ItemsThen false bytes middle ∧
      Closes outer middle rest
  | .object :: outer, bytes, rest => ∃ middle, MembersThen false bytes middle ∧
      Closes outer middle rest

/-- What is passed over from a step on, with brackets open. -/
def Passes : SkipStep → List Bracket → List UInt8 → List UInt8 → Prop
  | .follow, opened, bytes, rest => Closes opened bytes rest
  | .value, opened, bytes, rest => ∃ middle, ValueThen bytes middle ∧ Closes opened middle rest

/-- The rounds behind these bytes pass over what they should. -/
def RoundsPass (fuel : Nat) (bytes : List UInt8) : Prop :=
  ∀ step opened later, later.length < bytes.length →
    Gives (Passes step opened later) (skipOpen fuel step opened later)

theorem RoundsPass.after {fuel : Nat} (rounds : RoundsPass fuel bytes) (opened : List Bracket)
    {outcome : Except Failure (List UInt8)} (value : Gives (ValueThen bytes) outcome) :
    Gives (Passes .value opened bytes) (outcome >>= skipOpen fuel .follow opened) :=
  value.bind fun middle taken =>
    (rounds .follow opened middle taken.shorter).imp fun _ closes => ⟨middle, taken, closes⟩

theorem skipFollow_gives {fuel : Nat} (rounds : RoundsPass fuel bytes) (opened : List Bracket) :
    Gives (Closes opened bytes) (skipOpen (fuel + 1) .follow opened bytes) := by
  cases opened with
  | nil => exact gives_ok rfl
  | cons bracket outer =>
      simp only [skipOpen]
      cases left : skipBlanks bytes with
      | nil => exact gives_error _ _
      | cons b later =>
          have shorter := (behind_visible left).2
          obtain ⟨gap, blank, _, rfl⟩ := exists_gap left
          simp only
          split
          next comma =>
            subst comma
            have leads {back : List UInt8} (blankToo : Blank back) :
                Leads false (gap ++ 0x2C :: back) := ⟨gap, back, blank, blankToo, rfl⟩
            cases bracket with
            | array =>
                refine (rounds .value (.array :: outer) later shorter).imp ?_
                rintro rest ⟨middle, value, inner, items, closes⟩
                have taken := ItemsThen.cons (leads Blank.nil) value items
                exact ⟨inner, by simpa using taken, closes⟩
            | object =>
                refine (skipKey_gives later).bind fun value parts => ?_
                obtain ⟨back, key, before, blankToo, content, blankThree, rfl⟩ := parts
                refine (rounds .value (.object :: outer) value ?_).imp ?_
                · simp only [List.length_append, List.length_cons]
                  omega
                rintro rest ⟨middle, value, inner, members, closes⟩
                have taken := MembersThen.cons (leads blankToo) content
                  ⟨before, _, blankThree, rfl, value⟩ members
                exact ⟨inner, by simpa using taken, closes⟩
          split
          next closing =>
            subst closing
            refine (rounds .follow outer later shorter).imp fun rest closes => ?_
            cases bracket with
            | array => exact ⟨later, itemsThen_close blank false later, closes⟩
            | object => exact ⟨later, membersThen_close blank false later, closes⟩
          next => exact gives_error _ _

section

variable {fuel : Nat} {gap later : List UInt8}

theorem skipArray_gives (rounds : RoundsPass fuel (gap ++ 0x5B :: later)) (blank : Blank gap)
    (opened : List Bracket) :
    Gives (Passes .value opened (gap ++ 0x5B :: later)) (match skipBlanks later with
      | [] => .error (.next .endInArray [])
      | c :: behind =>
          if c = 0x5D then skipOpen fuel .follow opened behind
          else skipOpen fuel .value (.array :: opened) (c :: behind)) := by
  cases inside : skipBlanks later with
  | nil => exact gives_error _ _
  | cons c behind =>
      obtain ⟨inner, blankToo, _, rfl⟩ := exists_gap inside
      simp only
      split
      next closing =>
        subst closing
        refine (rounds .follow opened behind ?_).imp fun rest closes => ?_
        · simp only [List.length_append, List.length_cons]
          omega
        · have taken := (itemsThen_close blankToo true behind).value
          exact ⟨behind, taken.of_blank blank, closes⟩
      next =>
        refine (rounds .value (.array :: opened) (c :: behind) ?_).imp ?_
        · simp only [List.length_append, List.length_cons]
          omega
        rintro rest ⟨middle, value, behind, items, closes⟩
        have leads : Leads true inner := blankToo
        exact ⟨behind, (items.cons leads value).value.of_blank blank, closes⟩

theorem skipObject_gives (rounds : RoundsPass fuel (gap ++ 0x7B :: later)) (blank : Blank gap)
    (opened : List Bracket) :
    Gives (Passes .value opened (gap ++ 0x7B :: later)) (match skipBlanks later with
      | [] => .error (.next .endInObject [])
      | c :: behind =>
          if c = 0x7D then skipOpen fuel .follow opened behind
          else skipKey (c :: behind) >>= skipOpen fuel .value (.object :: opened)) := by
  cases inside : skipBlanks later with
  | nil => exact gives_error _ _
  | cons c behind =>
      obtain ⟨inner, blankToo, _, rfl⟩ := exists_gap inside
      simp only
      split
      next closing =>
        subst closing
        refine (rounds .follow opened behind ?_).imp fun rest closes => ?_
        · simp only [List.length_append, List.length_cons]
          omega
        · have taken := (membersThen_close blankToo true behind).value
          exact ⟨behind, taken.of_blank blank, closes⟩
      next =>
        refine (skipKey_gives (c :: behind)).bind fun value parts => ?_
        obtain ⟨back, key, before, blankBack, content, blankBefore, parts⟩ := parts
        rw [parts] at rounds ⊢
        refine (rounds .value (.object :: opened) value ?_).imp ?_
        · simp only [List.length_append, List.length_cons]
          omega
        rintro rest ⟨middle, value, behind, members, closes⟩
        have leads : Leads true (inner ++ back) :=
          List.forall_mem_append.2 ⟨blankToo, blankBack⟩
        have taken := members.cons leads content ⟨before, _, blankBefore, rfl, value⟩
        exact ⟨behind, by simpa using taken.value.of_blank blank, closes⟩

theorem skipNumber_gives (rounds : RoundsPass fuel bytes) (opened : List Bracket)
    {negative : Bool} (value : ∀ written figures rest,
      numeral .badNumber negative written = .ok (figures, []) → later = written ++ rest →
        ValueThen bytes rest) :
    Gives (Passes .value opened bytes) (do
      let (_, rest) ← numeral .badNumber negative later
      skipOpen fuel .follow opened rest) := by
  refine (numeral_gives .badNumber negative later).bind fun found ⟨written, parts, again⟩ => ?_
  have taken := value written _ _ again parts
  exact (rounds .follow opened found.2 taken.shorter).imp fun _ closes =>
    ⟨found.2, taken, closes⟩

theorem skipOpening_gives (rounds : RoundsPass fuel bytes) (opened : List Bracket) :
    Gives (Passes .value opened bytes) (skipOpen (fuel + 1) .value opened bytes) := by
  simp only [skipOpen]
  cases left : skipBlanks bytes with
  | nil => exact gives_error _ _
  | cons b later =>
      obtain ⟨gap, blank, _, rfl⟩ := exists_gap left
      -- A value without brackets takes one round.
      have scalar {outcome : Except Failure (List UInt8)}
          (value : Gives (ValueThen (b :: later)) outcome) :
          Gives (Passes .value opened (gap ++ b :: later))
            (outcome >>= skipOpen fuel .follow opened) :=
        rounds.after opened (value.imp fun _ taken => taken.of_blank blank)
      simp only
      split
      next bracket =>
        subst bracket
        exact skipArray_gives rounds blank opened
      split
      next brace =>
        subst brace
        exact skipObject_gives rounds blank opened
      split
      next null => exact scalar (null ▸ null_gives later)
      split
      next true_ => exact scalar (true_ ▸ true_gives later)
      split
      next false_ => exact scalar (false_ ▸ false_gives later)
      split
      next quote =>
        refine scalar ((skipString_gives later).imp fun rest taken => ?_)
        obtain ⟨written, content, parts⟩ := taken
        exact quote ▸ valueThen_string content parts
      split
      next minus =>
        subst minus
        exact skipNumber_gives rounds opened fun _ _ _ read parts =>
          (valueThen_negative read parts).of_blank blank
      split
      next digit =>
        exact skipNumber_gives rounds opened fun _ _ _ read parts =>
          (valueThen_positive digit read parts).of_blank blank
      next => exact gives_error _ _

end

/-- Each round takes up a byte, so the fuel lasts. -/
theorem skipOpen_gives {fuel : Nat} (step : SkipStep) (opened : List Bracket)
    (bytes : List UInt8) (enough : bytes.length < fuel) :
    Gives (Passes step opened bytes) (skipOpen fuel step opened bytes) := by
  induction fuel generalizing step opened bytes with
  | zero => omega
  | succ fuel ih =>
      have rounds : RoundsPass fuel bytes := fun step opened later shorter =>
        ih step opened later (by omega)
      cases step with
      | follow => exact skipFollow_gives rounds opened
      | value => exact skipOpening_gives rounds opened

theorem skipValue_gives (bytes : List UInt8) : Gives (ValueThen bytes) (skipValue bytes) := by
  refine (skipOpen_gives .value [] bytes (by omega)).imp ?_
  rintro rest ⟨middle, value, rfl⟩
  exact value

end CatalogSeed.Document
