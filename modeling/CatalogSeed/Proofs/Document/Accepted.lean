import CatalogSeed.Proofs.Document.Spelled

/-!
Every document that is read spells a tree: what a reader takes up is the text of one, whether it
is wanted or passed over.
-/

namespace CatalogSeed.Document

open ParseTree

variable {α σ : Type}

/-- What the reader takes up is a value behind blanks. -/
def TakesValue (reader : Reader α) : Prop :=
  ∀ bytes, Gives (fun found => ValueThen bytes found.2) (reader bytes)

/-- What is taken up behind a key is a colon and a value. -/
def TakesMember (member : σ → String → Reader σ) : Prop :=
  ∀ state key bytes, Gives (fun found => ColonThen bytes found.2) (member state key bytes)

theorem elements_takes {item : Reader α} (takes : TakesValue item) (fuel : Nat)
    (before : List α) (bytes : List UInt8) :
    Gives (fun found => ItemsThen before.isEmpty bytes found.2)
      (elements item fuel before bytes) := by
  induction fuel generalizing before bytes with
  | zero => exact gives_error _ _
  | succ fuel ih =>
      refine (nextElement_gives before.isEmpty bytes).bind fun (more, later) parts => ?_
      cases more with
      | false =>
          obtain ⟨gap, blank, rfl⟩ := parts
          exact gives_ok (itemsThen_close blank _ later)
      | true =>
          obtain ⟨lead, leads, rfl⟩ := parts
          refine (takes later).bind fun (found, behind) value => ?_
          exact (ih (found :: before) behind).imp fun _ items => items.cons leads value

theorem members_takes {member : σ → String → Reader σ} (takes : TakesMember member) (fuel : Nat)
    (first : Bool) (state : σ) (bytes : List UInt8) :
    Gives (fun found => MembersThen first bytes found.2)
      (members member fuel first state bytes) := by
  induction fuel generalizing first state bytes with
  | zero => exact gives_error _ _
  | succ fuel ih =>
      refine (nextKey_gives first bytes).bind fun (key, later) parts => ?_
      cases key with
      | none =>
          obtain ⟨gap, blank, rfl⟩ := parts
          exact gives_ok (membersThen_close blank first later)
      | some key =>
          obtain ⟨lead, written, leads, content, rfl⟩ := parts
          refine (takes state key later).bind fun (next, behind) value => ?_
          exact (ih false next behind).imp fun _ members => members.cons leads content value

theorem array_takes {item : Reader α} (takes : TakesValue item) (bytes : List UInt8) :
    Gives (fun found => ValueThen (0x5B :: bytes) found.2) (array item bytes) :=
  (elements_takes takes _ [] bytes).imp fun _ items => items.value

theorem object_takes {member : σ → String → Reader σ} (takes : TakesMember member) (start : σ)
    (bytes : List UInt8) :
    Gives (fun found => ValueThen (0x7B :: bytes) found.2) (object member start bytes) :=
  (members_takes takes _ true start bytes).imp fun _ members => members.value

theorem behind_colon_takes {reader : Reader α} (takes : TakesValue reader)
    (bytes : List UInt8) :
    Gives (fun found => ColonThen bytes found.2) (colon bytes >>= reader) :=
  (colon_gives bytes).bind fun later ⟨gap, blank, parts⟩ =>
    (takes later).imp fun _ value => ⟨gap, later, blank, parts, value⟩

theorem bagMember_takes {value : Reader Json} (takes : TakesValue value) :
    TakesMember (bagMember value) := fun _ _ bytes =>
  (behind_colon_takes takes bytes).bind fun _ taken => gives_ok taken

theorem string_takes (bytes : List UInt8) :
    Gives (fun found => ValueThen (0x22 :: bytes) found.2) (string bytes) :=
  (string_gives bytes).imp fun _ ⟨_, content, parts⟩ => valueThen_string content parts

theorem negative_takes (bytes : List UInt8) :
    Gives (fun found => ValueThen (0x2D :: bytes) found.2) (number true bytes) :=
  (number_gives true bytes).imp fun _ ⟨_, _, parts, read⟩ => valueThen_negative read parts

theorem positive_takes {b : UInt8} (digit : isDigit b = true) (bytes : List UInt8) :
    Gives (fun found => ValueThen (b :: bytes) found.2) (number false (b :: bytes)) :=
  (number_gives false (b :: bytes)).imp fun _ ⟨_, _, parts, read⟩ =>
    valueThen_positive digit read parts

theorem json_takes (nesting : Nat) : TakesValue (json nesting) := by
  induction nesting using Nat.strongRecOn with
  | ind nesting ih =>
      intro bytes
      unfold json
      split
      next => exact gives_error _ _
      next b later left =>
        obtain ⟨gap, blank, _, rfl⟩ := exists_gap left
        split
        next null =>
          subst null
          exact (null_gives later).map fun _ value => value.of_blank blank
        split
        next true_ =>
          subst true_
          exact (true_gives later).map fun _ value => value.of_blank blank
        split
        next false_ =>
          subst false_
          exact (false_gives later).map fun _ value => value.of_blank blank
        split
        next minus =>
          subst minus
          exact (negative_takes later).map fun _ value => value.of_blank blank
        split
        next digit => exact (positive_takes digit later).map fun _ value => value.of_blank blank
        split
        next quote =>
          subst quote
          exact (string_takes later).map fun _ value => value.of_blank blank
        split
        next bracket =>
          subst bracket
          cases nesting with
          | zero => exact gives_error _ _
          | succ nesting =>
              exact (array_takes (ih nesting (by omega)) later).map fun _ value =>
                value.of_blank blank
        split
        next brace =>
          subst brace
          cases nesting with
          | zero => exact gives_error _ _
          | succ nesting =>
              exact (object_takes (bagMember_takes (ih nesting (by omega))) [] later).map
                fun _ value => value.of_blank blank
        next => exact gives_error _ _

theorem memberValue_takes {reader : Reader Datum} (takes : TakesValue reader)
    (presence : Presence) : TakesValue (memberValue presence reader) := by
  intro bytes
  unfold memberValue
  split
  next later left =>
    obtain ⟨gap, blank, _, rfl⟩ := exists_gap left
    exact (null_gives later).map fun _ value => value.of_blank blank
  next =>
    exact (takes (skipBlanks bytes)).map fun _ value => value.of_skipBlanks

variable {value : Kind → Reader Datum}

theorem recordMember_takes (takes : ∀ kind, TakesValue (value kind)) (known : List (Member Kind)) :
    TakesMember (recordMember value known) := by
  intro gathered key bytes
  unfold recordMember
  cases known.find? (·.key = key) with
  | none =>
      refine Gives.bind ((colon_gives bytes).bind fun later ⟨gap, blank, parts⟩ =>
        (skipValue_gives later).imp fun _ value => ?_) fun _ taken => gives_ok taken
      exact ⟨gap, later, blank, parts, value⟩
  | some member =>
      simp only
      split
      next => exact gives_error _ _
      next =>
        have read := memberValue_takes (takes member.kind) member.presence
        exact (behind_colon_takes read bytes).bind fun _ taken => gives_ok taken

theorem closeArray_takes (bytes : List UInt8) (first : Bool) :
    Gives (fun rest => ItemsThen first bytes rest) (closeArray bytes) := by
  unfold closeArray
  cases left : skipBlanks bytes with
  | nil => exact gives_error _ _
  | cons b later =>
      obtain ⟨gap, blank, _, rfl⟩ := exists_gap left
      simp only
      split
      next bracket => exact gives_ok (bracket ▸ itemsThen_close blank first later)
      split
      next => split <;> exact gives_error _ _
      next => exact gives_error _ _

theorem positional_takes (takes : ∀ kind, TakesValue (value kind)) (label : String)
    (total count : Nat) (known : List (Member Kind)) (bytes : List UInt8) :
    Gives (fun found => ItemsThen (count = 0) bytes found.2)
      (positional value label total count known bytes) := by
  induction known generalizing count bytes with
  | nil => exact (closeArray_takes bytes _).map fun _ items => items
  | cons member known ih =>
      refine (nextElement_gives _ bytes).bind fun (more, later) parts => ?_
      cases more with
      | false =>
          obtain ⟨gap, blank, rfl⟩ := parts
          simp only [Bool.false_eq_true, if_false]
          split
          next => exact gives_error _ _
          next => exact gives_ok (itemsThen_close blank _ later)
      | true =>
          obtain ⟨lead, leads, rfl⟩ := parts
          have read := memberValue_takes (takes member.kind) member.presence
          refine (read later).bind fun (found, behind) value => ?_
          refine (ih (count + 1) behind).bind fun _ items => gives_ok ?_
          exact items.cons leads value

theorem name_takes (known : List String) (bytes : List UInt8) :
    Gives (fun found => ∃ written, Content written ∧ bytes = written ++ 0x22 :: found.2)
      (name known bytes) := by
  refine (string_gives bytes).bind fun (found, rest) parts => ?_
  simp only
  split
  next => exact gives_ok parts
  next => exact gives_error _ _

theorem nameObject_takes (known : List String) (bytes : List UInt8) :
    Gives (fun found => ValueThen (0x7B :: bytes) found.2) (nameObject known bytes) := by
  rintro ⟨found, rest⟩ read
  obtain ⟨key, behind, value, null, closing, quote, naming, sign, begins, ended, brace⟩ :=
    nameObject_ok.1 read
  obtain ⟨lead, leads, _, rfl⟩ := exists_gap quote
  obtain ⟨written, content, rfl⟩ := name_takes known key _ naming
  obtain ⟨before, blank, rfl⟩ := colon_gives behind _ sign
  obtain ⟨gap, gapBlank, _, rfl⟩ := exists_gap begins
  obtain ⟨last, lastBlank, _, rfl⟩ := exists_gap brace
  have inner := (null_gives null _ ended).of_blank gapBlank
  have members := membersThen_close lastBlank false rest
  have leading : Leads true lead := leads
  exact (members.cons leading content ⟨before, _, blank, rfl, inner⟩).value

theorem tableMember_takes {value : Reader Datum} (takes : TakesValue value) :
    TakesMember (fun (entries : List (String × Datum)) key bytes => do
      let (found, rest) ← colon bytes >>= value
      .ok (entries ++ [(key, found)], rest)) := fun _ _ bytes =>
  (behind_colon_takes takes bytes).bind fun _ taken => gives_ok taken

theorem bracketed_takes (takes : ∀ kind, TakesValue (value kind)) {json : Reader Json}
    (takesJson : TakesValue json) (kind : Kind) : TakesValue (bracketed value json kind) := by
  intro bytes
  unfold bracketed
  split
  next item later => exact (array_takes (takes item) later).map fun _ taken => taken
  next item later =>
    exact (object_takes (tableMember_takes (takes item)) [] later).map fun _ taken => taken
  next later => exact (object_takes (bagMember_takes takesJson) [] later).map fun _ taken => taken
  next label known later =>
    exact (positional_takes takes label known.length 0 known later).map fun _ items =>
      ItemsThen.value items
  next label known later =>
    have members := object_takes (recordMember_takes takes known) [] later
    refine members.bind fun (gathered, rest) taken => ?_
    simp only
    split
    next => exact gives_ok taken
    next => exact gives_error _ _
  next known later => exact (nameObject_takes known later).map fun _ taken => taken
  next => exact gives_error _ _

theorem integer_takes {bytes : List UInt8} {outcome : Except Failure (Number × List UInt8)}
    (number : Gives (fun found => ValueThen bytes found.2) outcome) :
    Gives (fun found => ValueThen bytes found.2) (do
      let (n, rest) ← outcome
      match n with
      | .real _ => .error (.here (.wrongType (.number n) Kind.integer.wanted) rest)
      | .whole value =>
          match value.toInt64? with
          | some value => .ok (Datum.integer value, rest)
          | none => .error (.here (.integerTooLarge value) rest)) := by
  refine number.bind fun found taken => ?_
  obtain ⟨n, rest⟩ := found
  cases n with
  | real x => exact gives_error _ _
  | whole value =>
      simp only
      cases value.toInt64? with
      | none => exact gives_error _ _
      | some value => exact gives_ok taken

theorem scalar_takes (kind : Kind) : TakesValue (scalar kind) := by
  intro bytes
  unfold scalar
  split
  next later => exact (string_takes later).map fun _ taken => taken
  next later => exact (true_gives later).map fun _ taken => taken
  next later => exact (false_gives later).map fun _ taken => taken
  next known later =>
    exact (name_takes known later).map fun _ ⟨_, content, parts⟩ => valueThen_string content parts
  next => exact gives_error _ _
  next b later =>
    split
    next numeric =>
      split
      next minus => exact integer_takes (minus ▸ negative_takes later)
      next positive =>
        exact integer_takes (positive_takes (numeric.resolve_left positive) later)
    next => exact gives_error _ _
  next => exact gives_error _ _

theorem value_takes (nesting : Nat) (kind : Kind) : TakesValue (Document.value nesting kind) := by
  induction nesting using Nat.strongRecOn generalizing kind with
  | ind nesting ih =>
      intro bytes
      refine Gives.imp (?_ : Gives (fun found => ValueThen (skipBlanks bytes) found.2) _)
        fun _ taken => taken.of_skipBlanks
      unfold Document.value
      generalize skipBlanks bytes = left
      split
      next => exact (json_takes nesting _).map fun _ taken => taken
      next => exact gives_error _ _
      next =>
        split
        next =>
          cases nesting with
          | zero => exact gives_error _ _
          | succ nesting =>
              exact bracketed_takes (ih nesting (by omega)) (json_takes nesting) _ _
        next => exact scalar_takes _ _

/-- A document that is read spells a tree. -/
theorem exists_spelled {kind : Kind} {document : List UInt8} {found : Datum}
    (accepted : read kind document = .ok found) :
    ∃ tree : ParseTree, tree.SpellsDocument document := by
  obtain ⟨rest, outcome, blank⟩ := read_ok.1 accepted
  have taken := value_takes nestingLimit kind document _ outcome
  obtain ⟨gap, text, tree, before, spells, parts⟩ := taken
  exact ⟨tree, gap, text, rest, before, spells, blank, parts⟩

end CatalogSeed.Document
