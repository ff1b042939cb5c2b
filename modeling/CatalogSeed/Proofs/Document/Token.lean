import CatalogSeed.Document.Skip

/-!
The smallest parts of a document in front of other bytes. What is written between quotes and what
is written as a number is read the same whatever follows, as long as the number ends there.
-/

namespace CatalogSeed.Document

variable {α β ε : Type}

/-! Outcomes without their failures. -/

@[simp] theorem toOption_ok (value : α) : (Except.ok value : Except ε α).toOption = some value :=
  rfl

@[simp] theorem toOption_error (failure : ε) :
    (Except.error failure : Except ε α).toOption = none := rfl

@[simp] theorem toOption_map (change : α → β) (outcome : Except ε α) :
    (outcome.map change).toOption = outcome.toOption.map change := by
  cases outcome <;> rfl

@[simp] theorem toOption_bind (outcome : Except ε α) (next : α → Except ε β) :
    (outcome >>= next).toOption = outcome.toOption.bind fun value => (next value).toOption := by
  cases outcome <;> rfl

@[simp] theorem toOption_mapError {ε' : Type} (change : ε → ε') (outcome : Except ε α) :
    (outcome.mapError change).toOption = outcome.toOption := by
  cases outcome <;> rfl

theorem toOption_eq_some {outcome : Except ε α} {value : α} :
    outcome.toOption = some value ↔ outcome = .ok value := by
  cases outcome <;> simp

/-! Blanks. -/

def Blank (gap : List UInt8) : Prop := ∀ b ∈ gap, isBlank b = true

theorem Blank.nil : Blank [] := by simp [Blank]

theorem skipBlanks_append {gap : List UInt8} (blank : Blank gap) (rest : List UInt8) :
    skipBlanks (gap ++ rest) = skipBlanks rest := by
  induction gap with
  | nil => rfl
  | cons b gap ih =>
      have first := blank b List.mem_cons_self
      have later : Blank gap := fun c found => blank c (List.mem_cons_of_mem _ found)
      rw [List.cons_append, skipBlanks, List.dropWhile_cons_of_pos first]
      exact ih later

theorem skipBlanks_cons {b : UInt8} (visible : isBlank b = false) (rest : List UInt8) :
    skipBlanks (b :: rest) = b :: rest :=
  List.dropWhile_cons_of_neg (by simp [visible])

/-- The first byte behind a gap is reached. -/
theorem skipBlanks_gap {gap : List UInt8} (blank : Blank gap) {b : UInt8}
    (visible : isBlank b = false) (rest : List UInt8) :
    skipBlanks (gap ++ b :: rest) = b :: rest := by
  rw [skipBlanks_append blank, skipBlanks_cons visible]

/-- The bytes behind a value that no number goes on with: a blank, a comma, a closing bracket or
brace, or none at all. -/
def Ends (rest : List UInt8) : Prop :=
  ∀ b later, rest = b :: later → isBlank b = true ∨ b = 0x2C ∨ b = 0x5D ∨ b = 0x7D

theorem Ends.nil : Ends [] := by simp [Ends]

theorem ends_cons {b : UInt8} {later : List UInt8}
    (ending : isBlank b = true ∨ b = 0x2C ∨ b = 0x5D ∨ b = 0x7D) : Ends (b :: later) := by
  intro c rest same
  obtain ⟨rfl, rfl⟩ := List.cons.inj same
  exact ending

theorem Ends.blank_append {gap rest : List UInt8} (blank : Blank gap) (ends : Ends rest) :
    Ends (gap ++ rest) := by
  cases gap with
  | nil => exact ends
  | cons b gap => exact ends_cons (Or.inl (blank b List.mem_cons_self))

/-- The bytes that digits are told from. -/
theorem visible_of_isDigit {b : UInt8} (digit : isDigit b = true) :
    isBlank b = false ∧ b ≠ 0x5D ∧ b ≠ 0x7D ∧ b ≠ 0x6E ∧ b ≠ 0x74 ∧ b ≠ 0x66 ∧ b ≠ 0x2D ∧
      b ≠ 0x22 ∧ b ≠ 0x5B ∧ b ≠ 0x7B := by
  refine ⟨?_, ?_, ?_, ?_, ?_, ?_, ?_, ?_, ?_, ?_⟩
  · cases blank : isBlank b with
    | false => rfl
    | true =>
        simp only [isBlank, Bool.or_eq_true, decide_eq_true_eq] at blank
        rcases blank with ((rfl | rfl) | rfl) | rfl <;> contradiction
  all_goals
    rintro rfl
    contradiction

/-- A byte that ends numbers begins no part of one. -/
theorem not_numeric_of_ending {b : UInt8}
    (ending : isBlank b = true ∨ b = 0x2C ∨ b = 0x5D ∨ b = 0x7D) :
    isDigit b = false ∧ b ≠ 0x2E ∧ b ≠ 0x65 ∧ b ≠ 0x45 := by
  simp only [isBlank, Bool.or_eq_true, decide_eq_true_eq] at ending
  rcases ending with (((rfl | rfl) | rfl) | rfl) | rfl | rfl | rfl <;> decide

theorem word_append (letters rest : List UInt8) : word letters (letters ++ rest) = .ok rest := by
  induction letters with
  | nil => rfl
  | cons letter letters ih => simpa [word] using ih

/-! Strings. -/

/-- The state of the passing over a string that goes with a state of its reading. -/
def StringState.passing : StringState → SkipState
  | .between | .high _ => .between
  | .escape | .highEscape _ => .escape
  | .hex _ digits => .hex digits

theorem skipString_append {state : SkipState} {bytes later : List UInt8}
    (passed : skipString state bytes = .ok later) (rest : List UInt8) :
    skipString state (bytes ++ rest) = .ok (later ++ rest) := by
  fun_induction skipString state bytes with
  | case1 => contradiction
  | case2 bytes =>
      simp only [Except.ok.injEq] at passed
      simp [skipString, passed]
  | case3 bytes notQuote ih => simpa [skipString] using ih passed
  | case4 => contradiction
  | case5 b bytes notQuote notBackslash visible ih =>
      simpa [skipString, notQuote, notBackslash, visible] using ih passed
  | case6 bytes ih => simpa [skipString] using ih passed
  | case7 b bytes notHex short ih => simpa [skipString, notHex, short] using ih passed
  | case8 => contradiction
  | case9 digits b bytes few ih => simpa [skipString, few] using ih passed
  | case10 digits b bytes enough value ih => simpa [skipString, enough, value] using ih passed
  | case11 => contradiction

/-- A string that can be passed over up to its last byte is read from these bytes alone: what
follows is left, and it fails there exactly if it fails without it. -/
theorem stringBytes_append {state : StringState} {bytes : List UInt8}
    (passed : skipString state.passing bytes = .ok []) (before rest : List UInt8) :
    (stringBytes state before (bytes ++ rest)).toOption =
      (stringBytes state before bytes).toOption.map fun found => (found.1, rest) := by
  -- The states are gone through as the passing has them; those of a surrogate it does not tell
  -- apart, and there the reading may fail where the passing goes on.
  induction bytes generalizing state before with
  | nil => cases state <;> simp [skipString] at passed
  | cons b bytes ih =>
      cases state with
      | between =>
          simp only [StringState.passing, skipString] at passed
          simp only [List.cons_append, stringBytes]
          split at passed
          next quote =>
            simp only [Except.ok.injEq] at passed
            simp [quote, passed]
          next notQuote =>
            split at passed
            next backslash =>
              simpa [notQuote, backslash] using @ih .escape passed before
            next notBackslash =>
              split at passed
              next => contradiction
              next visible =>
                simpa [notQuote, notBackslash, visible] using
                  @ih .between passed (b :: before)
      | escape =>
          simp only [StringState.passing, skipString] at passed
          simp only [List.cons_append, stringBytes]
          split at passed
          next hex => simpa [hex] using @ih (.hex none []) passed before
          next notHex =>
            split at passed
            next short =>
              obtain ⟨c, found⟩ := Option.isSome_iff_exists.1 short
              simpa [notHex, found] using @ih .between passed (c :: before)
            next => contradiction
      | hex high digits =>
          simp only [StringState.passing, skipString] at passed
          simp only [List.cons_append, stringBytes]
          split at passed
          next few => simpa [few] using @ih (.hex high (digits ++ [b])) passed before
          next enough =>
            split at passed
            next known =>
              obtain ⟨value, found⟩ := Option.isSome_iff_exists.1 known
              simp only [enough, if_false, found]
              cases high with
              | none =>
                  simp only
                  split
                  next => simp
                  next =>
                    split
                    next => exact @ih (.high value) passed before
                    next => exact @ih .between passed _
              | some first =>
                  simp only
                  split
                  next => exact @ih .between passed _
                  next => simp
            next => contradiction
      | high value =>
          simp only [List.cons_append, stringBytes]
          split
          next backslash =>
            subst backslash
            exact @ih (.highEscape value) passed before
          next => simp
      | highEscape value =>
          simp only [List.cons_append, stringBytes]
          split
          next hex =>
            subst hex
            exact @ih (.hex (some value) []) passed before
          next => simp

/-- What may be written between two quotes, whether or not it stands for a text. -/
def Content (written : List UInt8) : Prop :=
  skipString .between (written ++ [0x22]) = .ok []

/-- The text that is written between two quotes. -/
def text? (written : List UInt8) : Option String :=
  (string (written ++ [0x22])).toOption.map Prod.fst

theorem toOption_string (bytes : List UInt8) :
    (string bytes).toOption = (stringBytes .between [] bytes).toOption.bind fun found =>
      (Utf8.decode found.1).map fun text => (text, found.2) := by
  rw [string, toOption_bind]
  congr 1
  funext found
  obtain ⟨content, rest⟩ := found
  cases decoded : Utf8.decode content <;> simp [decoded]

theorem string_written {written : List UInt8} (content : Content written) (rest : List UInt8) :
    (string (written ++ 0x22 :: rest)).toOption = (text? written).map fun text => (text, rest) := by
  have read := @stringBytes_append .between _ content [] rest
  rw [List.append_assoc, List.singleton_append] at read
  rw [toOption_string, read, text?, toOption_string]
  cases (stringBytes .between [] (written ++ [0x22])).toOption with
  | none => rfl
  | some found => cases decoded : Utf8.decode found.1 <;> simp [decoded]

theorem skipString_written {written : List UInt8} (content : Content written)
    (rest : List UInt8) : skipString .between (written ++ 0x22 :: rest) = .ok rest := by
  simpa using skipString_append content rest

/-! Numbers. -/

/-- The bytes do not go on with a part of a number. -/
def Unnumbered (rest : List UInt8) : Prop :=
  ∀ b later, rest = b :: later → isDigit b = false ∧ b ≠ 0x2E ∧ b ≠ 0x65 ∧ b ≠ 0x45

theorem Ends.unnumbered {rest : List UInt8} (ends : Ends rest) : Unnumbered rest :=
  fun b later same => not_numeric_of_ending (ends b later same)

theorem digits_append {rest : List UInt8} (unnumbered : Unnumbered rest) (bytes : List UInt8) :
    digits (bytes ++ rest) = ((digits bytes).1, (digits bytes).2 ++ rest) := by
  induction bytes with
  | nil =>
      cases rest with
      | nil => rfl
      | cons b later => simp [digits, (unnumbered b later rfl).1]
  | cons b bytes ih =>
      simp only [digits, Prod.mk.injEq] at ih
      by_cases digit : isDigit b = true
      · simp [digits, digit, ih]
      · simp [digits, digit]

theorem wholeDigits_append {rest : List UInt8} (unnumbered : Unnumbered rest)
    {atEnd other : Cause} {bytes later : List UInt8} {found : List Nat}
    (read : wholeDigits atEnd bytes = .ok (found, later)) :
    wholeDigits other (bytes ++ rest) = .ok (found, later ++ rest) := by
  cases bytes with
  | nil => contradiction
  | cons b bytes =>
      simp only [wholeDigits] at read
      simp only [List.cons_append, wholeDigits]
      split at read
      next zero =>
        simp only [zero, if_true]
        cases bytes with
        | nil =>
            simp only [Except.ok.injEq, Prod.mk.injEq] at read
            obtain ⟨rfl, rfl⟩ := read
            cases rest with
            | nil => rfl
            | cons c rest => simp [(unnumbered c rest rfl).1]
        | cons c bytes =>
            simp only at read
            split at read
            next => contradiction
            next notDigit =>
              simp only [Except.ok.injEq, Prod.mk.injEq] at read
              obtain ⟨rfl, rfl⟩ := read
              simp [notDigit]
      next notZero =>
        split at read
        next digit =>
          simp only [Except.ok.injEq] at read
          simp only [notZero, if_false, digit, if_true, ← List.cons_append,
            digits_append unnumbered, read]
        next => contradiction

theorem fractionDigits_append {rest : List UInt8} (unnumbered : Unnumbered rest)
    {atEnd other : Cause} {bytes later : List UInt8} {found : List Nat}
    (read : fractionDigits atEnd bytes = .ok (found, later)) :
    fractionDigits other (bytes ++ rest) = .ok (found, later ++ rest) := by
  unfold fractionDigits at read
  split at read
  next bytes =>
    split at read
    next => contradiction
    next => contradiction
    next noDigits notEmpty =>
      simp only [Except.ok.injEq] at read
      simp only [List.cons_append, fractionDigits, digits_append unnumbered, read]
      split
      next same =>
        simp only [Prod.mk.injEq] at same
        obtain ⟨rfl, emptied⟩ := same
        exact (noDigits (by simp_all)).elim
      next c further same =>
        simp only [Prod.mk.injEq] at same
        obtain ⟨rfl, _⟩ := same
        cases later with
        | nil => exact (noDigits read).elim
        | cons d later => exact (notEmpty d later read).elim
      next => rfl
  next pointless =>
    simp only [Except.ok.injEq, Prod.mk.injEq] at read
    obtain ⟨rfl, rfl⟩ := read
    cases bytes with
    | nil =>
        cases rest with
        | nil => rfl
        | cons b rest =>
            have different := (unnumbered b rest rfl).2.1
            simp [fractionDigits, different]
    | cons b bytes =>
        have different : b ≠ 0x2E := fun same => pointless bytes (by rw [same])
        simp [fractionDigits, different]

theorem fractionDigits_point (atEnd : Cause) (bytes : List UInt8) {found : List Nat}
    {later : List UInt8} :
    fractionDigits atEnd (0x2E :: bytes) = .ok (found, later) ↔
      found ≠ [] ∧ digits bytes = (found, later) := by
  rcases parted : digits bytes with ⟨values, left⟩
  cases values with
  | nil =>
      cases left <;> simp +contextual [fractionDigits, parted, eq_comm]
  | cons value values =>
      simp only [fractionDigits, parted, Except.ok.injEq, iff_and_self]
      intro same
      rw [← (Prod.mk.inj same).1]
      exact List.cons_ne_nil _ _

theorem fractionDigits_plain (atEnd : Cause) {b : UInt8} (plain : b ≠ 0x2E) (bytes : List UInt8) :
    fractionDigits atEnd (b :: bytes) = .ok ([], b :: bytes) := by
  simp [fractionDigits, plain]

theorem exponentSign_append {bytes rest : List UInt8} (some : bytes ≠ []) :
    exponentSign (bytes ++ rest) = ((exponentSign bytes).1, (exponentSign bytes).2 ++ rest) := by
  obtain ⟨b, bytes, rfl⟩ := List.exists_cons_of_ne_nil some
  by_cases plus : b = 0x2B
  · subst plus; rfl
  · by_cases minus : b = 0x2D
    · subst minus; rfl
    · simp [exponentSign, plus, minus]

theorem exponentDigits_cons (atEnd : Cause) {b : UInt8} (letter : b = 0x65 ∨ b = 0x45)
    (bytes : List UInt8) {found : Option (Bool × List Nat)} {later : List UInt8} :
    exponentDigits atEnd (b :: bytes) = .ok (found, later) ↔
      (digits (exponentSign bytes).2).1 ≠ [] ∧ (digits (exponentSign bytes).2).2 = later ∧
        found = some ((exponentSign bytes).1, (digits (exponentSign bytes).2).1) := by
  rcases parted : digits (exponentSign bytes).2 with ⟨values, behind⟩
  cases values with
  | nil =>
      cases signed : (exponentSign bytes).2 <;> rw [signed] at parted <;>
        simp [exponentDigits, letter, parted, signed]
  | cons value values =>
      simp only [exponentDigits, letter, if_true, parted, Except.ok.injEq, Prod.mk.injEq, ne_eq,
        List.cons_ne_nil, not_false_eq_true, true_and]
      exact ⟨fun same => ⟨same.2, same.1.symm⟩, fun same => ⟨same.2.symm, same.1⟩⟩

theorem exponentDigits_plain (atEnd : Cause) {b : UInt8} (plain : ¬(b = 0x65 ∨ b = 0x45))
    (bytes : List UInt8) : exponentDigits atEnd (b :: bytes) = .ok (none, b :: bytes) := by
  simp [exponentDigits, plain]

theorem exponentDigits_append {rest : List UInt8} (unnumbered : Unnumbered rest)
    {atEnd other : Cause} {bytes later : List UInt8} {found : Option (Bool × List Nat)}
    (read : exponentDigits atEnd bytes = .ok (found, later)) :
    exponentDigits other (bytes ++ rest) = .ok (found, later ++ rest) := by
  cases bytes with
  | nil =>
      simp only [exponentDigits, Except.ok.injEq, Prod.mk.injEq] at read
      obtain ⟨rfl, rfl⟩ := read
      cases rest with
      | nil => rfl
      | cons b rest =>
          obtain ⟨_, _, lower, upper⟩ := unnumbered b rest rfl
          simp [exponentDigits, lower, upper]
  | cons b bytes =>
      by_cases letter : b = 0x65 ∨ b = 0x45
      · rw [exponentDigits_cons atEnd letter] at read
        have some : bytes ≠ [] := by
          rintro rfl
          exact read.1 rfl
        rw [List.cons_append, exponentDigits_cons other letter, exponentSign_append some,
          digits_append unnumbered]
        exact ⟨read.1, by rw [read.2.1], read.2.2⟩
      · simp only [exponentDigits, letter, if_false, Except.ok.injEq, Prod.mk.injEq] at read
        obtain ⟨rfl, rfl⟩ := read
        simp [exponentDigits, letter]

theorem numeral_append {rest : List UInt8} (unnumbered : Unnumbered rest) {atEnd other : Cause}
    {negative : Bool} {bytes : List UInt8} {found : Numeral}
    (read : numeral atEnd negative bytes = .ok (found, [])) :
    numeral other negative (bytes ++ rest) = .ok (found, rest) := by
  simp only [numeral, bind, Except.bind] at read ⊢
  split at read
  next => contradiction
  next whole first =>
    split at read
    next => contradiction
    next fraction second =>
      split at read
      next => contradiction
      next exponent third =>
        simp only [Except.ok.injEq, Prod.mk.injEq] at read
        obtain ⟨rfl, behind⟩ := read
        simp only [wholeDigits_append unnumbered first, fractionDigits_append unnumbered second,
          exponentDigits_append unnumbered third, behind, List.nil_append]

/-- What was read, if nothing is left behind it. -/
def entire? : Except Failure (α × List UInt8) → Option α
  | .ok (found, []) => some found
  | _ => none

theorem entire?_eq_some {outcome : Except Failure (α × List UInt8)} {found : α} :
    entire? outcome = some found ↔ outcome = .ok (found, []) := by
  unfold entire?
  split <;> simp_all

/-- The number that these bytes and no others are, as it is written. -/
def numeral? : List UInt8 → Option Numeral
  | [] => none
  | b :: bytes =>
      if b = 0x2D then entire? (numeral .badNumber true bytes)
      else entire? (numeral .badNumber false (b :: bytes))

/-- The value of the number that is written, unless it is too large. -/
def number? (written : List UInt8) : Option Number :=
  (numeral? written).bind fun found => found.value.toOption

/-- What is written begins with a sign or a digit, and is read up to its end whichever reader
looks at it. -/
theorem numeral_written {written : List UInt8} {found : Numeral}
    (read : numeral? written = some found) :
    ∃ b bytes, written = b :: bytes ∧
      (b = 0x2D ∧ (∀ atEnd rest, Ends rest →
          numeral atEnd true (bytes ++ rest) = .ok (found, rest)) ∨
        isDigit b = true ∧ ∀ atEnd rest, Ends rest →
          numeral atEnd false (b :: (bytes ++ rest)) = .ok (found, rest)) := by
  cases written with
  | nil => contradiction
  | cons b bytes =>
      refine ⟨b, bytes, rfl, ?_⟩
      simp only [numeral?] at read
      split at read
      next minus =>
        have outcome := entire?_eq_some.1 read
        exact Or.inl ⟨minus, fun atEnd rest ends => numeral_append ends.unnumbered outcome⟩
      next positive =>
        have outcome := entire?_eq_some.1 read
        refine Or.inr ⟨?_, fun atEnd rest ends => numeral_append ends.unnumbered outcome⟩
        cases digit : isDigit b with
        | true => rfl
        | false =>
            have notZero : b ≠ 0x30 := by
              rintro rfl
              contradiction
            simp [numeral, wholeDigits, digit, notZero, bind, Except.bind] at outcome

theorem toOption_number (negative : Bool) (bytes : List UInt8) :
    (number negative bytes).toOption =
      (numeral .endInValue negative bytes).toOption.bind fun found =>
        found.1.value.toOption.map fun value => (value, found.2) := by
  rw [number, toOption_bind]
  congr 1
  funext found
  cases valued : found.1.value <;> simp [valued]

theorem number_written {written : List UInt8} (valid : (numeral? written).isSome) :
    ∃ b bytes, written = b :: bytes ∧
      (b = 0x2D ∧ (∀ rest, Ends rest →
          (number true (bytes ++ rest)).toOption =
            (number? written).map fun value => (value, rest)) ∨
        isDigit b = true ∧ ∀ rest, Ends rest →
          (number false (b :: (bytes ++ rest))).toOption =
            (number? written).map fun value => (value, rest)) := by
  obtain ⟨found, read⟩ := Option.isSome_iff_exists.1 valid
  obtain ⟨b, bytes, rfl, ⟨minus, outcome⟩ | ⟨digit, outcome⟩⟩ := numeral_written read
  · refine ⟨b, bytes, rfl, Or.inl ⟨minus, fun rest ends => ?_⟩⟩
    rw [toOption_number, outcome _ rest ends, number?, read]
    rfl
  · refine ⟨b, bytes, rfl, Or.inr ⟨digit, fun rest ends => ?_⟩⟩
    rw [toOption_number, outcome _ rest ends, number?, read]
    rfl

end CatalogSeed.Document
