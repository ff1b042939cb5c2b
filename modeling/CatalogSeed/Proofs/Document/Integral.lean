import CatalogSeed.Proofs.Document.ParseTree

/-!
Integers of 64 bits as they are written: a sign and digits, nothing else.
-/

namespace CatalogSeed.Document

/-- The number that digits stand for, the highest first. -/
def decimal (digits : List Nat) : Nat :=
  digits.foldl (fun value digit => 10 * value + digit) 0

/-- The bytes are digits behind a sign or none, without a fraction or an exponent, of a number of
64 bits; a zero has no sign. -/
def Integral (written : List UInt8) : Prop :=
  ∃ (negative : Bool) (figures : List UInt8) (value : Int),
    written = (if negative then [0x2D] else []) ++ figures ∧
    (∀ b ∈ figures, isDigit b = true) ∧
    value = (if negative then -1 else 1) * decimal (figures.map digitValue) ∧
    -0x8000000000000000 ≤ value ∧ value < 0x8000000000000000 ∧ ¬ (negative = true ∧ value = 0)

/-! The parts of a number. -/

theorem digits_parts (bytes : List UInt8) :
    ∃ figures, bytes = figures ++ (digits bytes).2 ∧ (∀ b ∈ figures, isDigit b = true) ∧
      (digits bytes).1 = figures.map digitValue :=
  ⟨bytes.takeWhile isDigit, List.takeWhile_append_dropWhile.symm,
    List.all_eq_true.1 List.all_takeWhile, rfl⟩

theorem wholeDigits_parts {atEnd : Cause} {bytes later : List UInt8} {found : List Nat}
    (read : wholeDigits atEnd bytes = .ok (found, later)) :
    ∃ figures, bytes = figures ++ later ∧ (∀ b ∈ figures, isDigit b = true) ∧
      found = figures.map digitValue := by
  cases bytes with
  | nil => contradiction
  | cons b bytes =>
      simp only [wholeDigits] at read
      split at read
      next zero =>
        subst zero
        cases bytes with
        | nil =>
            obtain ⟨rfl, rfl⟩ := Prod.mk.inj (Except.ok.inj read)
            exact ⟨[0x30], rfl, List.forall_mem_singleton.2 rfl, rfl⟩
        | cons c bytes =>
            simp only at read
            split at read
            next => contradiction
            next =>
              obtain ⟨rfl, rfl⟩ := Prod.mk.inj (Except.ok.inj read)
              exact ⟨[0x30], rfl, List.forall_mem_singleton.2 rfl, rfl⟩
      split at read
      next =>
        obtain ⟨figures, parted, each, values⟩ := digits_parts (b :: bytes)
        rw [Except.ok.inj read] at parted values
        exact ⟨figures, parted, each, values⟩
      next => contradiction

theorem fractionDigits_none {atEnd : Cause} {bytes later : List UInt8}
    (read : fractionDigits atEnd bytes = .ok ([], later)) : later = bytes := by
  cases bytes with
  | nil => exact (Prod.mk.inj (Except.ok.inj read)).2.symm
  | cons b bytes =>
      by_cases point : b = 0x2E
      · subst point
        exact absurd rfl ((fractionDigits_point atEnd bytes).1 read).1
      · rw [fractionDigits_plain atEnd point] at read
        exact (Prod.mk.inj (Except.ok.inj read)).2.symm

theorem exponentDigits_none {atEnd : Cause} {bytes later : List UInt8}
    (read : exponentDigits atEnd bytes = .ok (none, later)) : later = bytes := by
  cases bytes with
  | nil => exact (Prod.mk.inj (Except.ok.inj read)).2.symm
  | cons b bytes =>
      by_cases letter : b = 0x65 ∨ b = 0x45
      · have found := ((exponentDigits_cons atEnd letter bytes).1 read).2.2
        contradiction
      · rw [exponentDigits_plain atEnd letter] at read
        exact (Prod.mk.inj (Except.ok.inj read)).2.symm

/-- A number has neither fraction nor exponent exactly if it is written in digits alone, and then
these are its digits. -/
theorem numeral_plain {atEnd : Cause} {negative : Bool} {bytes : List UInt8} {found : Numeral}
    (read : numeral atEnd negative bytes = .ok (found, [])) :
    (found.fraction = [] ∧ found.exponent = none ↔ ∀ b ∈ bytes, isDigit b = true) ∧
      found.negative = negative ∧
      (found.fraction = [] → found.exponent = none → found.whole = bytes.map digitValue) := by
  simp only [numeral, bind, Except.bind] at read
  split at read
  next => contradiction
  next whole first =>
    split at read
    next => contradiction
    next fraction second =>
      split at read
      next => contradiction
      next exponent third =>
        obtain ⟨figures, parted, each, values⟩ := wholeDigits_parts first
        obtain ⟨rfl, ended⟩ := Prod.mk.inj (Except.ok.inj read)
        obtain ⟨whole, behind⟩ := whole
        obtain ⟨fraction, left⟩ := fraction
        obtain ⟨exponent, rest⟩ := exponent
        obtain rfl : rest = [] := ended
        have spent (bare : fraction = []) (small : exponent = none) : bytes = figures := by
          subst bare small
          have ended : [] = left := exponentDigits_none third
          have whole : left = behind := fractionDigits_none second
          simpa [← whole, ← ended] using parted
        refine ⟨⟨fun plain => ?_, fun all => ?_⟩, rfl, fun bare small => ?_⟩
        · obtain ⟨bare, small⟩ := plain
          rw [spent bare small]
          exact each
        · cases behind with
          | nil =>
              obtain ⟨rfl, rfl⟩ := Prod.mk.inj (Except.ok.inj second)
              exact ⟨rfl, (Prod.mk.inj (Except.ok.inj third)).1.symm⟩
          | cons b behind =>
              have digit : isDigit b = true := all b (by simp [parted])
              have point : b ≠ 0x2E := by
                rintro rfl
                contradiction
              have letter : ¬(b = 0x65 ∨ b = 0x45) := by
                rintro (rfl | rfl)
                · contradiction
                · contradiction
              rw [fractionDigits_plain atEnd point] at second
              obtain ⟨rfl, rfl⟩ := Prod.mk.inj (Except.ok.inj second)
              rw [exponentDigits_plain atEnd letter] at third
              cases (Prod.mk.inj (Except.ok.inj third)).2
        · rw [spent bare small]
          exact values

theorem numeral?_parts {written : List UInt8} {found : Numeral}
    (read : numeral? written = some found) :
    ∃ bytes, written = (if found.negative then [0x2D] else []) ++ bytes ∧
      numeral .badNumber found.negative bytes = .ok (found, []) := by
  cases written with
  | nil => contradiction
  | cons b bytes =>
      simp only [numeral?] at read
      split at read
      next minus =>
        have outcome := entire?_eq_some.1 read
        have sign := (numeral_plain outcome).2.1
        refine ⟨bytes, by simp [minus, sign], ?_⟩
        rw [sign]
        exact outcome
      next =>
        have outcome := entire?_eq_some.1 read
        have sign := (numeral_plain outcome).2.1
        refine ⟨b :: bytes, by simp [sign], ?_⟩
        rw [sign]
        exact outcome

/-! Values. -/

theorem le_decimal (start : Nat) (digits : List Nat) :
    start ≤ digits.foldl (fun value digit => 10 * value + digit) start := by
  induction digits generalizing start with
  | nil => exact Nat.le_refl start
  | cons digit digits ih =>
      have later := ih (10 * start + digit)
      rw [List.foldl_cons]
      omega

/-- Digits are left over exactly if the number has more than 64 bits. -/
theorem absorb_spent {start : Nat} (small : start < 0x10000000000000000) (digits : List Nat) :
    ((absorb start digits).2 = 0 ↔
        digits.foldl (fun value digit => 10 * value + digit) start < 0x10000000000000000) ∧
      ((absorb start digits).2 = 0 →
        (absorb start digits).1 = digits.foldl (fun value digit => 10 * value + digit) start) := by
  induction digits generalizing start with
  | nil => simpa [absorb] using small
  | cons digit digits ih =>
      rw [List.foldl_cons, absorb]
      split
      next fits => exact ih fits
      next large =>
        have later := le_decimal (10 * start + digit) digits
        simp only [Nat.succ_ne_zero, false_iff, false_imp_iff,
          and_true]
        omega

/-- The number as an integer, which it is without fraction, exponent and digits left over. -/
def Numeral.whole? (found : Numeral) : Option Whole :=
  match found.fraction, found.exponent, (absorb 0 found.whole).2 with
  | [], none, 0 => Numeral.integer? (absorb 0 found.whole).1 found.negative
  | _, _, _ => none

theorem value_whole {found : Numeral} {n : Whole} :
    found.value = .ok (.whole n) ↔ found.whole? = some n := by
  unfold Numeral.value
  simp only
  split
  next m taken =>
    have same : found.whole? = some m := taken
    rw [same]
    simp
  next missing =>
    have same : found.whole? = none := missing
    rw [same]
    refine iff_of_false ?_ nofun
    intro real
    split at real
    next =>
      split at real
      next => simp at real
      next => simp at real
    next =>
      split at real
      next => simp at real
      next => simp at real

theorem whole?_eq_some {found : Numeral} {n : Whole} :
    found.whole? = some n ↔ (found.fraction = [] ∧ found.exponent = none) ∧
      (absorb 0 found.whole).2 = 0 ∧
        Numeral.integer? (absorb 0 found.whole).1 found.negative = some n := by
  unfold Numeral.whole?
  split
  next bare small spent => simp [bare, small, spent]
  next other =>
    refine iff_of_false nofun ?_
    rintro ⟨⟨bare, small⟩, spent, _⟩
    exact other bare small spent

theorem numeral?_figures {negative : Bool} {figures : List UInt8} {found : Numeral}
    (each : ∀ b ∈ figures, isDigit b = true)
    (read : numeral? ((if negative then [0x2D] else []) ++ figures) = some found) :
    numeral .badNumber negative figures = .ok (found, []) := by
  cases negative with
  | true => exact entire?_eq_some.1 read
  | false =>
      cases figures with
      | nil => simp [numeral?] at read
      | cons b figures =>
          have unsigned : b ≠ 0x2D := by
            rintro rfl
            exact absurd (each _ List.mem_cons_self) (by decide)
          simp only [Bool.false_eq_true, if_false, List.nil_append, numeral?, unsigned] at read
          exact entire?_eq_some.1 read

/-- Which integers have 64 bits, by sign and significand. -/
theorem integer?_fits {significand : Nat} {negative : Bool} {value : Int}
    (signed : value = (if negative then -1 else 1) * significand) :
    (∃ n, Numeral.integer? significand negative = some n ∧ n.toInt64?.isSome) ↔
      -0x8000000000000000 ≤ value ∧ value < 0x8000000000000000 ∧
        ¬ (negative = true ∧ value = 0) := by
  cases negative with
  | true =>
      simp only [if_true] at signed
      constructor
      · rintro ⟨n, taken, _⟩
        simp only [Numeral.integer?, if_true] at taken
        split at taken
        next fits => omega
        next => contradiction
      · rintro ⟨lower, upper, nonzero⟩
        have fits : 0 < significand ∧ significand ≤ 0x8000000000000000 := by
          simp only [true_and] at nonzero
          omega
        refine ⟨_, by rw [Numeral.integer?, if_pos rfl, dif_pos fits], ?_⟩
        rw [Whole.toInt64?, if_pos (by simp only; omega)]
        rfl
  | false =>
      simp only [Bool.false_eq_true, if_false] at signed
      constructor
      · rintro ⟨n, taken, small⟩
        simp only [Numeral.integer?, Bool.false_eq_true, if_false] at taken
        split at taken
        next fits =>
          obtain rfl := Option.some.inj taken
          simp only [Whole.toInt64?] at small
          split at small
          next below =>
            refine ⟨by omega, by omega, ?_⟩
            rintro ⟨⟨⟩, _⟩
          next => contradiction
        next => contradiction
      · rintro ⟨lower, upper, _⟩
        have fits : significand < 0x10000000000000000 := by omega
        refine ⟨_, by rw [Numeral.integer?, if_neg (by decide), dif_pos fits], ?_⟩
        rw [Whole.toInt64?, if_pos (by simp only; omega)]
        rfl

/-- A number is taken for an integer exactly if it is written as one of 64 bits. -/
theorem isSome_integer? {written : List UInt8} (valid : (numeral? written).isSome) :
    ((number? written).bind ParseTree.integer?).isSome ↔ Integral written := by
  obtain ⟨found, read⟩ := Option.isSome_iff_exists.1 valid
  have outcome : ((number? written).bind ParseTree.integer?).isSome ↔
      ∃ n, found.whole? = some n ∧ n.toInt64?.isSome := by
    simp only [number?, read, Option.bind_some, ← value_whole]
    cases result : found.value with
    | error unread => simp
    | ok value => cases value <;> simp [ParseTree.integer?]
  rw [outcome]
  constructor
  · rintro ⟨n, taken, small⟩
    obtain ⟨plain, spent, signed⟩ := whole?_eq_some.1 taken
    obtain ⟨figures, parted, entire⟩ := numeral?_parts read
    obtain ⟨alone, _, values⟩ := numeral_plain entire
    have value := (absorb_spent (by decide) found.whole).2 spent
    rw [values plain.1 plain.2] at value
    have range := (integer?_fits rfl).1 ⟨n, signed, small⟩
    rw [values plain.1 plain.2, value] at range
    exact ⟨found.negative, figures, _, parted, alone.1 plain, rfl, range⟩
  · rintro ⟨negative, figures, value, rfl, each, signed, range⟩
    have entire := numeral?_figures each read
    obtain ⟨alone, same, values⟩ := numeral_plain entire
    have plain := alone.2 each
    have whole := values plain.1 plain.2
    have few : decimal (figures.map digitValue) < 0x10000000000000000 := by
      obtain ⟨lower, upper, _⟩ := range
      split at signed
      next => omega
      next => omega
    obtain ⟨spent, total⟩ := @absorb_spent 0 (by decide) found.whole
    rw [whole] at spent total
    have nothing := spent.2 few
    obtain ⟨n, taken, small⟩ := (integer?_fits signed).2 range
    refine ⟨n, whole?_eq_some.2 ⟨plain, ?_, ?_⟩, small⟩
    · rw [whole]
      exact nothing
    · rw [whole, total nothing, same]
      exact taken

end CatalogSeed.Document
