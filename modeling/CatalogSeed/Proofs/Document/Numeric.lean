import CatalogSeed.Proofs.Document.Quoted

/-!
Numbers as they are printed. A whole number is read back as itself, and the text of a real one is
a number, though not always the same one.
-/

namespace CatalogSeed

open Utf8

/-- Decimal digits as a number begins with them: a zero stands first only when it stands alone. -/
structure Figures (chars : List Char) : Prop where
  nonempty : chars ≠ []
  each : ∀ c ∈ chars, c.isDigit = true
  leading : chars.head? = some '0' → chars = ['0']

/-- Digits, with or without leading zeros. -/
def Places (chars : List Char) : Prop :=
  chars ≠ [] ∧ ∀ c ∈ chars, c.isDigit = true

theorem Figures.places {chars : List Char} (figures : Figures chars) : Places chars :=
  ⟨figures.nonempty, figures.each⟩

theorem toDigits_head (n : Nat) :
    (Nat.toDigits 10 n).head? = some '0' → Nat.toDigits 10 n = ['0'] := by
  induction n using Nat.strongRecOn with
  | ind n ih =>
      by_cases small : n < 10
      · rw [Nat.toDigits_of_lt_base small]
        intro zero
        simpa using zero
      · intro zero
        have split := @Nat.toDigits_of_base_le 10 n (by decide) (by omega)
        obtain ⟨c, later, same⟩ := List.exists_cons_of_ne_nil (@Nat.toDigits_ne_nil (n / 10) 10)
        have only := ih (n / 10) (by omega) (by simpa [split, same] using zero)
        have value : n / 10 = 0 := by
          rw [← @Nat.ofDigitChars_ten_toDigits (n / 10), only]
          rfl
        omega

theorem figures_toDigits (n : Nat) : Figures (Nat.toDigits 10 n) :=
  ⟨Nat.toDigits_ne_nil, fun _ found => Nat.isDigit_of_mem_toDigits (by decide) (by decide) found,
    toDigits_head n⟩

namespace Document

/-- The value of a digit. -/
def figure (c : Char) : Nat := c.toNat - 48

theorem digit_byte {c : Char} (digit : c.isDigit = true) :
    ∃ b, String.utf8EncodeChar c = [b] ∧ isDigit b = true ∧ digitValue b = figure c ∧
      b.toNat = c.toNat := by
  simp only [Char.isDigit, ge_iff_le, Bool.and_eq_true, decide_eq_true_eq,
    UInt32.le_iff_toNat_le] at digit
  obtain ⟨lower, upper⟩ := digit
  have low : 48 ≤ c.toNat := lower
  have high : c.toNat ≤ 57 := upper
  have value : (UInt8.ofNat c.toNat).toNat = c.toNat := by
    rw [UInt8.toNat_ofNat']
    omega
  refine ⟨_, ascii_bytes (by omega), ?_, ?_, value⟩
  · simp only [isDigit, Bool.and_eq_true, decide_eq_true_eq, UInt8.le_iff_toNat_le, value]
    exact ⟨low, high⟩
  · rw [digitValue, value]
    rfl

/-- The bytes go on with no digit. -/
def Undigited (rest : List UInt8) : Prop :=
  ∀ b later, rest = b :: later → isDigit b = false

theorem digits_written {chars : List Char} (each : ∀ c ∈ chars, c.isDigit = true)
    {rest : List UInt8} (stop : Undigited rest) :
    digits (bytes chars ++ rest) = (chars.map figure, rest) := by
  induction chars with
  | nil =>
      cases rest with
      | nil => rfl
      | cons b later => simp [digits, stop b later rfl]
  | cons c chars ih =>
      obtain ⟨b, single, digit, value, _⟩ := digit_byte (each c List.mem_cons_self)
      have later := ih fun d found => each d (List.mem_cons_of_mem _ found)
      simp only [digits, Prod.mk.injEq] at later
      simp [bytes_cons, single, digits, digit, value, later]

theorem wholeDigits_written {chars : List Char} (figures : Figures chars) {rest : List UInt8}
    (stop : Undigited rest) (atEnd : Cause) :
    wholeDigits atEnd (bytes chars ++ rest) = .ok (chars.map figure, rest) := by
  have read := digits_written figures.each stop
  cases chars with
  | nil => exact (figures.nonempty rfl).elim
  | cons c chars =>
      by_cases zero : c = '0'
      · obtain rfl := zero
        obtain rfl : chars = [] := by simpa using figures.leading rfl
        cases rest with
        | nil => rfl
        | cons b later =>
            change wholeDigits atEnd (0x30 :: b :: later) = .ok ([0], b :: later)
            simp [wholeDigits, stop b later rfl]
      · obtain ⟨b, single, digit, _, value⟩ := digit_byte (figures.each c List.mem_cons_self)
        have different : b ≠ 0x30 := by
          rintro rfl
          exact zero (Char.toNat_inj.1 value.symm)
        rw [bytes_cons, single] at read ⊢
        simp only [List.cons_append, List.nil_append, wholeDigits, different, if_false, digit,
          if_true] at read ⊢
        rw [read]

theorem fractionDigits_written {chars : List Char} (some : chars ≠ [])
    (each : ∀ c ∈ chars, c.isDigit = true) {rest : List UInt8} (stop : Undigited rest)
    (atEnd : Cause) :
    fractionDigits atEnd (0x2E :: (bytes chars ++ rest)) = .ok (chars.map figure, rest) := by
  rw [fractionDigits, digits_written each stop]
  cases chars with
  | nil => contradiction
  | cons c chars => rfl

theorem absorb_written {chars : List Char} {start : Nat}
    (fits : Nat.ofDigitChars 10 chars start < 0x10000000000000000) :
    absorb start (chars.map figure) = (Nat.ofDigitChars 10 chars start, 0) := by
  induction chars generalizing start with
  | nil => rfl
  | cons c chars ih =>
      have next : Nat.ofDigitChars 10 (c :: chars) start =
          Nat.ofDigitChars 10 chars (10 * start + figure c) := rfl
      have grows : 10 * start + figure c ≤ Nat.ofDigitChars 10 chars (10 * start + figure c) := by
        rw [Nat.ofDigitChars_eq_ofDigitChars_zero]
        exact Nat.le_trans (Nat.le_mul_of_pos_left _ (Nat.pow_pos (by decide)))
          (Nat.le_add_right _ _)
      rw [next] at fits ⊢
      rw [List.map_cons, absorb, if_pos (by omega)]
      exact ih fits

theorem numeral?_signed {chars : List Char} (figures : Figures chars) (negative : Bool)
    (rest : List Char) :
    numeral? (bytes ((if negative then ['-'] else []) ++ (chars ++ rest))) =
      entire? (numeral .badNumber negative (bytes (chars ++ rest))) := by
  cases negative with
  | true => rfl
  | false =>
      obtain ⟨c, chars, rfl⟩ := List.exists_cons_of_ne_nil figures.nonempty
      obtain ⟨b, single, digit, _⟩ := digit_byte (figures.each c List.mem_cons_self)
      have unsigned := (visible_of_isDigit digit).2.2.2.2.2.2.1
      simp [bytes_cons, single, numeral?, unsigned]

theorem integer?_natAbs (n : Whole) :
    Numeral.integer? n.val.natAbs (decide (n.val < 0)) = some n := by
  obtain ⟨n, lower, upper⟩ := n
  by_cases negative : n < 0
  · have fits : 0 < n.natAbs ∧ n.natAbs ≤ 0x8000000000000000 := by omega
    have value : -(n.natAbs : Int) = n := by omega
    rw [Numeral.integer?, decide_eq_true negative, if_pos rfl, dif_pos fits]
    simp only [value]
  · have fits : n.natAbs < 0x10000000000000000 := by omega
    have value : (n.natAbs : Int) = n := by omega
    rw [Numeral.integer?, decide_eq_false negative, if_neg Bool.false_ne_true, dif_pos fits]
    simp only [value]

/-- A whole number is read back from its digits. -/
theorem number?_whole (n : Whole) : number? (bytes (Number.text (.whole n))) = some (.whole n) := by
  have figures := figures_toDigits n.val.natAbs
  have stop : Undigited [] := fun _ _ same => by contradiction
  have text : Number.text (.whole n) =
      (if decide (n.val < 0) then ['-'] else []) ++ (Nat.toDigits 10 n.val.natAbs ++ []) := by
    simp only [Number.text, decide_eq_true_eq, List.append_nil]
    split <;> rfl
  have whole := wholeDigits_written figures stop .badNumber
  have fits : Nat.ofDigitChars 10 (Nat.toDigits 10 n.val.natAbs) 0 < 0x10000000000000000 := by
    rw [Nat.ofDigitChars_ten_toDigits]
    have lower := n.lower
    have upper := n.upper
    omega
  have significand := absorb_written fits
  rw [Nat.ofDigitChars_ten_toDigits] at significand
  rw [List.append_nil] at whole
  rw [number?, text, numeral?_signed figures, List.append_nil]
  simp [numeral, whole, fractionDigits, exponentDigits, bind, Except.bind, entire?, Numeral.value,
    significand, integer?_natAbs]

/-! Texts of real numbers. -/

def Fraction (chars : List Char) : Prop :=
  chars = [] ∨ ∃ places, Places places ∧ chars = '.' :: places

def Power (chars : List Char) : Prop :=
  chars = [] ∨ ∃ sign places, (sign = [] ∨ sign = ['+'] ∨ sign = ['-']) ∧ Places places ∧
    chars = 'e' :: (sign ++ places)

theorem exponentDigits_written {chars : List Char} (power : Power chars) (atEnd : Cause) :
    ∃ found, exponentDigits atEnd (bytes chars) = .ok (found, []) := by
  obtain rfl | ⟨sign, places, signed, ⟨nonempty, each⟩, rfl⟩ := power
  · exact ⟨none, rfl⟩
  · have stop : Undigited [] := fun _ _ same => by contradiction
    have read := digits_written each stop
    rw [List.append_nil] at read
    have behind : (exponentSign (bytes (sign ++ places))).2 = bytes places := by
      rcases signed with rfl | rfl | rfl
      · obtain ⟨c, places, rfl⟩ := List.exists_cons_of_ne_nil nonempty
        obtain ⟨b, single, digit, _, value⟩ := digit_byte (each c List.mem_cons_self)
        have plus : b ≠ 0x2B := by
          rintro rfl
          contradiction
        have minus := (visible_of_isDigit digit).2.2.2.2.2.2.1
        simp [bytes_cons, single, exponentSign, plus, minus]
      · rfl
      · rfl
    have outcome := @exponentDigits_cons atEnd 0x65 (Or.inl rfl) (bytes (sign ++ places))
      (some ((exponentSign (bytes (sign ++ places))).1, places.map figure)) []
    rw [behind, read] at outcome
    exact ⟨_, outcome.2 ⟨by simpa using nonempty, rfl, rfl⟩⟩

theorem Power.undigited {chars : List Char} (power : Power chars) : Undigited (bytes chars) := by
  rintro b later same
  obtain rfl | ⟨sign, places, _, _, rfl⟩ := power
  · contradiction
  · obtain ⟨rfl, _⟩ := List.cons.inj (same : 0x65 :: bytes (sign ++ places) = b :: later)
    rfl

theorem fractionDigits_fraction {fraction power : List Char} (fractional : Fraction fraction)
    (powered : Power power) (atEnd : Cause) :
    ∃ found, fractionDigits atEnd (bytes (fraction ++ power)) = .ok (found, bytes power) := by
  obtain rfl | ⟨places, ⟨some, each⟩, rfl⟩ := fractional
  · obtain rfl | ⟨sign, places, _, _, rfl⟩ := powered
    · exact ⟨[], rfl⟩
    · exact ⟨[], rfl⟩
  · refine ⟨places.map figure, ?_⟩
    rw [List.cons_append, bytes_cons, bytes_append]
    exact fractionDigits_written some each powered.undigited atEnd

theorem Fraction.undigited {fraction power : List Char} (fractional : Fraction fraction)
    (powered : Power power) : Undigited (bytes (fraction ++ power)) := by
  obtain rfl | ⟨places, _, rfl⟩ := fractional
  · exact powered.undigited
  · rintro b later same
    obtain ⟨rfl, _⟩ := List.cons.inj (same : 0x2E :: bytes (places ++ power) = b :: later)
    rfl

/-- A sign, figures, a fraction and a power make a number. -/
theorem numeral?_written {whole fraction power : List Char} (figures : Figures whole)
    (fractional : Fraction fraction) (powered : Power power) (negative : Bool) :
    (numeral? (bytes ((if negative then ['-'] else []) ++
      (whole ++ (fraction ++ power))))).isSome := by
  have first := wholeDigits_written figures (fractional.undigited powered) .badNumber
  obtain ⟨found, second⟩ := fractionDigits_fraction fractional powered .badNumber
  obtain ⟨exponent, third⟩ := exponentDigits_written powered .badNumber
  rw [numeral?_signed figures, bytes_append]
  simp only [numeral, bind, Except.bind, first, second, third, entire?, Option.isSome_some]

end Document

namespace Binary64

open Document

/-- A decimal's digits begin with no zero unless it is zero itself. -/
structure Decimal.Proper (decimal : Decimal) : Prop where
  figures : Figures decimal.digits
  zero : decimal.digits.head? = some '0' → decimal.exponent = 0

/-- Zero is nowhere near a positive number. -/
theorem roundsTo_zero {units : Nat} (positive : 0 < units) (power : Int) :
    roundsTo units 0 power = false := by
  have step : spacing units ≤ units := by
    have power : 2 ^ (units.log2 + 1 - 53) ≤ 2 ^ units.log2 :=
      Nat.pow_le_pow_right (by decide) (by omega)
    exact Nat.le_trans power (Nat.log2_self_le (by omega))
  have unit : 0 < Nat.pow 10 (-power).toNat := Nat.pow_pos (by decide)
  obtain ⟨below, small, same⟩ : ∃ below, below ≤ 2 * spacing units ∧
      (if units = Nat.pow 2 units.log2 ∧ 1 < spacing units then spacing units
        else 2 * spacing units) = below := ⟨_, by split <;> omega, rfl⟩
  have lower : 0 < (4 * units - below) * Nat.pow 10 (-power).toNat := Nat.mul_pos (by omega) unit
  simp only [roundsTo, Nat.zero_mul, same]
  split
  next => rw [decide_eq_false (Nat.not_le.2 lower), Bool.false_and]
  next => rw [decide_eq_false (Nat.not_lt_zero _), Bool.false_and]

theorem ofSignificand_proper {significand : Nat} (positive : 0 < significand) (power : Int) :
    (Decimal.ofSignificand significand power).Proper := by
  have figures := figures_toDigits significand
  have first : (Nat.toDigits 10 significand).head? ≠ some '0' := by
    intro zero
    have value := @Nat.ofDigitChars_ten_toDigits significand
    rw [figures.leading zero] at value
    simp [Nat.ofDigitChars] at value
    omega
  obtain ⟨c, digits, same⟩ := List.exists_cons_of_ne_nil figures.nonempty
  have other : c ≠ '0' := by simpa [same] using first
  obtain ⟨kept, stripped, part⟩ : ∃ kept,
      ((Nat.toDigits 10 significand).reverse.dropWhile (· = '0')).reverse = c :: kept ∧
        ∀ d ∈ c :: kept, d ∈ Nat.toDigits 10 significand := by
    rw [same, List.reverse_cons, List.dropWhile_append]
    split
    next => exact ⟨[], by simp [other], by simp⟩
    next =>
      refine ⟨(digits.reverse.dropWhile (· = '0')).reverse, by simp, fun d found => ?_⟩
      rcases List.mem_cons.1 found with rfl | later
      · exact List.mem_cons_self
      · have inside := (List.dropWhile_sublist _).subset (List.mem_reverse.1 later)
        exact List.mem_cons_of_mem _ (List.mem_reverse.1 inside)
  have kind : (Decimal.ofSignificand significand power).digits = c :: kept := stripped
  refine ⟨⟨?_, ?_, ?_⟩, ?_⟩
  · simp [kind]
  · rw [kind]
    exact fun d found => figures.each d (part d found)
  · simp [kind, other]
  · simp [kind, other]

theorem shortest_proper {units : Nat} (positive : 0 < units) : (shortest units).Proper := by
  simp only [shortest]
  cases found : (List.range 17).findSome? fun (count : Nat) =>
      (onGrid units (firstExponent units - count)).map fun significand =>
        Decimal.ofSignificand significand (firstExponent units - count) with
  | none => exact ⟨figures_toDigits 0, fun _ => rfl⟩
  | some decimal =>
      obtain ⟨count, _, grid⟩ := List.exists_of_findSome?_eq_some found
      obtain ⟨significand, near, rfl⟩ := Option.map_eq_some_iff.1 grid
      have rounds := List.find?_some near
      refine ofSignificand_proper (Nat.pos_of_ne_zero ?_) _
      rintro rfl
      simp [roundsTo_zero positive] at rounds

theorem places_append {first second : List Char} (places : Places first)
    (each : ∀ c ∈ second, c.isDigit = true) : Places (first ++ second) :=
  ⟨by simp [places.1], fun c found => (List.mem_append.1 found).elim (places.2 c) (each c)⟩

theorem isDigit_of_mem_zeros {count : Nat} : ∀ c ∈ List.replicate count '0', c.isDigit = true := by
  intro c found
  rw [List.eq_of_mem_replicate found]
  rfl

/-- The parts of the text of a decimal. -/
theorem write_parts {decimal : Decimal} (proper : decimal.Proper) :
    ∃ whole fraction power, Figures whole ∧ Fraction fraction ∧ Power power ∧
      layout.write decimal = whole ++ (fraction ++ power) := by
  obtain ⟨digits, exponent⟩ := decimal
  obtain ⟨figures, zero⟩ := proper
  obtain ⟨c, later, rfl⟩ := List.exists_cons_of_ne_nil figures.nonempty
  simp only [Layout.write]
  split
  next plain =>
    split
    next small =>
      have places : Places (List.replicate (exponent.natAbs - 1) '0' ++ c :: later) :=
        ⟨by simp, fun d found => (List.mem_append.1 found).elim (isDigit_of_mem_zeros d)
          (figures.each d)⟩
      exact ⟨['0'], _, [], figures_toDigits 0, Or.inr ⟨_, places, rfl⟩, Or.inl rfl, by simp⟩
    next large =>
      split
      next short =>
        have whole : Figures
            (c :: later ++ List.replicate (exponent.natAbs + 1 - (c :: later).length) '0') := by
          refine ⟨by simp, (places_append figures.places isDigit_of_mem_zeros).2, fun leading => ?_⟩
          have only := figures.leading leading
          have none := zero leading
          simp_all
        exact ⟨_, _, [], whole, Or.inr ⟨['0'], (figures_toDigits 0).places, rfl⟩, Or.inl rfl,
          by simp [layout]⟩
      next long =>
        have whole : Figures ((c :: later).take (exponent.natAbs + 1)) := by
          refine ⟨by simp, fun d found => figures.each d (List.mem_of_mem_take found),
            fun leading => ?_⟩
          have only := figures.leading (by simpa using leading)
          simp_all
        have places : Places ((c :: later).drop (exponent.natAbs + 1)) := by
          refine ⟨?_, fun d found => figures.each d (List.mem_of_mem_drop found)⟩
          intro empty
          exact long (List.drop_eq_nil_iff.1 empty)
        exact ⟨_, _, [], whole, Or.inr ⟨_, places, rfl⟩, Or.inl rfl, by simp⟩
  next scientific =>
    have first : Figures [c] :=
      ⟨by simp, fun d found => figures.each d (by simp_all), fun leading => by simpa using leading⟩
    have sign : (if exponent < 0 then ['-'] else layout.plus) = [] ∨
        (if exponent < 0 then ['-'] else layout.plus) = ['+'] ∨
        (if exponent < 0 then ['-'] else layout.plus) = ['-'] := by
      split <;> simp [layout]
    have power : Power ('e' :: ((if exponent < 0 then ['-'] else layout.plus) ++
        Nat.toDigits 10 exponent.natAbs)) :=
      Or.inr ⟨_, _, sign, (figures_toDigits _).places, rfl⟩
    cases later with
    | nil => exact ⟨[c], [], _, first, Or.inl rfl, power, rfl⟩
    | cons second rest =>
        have places : Places (second :: rest) :=
          ⟨by simp, fun d found => figures.each d (List.mem_cons_of_mem _ found)⟩
        exact ⟨[c], _, _, first, Or.inr ⟨_, places, rfl⟩, power, rfl⟩

theorem numeral?_real (x : Binary64) : (numeral? (bytes (Number.text (.real x)))).isSome := by
  have signed (magnitude : List Char) : (if x.negative then '-' :: magnitude else magnitude) =
      (if x.negative then ['-'] else []) ++ magnitude := by
    split <;> rfl
  rw [Number.text, text, signed]
  by_cases zero : x.units = 0
  · rw [if_pos zero]
    exact @numeral?_written ['0'] ['.', '0'] [] (figures_toDigits 0)
      (Or.inr ⟨['0'], (figures_toDigits 0).places, rfl⟩) (Or.inl rfl) x.negative
  · obtain ⟨whole, fraction, power, figures, fractional, powered, parts⟩ :=
      write_parts (shortest_proper (Nat.pos_of_ne_zero zero))
    rw [if_neg zero, parts]
    exact numeral?_written figures fractional powered x.negative

end Binary64

/-- Every number is printed as one. -/
theorem Number.numeral?_text (value : Number) : (Document.numeral? (bytes value.text)).isSome := by
  cases value with
  | whole n =>
      have read := Document.number?_whole n
      rw [Document.number?] at read
      cases found : Document.numeral? (bytes (Number.text (.whole n))) with
      | none => simp [found] at read
      | some numeral => rfl
  | real x => exact x.numeral?_real

end CatalogSeed
