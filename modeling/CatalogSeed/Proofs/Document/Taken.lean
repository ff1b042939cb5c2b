import CatalogSeed.Proofs.Document.Integral
import CatalogSeed.Proofs.Document.Truncation

/-!
What the smallest readers take up. Whatever is read as a word, a string or a number is written as
one, and so are keys and the signs between values.
-/

namespace CatalogSeed.Document

open ParseTree

variable {α γ δ : Type}

/-- What holds of every outcome that is not a failure. -/
def Gives (P : γ → Prop) (outcome : Except Failure γ) : Prop :=
  ∀ found, outcome = .ok found → P found

theorem gives_error (P : γ → Prop) (failure : Failure) : Gives P (.error failure) := nofun

theorem gives_ok {P : γ → Prop} {found : γ} (holds : P found) : Gives P (.ok found) := by
  intro other same
  exact Except.ok.inj same ▸ holds

theorem Gives.imp {P Q : γ → Prop} {outcome : Except Failure γ} (gives : Gives P outcome)
    (weaker : ∀ found, P found → Q found) : Gives Q outcome :=
  fun found same => weaker found (gives found same)

theorem Gives.bind {P : γ → Prop} {Q : δ → Prop} {outcome : Except Failure δ}
    {next : δ → Except Failure γ} (gives : Gives Q outcome)
    (onwards : ∀ found, Q found → Gives P (next found)) : Gives P (outcome >>= next) := by
  intro final same
  cases outcome with
  | error failure => contradiction
  | ok found => exact onwards found (gives found rfl) final same

theorem Gives.map {P : γ → Prop} {Q : δ → Prop} {outcome : Except Failure δ} {change : δ → γ}
    (gives : Gives Q outcome) (onwards : ∀ found, Q found → P (change found)) :
    Gives P (outcome.map change) := by
  intro final same
  cases outcome with
  | error failure => contradiction
  | ok found => exact Except.ok.inj same ▸ onwards found (gives found rfl)

theorem word_gives (letters bytes : List UInt8) :
    Gives (fun rest => bytes = letters ++ rest) (word letters bytes) := by
  induction letters generalizing bytes with
  | nil => exact gives_ok rfl
  | cons letter letters ih =>
      cases bytes with
      | nil => exact gives_error _ _
      | cons b bytes =>
          simp only [word]
          split
          next same => exact (ih bytes).imp fun rest parts => by rw [parts, same]; rfl
          next => exact gives_error _ _

/-! Strings. -/

theorem skipString_parts {state : SkipState} {bytes later : List UInt8}
    (passed : skipString state bytes = .ok later) :
    ∃ written, bytes = written ++ 0x22 :: later ∧
      skipString state (written ++ [0x22]) = .ok [] := by
  fun_induction skipString state bytes with
  | case1 => contradiction
  | case2 bytes =>
      obtain rfl := Except.ok.inj passed
      exact ⟨[], rfl, rfl⟩
  | case3 bytes notQuote ih =>
      obtain ⟨written, rfl, again⟩ := ih passed
      exact ⟨0x5C :: written, rfl, by simpa [skipString] using again⟩
  | case4 => contradiction
  | case5 b bytes notQuote notBackslash visible ih =>
      obtain ⟨written, rfl, again⟩ := ih passed
      exact ⟨b :: written, rfl,
        by simpa [skipString, notQuote, notBackslash, visible] using again⟩
  | case6 bytes ih =>
      obtain ⟨written, rfl, again⟩ := ih passed
      exact ⟨0x75 :: written, rfl, by simpa [skipString] using again⟩
  | case7 b bytes notHex short ih =>
      obtain ⟨written, rfl, again⟩ := ih passed
      exact ⟨b :: written, rfl, by simpa [skipString, notHex, short] using again⟩
  | case8 => contradiction
  | case9 digits b bytes few ih =>
      obtain ⟨written, rfl, again⟩ := ih passed
      exact ⟨b :: written, rfl, by simpa [skipString, few] using again⟩
  | case10 digits b bytes enough value ih =>
      obtain ⟨written, rfl, again⟩ := ih passed
      exact ⟨b :: written, rfl, by simpa [skipString, enough, value] using again⟩
  | case11 => contradiction

theorem skipString_gives (bytes : List UInt8) :
    Gives (fun rest => ∃ written, Content written ∧ bytes = written ++ 0x22 :: rest)
      (skipString .between bytes) := by
  intro rest passed
  obtain ⟨written, parts, content⟩ := skipString_parts passed
  exact ⟨written, content, parts⟩

/-- What can be read as a string can also be passed over. -/
theorem stringBytes_passes (state : StringState) (before bytes : List UInt8) :
    Gives (fun found => skipString state.passing bytes = .ok found.2)
      (stringBytes state before bytes) := by
  induction bytes generalizing state before with
  | nil => cases state <;> exact gives_error _ _
  | cons b bytes ih =>
      cases state with
      | between =>
          simp only [StringState.passing, stringBytes, skipString]
          split
          next => exact gives_ok rfl
          split
          next => exact ih .escape before
          split
          next => exact gives_error _ _
          next => exact ih .between (b :: before)
      | escape =>
          simp only [StringState.passing, stringBytes, skipString]
          split
          next => exact ih (.hex none []) before
          cases short : shortEscape? b with
          | none => exact gives_error _ _
          | some c => exact ih .between (c :: before)
      | hex high digits =>
          simp only [StringState.passing, stringBytes, skipString]
          split
          next => exact ih (.hex high (digits ++ [b])) before
          cases known : hexValue? (digits ++ [b]) with
          | none => exact gives_error _ _
          | some value =>
              simp only [Option.isSome_some, if_true]
              cases high with
              | none =>
                  simp only
                  split
                  next => exact gives_error _ _
                  split
                  next => exact ih (.high value) before
                  next => exact ih .between _
              | some first =>
                  simp only
                  split
                  next => exact ih .between _
                  next => exact gives_error _ _
      | high value =>
          simp only [stringBytes]
          split
          next backslash =>
            subst backslash
            exact ih (.highEscape value) before
          next => exact gives_error _ _
      | highEscape value =>
          simp only [stringBytes]
          split
          next hex =>
            subst hex
            exact ih (.hex (some value) []) before
          next => exact gives_error _ _

theorem string_gives (bytes : List UInt8) :
    Gives (fun found => ∃ written, Content written ∧ bytes = written ++ 0x22 :: found.2)
      (string bytes) := by
  refine (stringBytes_passes .between [] bytes).bind fun (content, rest) passed => ?_
  simp only
  cases Utf8.decode content with
  | none => exact gives_error _ _
  | some text => exact gives_ok (skipString_gives bytes _ passed)

/-! Numbers: what is taken up is read in the same way if nothing follows it. -/

section

variable {atEnd other : Cause} {start more left : List UInt8}

theorem eq_nil_of_append {gone : List UInt8} (same : more = gone ++ (left ++ more)) :
    gone = [] ∧ left = [] := by
  have lengths := congrArg List.length same
  simp only [List.length_append] at lengths
  exact ⟨List.eq_nil_of_length_eq_zero (by omega), List.eq_nil_of_length_eq_zero (by omega)⟩

theorem digits_cut {found : List Nat} (parted : digits (start ++ more) = (found, left ++ more)) :
    digits start = (found, left) := by
  induction start generalizing found with
  | nil =>
      obtain ⟨figures, parts, _, values⟩ := digits_parts more
      rw [List.nil_append] at parted
      rw [parted] at parts values
      obtain ⟨rfl, rfl⟩ := eq_nil_of_append parts
      rw [show found = [] from values]
      rfl
  | cons b start ih =>
      by_cases digit : isDigit b = true
      · simp only [digits, List.cons_append, List.takeWhile_cons_of_pos digit,
          List.dropWhile_cons_of_pos digit, List.map_cons, Prod.mk.injEq] at parted ih ⊢
        obtain ⟨rfl, behind⟩ := parted
        obtain ⟨values, later⟩ := ih ⟨rfl, behind⟩
        exact ⟨congrArg _ values, later⟩
      · simp only [digits, List.cons_append, List.takeWhile_cons_of_neg digit,
          List.dropWhile_cons_of_neg digit, Prod.mk.injEq] at parted ⊢
        exact ⟨parted.1, List.append_cancel_right (by simpa using parted.2)⟩

theorem wholeDigits_cut {found : List Nat}
    (read : wholeDigits atEnd (start ++ more) = .ok (found, left ++ more)) :
    wholeDigits other start = .ok (found, left) := by
  cases start with
  | nil =>
      cases more with
      | nil => contradiction
      | cons b more =>
          have shorter := (@wholeDigits_stays [] atEnd b more _ read).1.length_le
          simp only [Leaving.rest, List.length_append, List.length_cons] at shorter
          omega
  | cons b start =>
      simp only [List.cons_append, wholeDigits] at read ⊢
      split at read
      next zero =>
        rw [if_pos zero]
        cases start with
        | nil =>
            have spent : [0] = found ∧ more = left ++ more := by
              rw [List.nil_append] at read
              split at read
              next => exact Prod.mk.inj (Except.ok.inj read)
              next =>
                split at read
                next => contradiction
                next => exact Prod.mk.inj (Except.ok.inj read)
            obtain ⟨rfl, same⟩ := spent
            obtain ⟨_, rfl⟩ := @eq_nil_of_append more left [] same
            rfl
        | cons c start =>
            simp only [List.cons_append] at read ⊢
            split at read
            next => contradiction
            next notDigit =>
              rw [if_neg notDigit]
              obtain ⟨rfl, same⟩ := Prod.mk.inj (Except.ok.inj read)
              rw [List.append_cancel_right ((List.cons_append ..).trans same)]
      next notZero =>
        rw [if_neg notZero]
        split at read
        next digit =>
          rw [if_pos digit, digits_cut (Except.ok.inj read)]
        next => contradiction

theorem fractionDigits_cut {found : List Nat}
    (read : fractionDigits atEnd (start ++ more) = .ok (found, left ++ more)) :
    fractionDigits other start = .ok (found, left) := by
  cases start with
  | nil =>
      have spent : [] = found ∧ more = left ++ more := by
        rw [List.nil_append] at read
        cases more with
        | nil => exact Prod.mk.inj (Except.ok.inj read)
        | cons b more =>
            by_cases point : b = 0x2E
            · subst point
              obtain ⟨_, parted⟩ := (fractionDigits_point atEnd more).1 read
              have shorter := (digits_suffix more).length_le
              simp only [parted, List.length_append, List.length_cons] at shorter
              omega
            · rw [fractionDigits_plain atEnd point] at read
              exact Prod.mk.inj (Except.ok.inj read)
      obtain ⟨rfl, same⟩ := spent
      obtain ⟨_, rfl⟩ := @eq_nil_of_append more left [] same
      rfl
  | cons b start =>
      by_cases point : b = 0x2E
      · subst point
        rw [List.cons_append, fractionDigits_point] at read
        exact (fractionDigits_point other start).2 ⟨read.1, digits_cut read.2⟩
      · rw [List.cons_append, fractionDigits_plain atEnd point] at read
        obtain ⟨rfl, same⟩ := Prod.mk.inj (Except.ok.inj read)
        rw [fractionDigits_plain other point,
          List.append_cancel_right ((List.cons_append ..).trans same)]

theorem exponentDigits_cut {found : Option (Bool × List Nat)}
    (read : exponentDigits atEnd (start ++ more) = .ok (found, left ++ more)) :
    exponentDigits other start = .ok (found, left) := by
  cases start with
  | nil =>
      have spent : none = found ∧ more = left ++ more := by
        rw [List.nil_append] at read
        cases more with
        | nil => exact Prod.mk.inj (Except.ok.inj read)
        | cons b more =>
            by_cases letter : b = 0x65 ∨ b = 0x45
            · obtain ⟨_, parted, _⟩ := (exponentDigits_cons atEnd letter more).1 read
              have shorter := ((digits_suffix _).trans (exponentSign_suffix more)).length_le
              simp only [parted, List.length_append, List.length_cons] at shorter
              omega
            · rw [exponentDigits_plain atEnd letter] at read
              exact Prod.mk.inj (Except.ok.inj read)
      obtain ⟨rfl, same⟩ := spent
      obtain ⟨_, rfl⟩ := @eq_nil_of_append more left [] same
      rfl
  | cons b start =>
      by_cases letter : b = 0x65 ∨ b = 0x45
      · rw [List.cons_append, exponentDigits_cons atEnd letter] at read
        obtain ⟨values, parted, rfl⟩ := read
        have some : start ≠ [] := by
          rintro rfl
          obtain ⟨figures, parts, _, found⟩ := digits_parts (exponentSign more).2
          have shorter := (exponentSign_suffix more).length_le
          rw [List.nil_append] at parted values
          rw [parts, parted, List.length_append, List.length_append] at shorter
          obtain rfl := List.eq_nil_of_length_eq_zero (show figures.length = 0 by omega)
          exact values found
        rw [exponentSign_append some] at parted values ⊢
        have cut := digits_cut (Prod.ext rfl parted)
        rw [exponentDigits_cons other letter, cut]
        exact ⟨values, rfl, rfl⟩
      · rw [List.cons_append, exponentDigits_plain atEnd letter] at read
        obtain ⟨rfl, same⟩ := Prod.mk.inj (Except.ok.inj read)
        rw [exponentDigits_plain other letter,
          List.append_cancel_right ((List.cons_append ..).trans same)]

end

/-- A number in front of other bytes is the same number without them. -/
theorem numeral_gives (atEnd : Cause) (negative : Bool) (bytes : List UInt8) :
    Gives (fun found => ∃ written, bytes = written ++ found.2 ∧
      numeral .badNumber negative written = .ok (found.1, [])) (numeral atEnd negative bytes) := by
  rintro ⟨found, rest⟩ read
  simp only [numeral, bind, Except.bind] at read
  split at read
  next => contradiction
  next whole first =>
    split at read
    next => contradiction
    next fraction second =>
      split at read
      next => contradiction
      next exponent third =>
        obtain ⟨whole, behind⟩ := whole
        obtain ⟨fraction, left⟩ := fraction
        obtain ⟨exponent, ended⟩ := exponent
        obtain ⟨rfl, rfl⟩ := Prod.mk.inj (Except.ok.inj read)
        obtain ⟨figures, parts, _⟩ := wholeDigits_parts first
        obtain ⟨⟨point, rfl⟩, _⟩ := @fractionDigits_stays [] atEnd behind _ second
        obtain ⟨⟨power, rfl⟩, _⟩ := @exponentDigits_stays [] atEnd left _ third
        simp only [Leaving.rest] at *
        have whole : wholeDigits .badNumber (figures ++ (point ++ power)) =
            .ok (whole, point ++ power) :=
          @wholeDigits_cut atEnd _ _ ended _ _ (by simpa [parts] using first)
        have fraction : fractionDigits .badNumber (point ++ power) = .ok (fraction, power) :=
          @fractionDigits_cut atEnd _ _ ended _ _ (by simpa using second)
        have exponent : exponentDigits .badNumber power = .ok (exponent, []) :=
          @exponentDigits_cut atEnd _ _ ended _ _ third
        refine ⟨figures ++ (point ++ power), by simp [parts], ?_⟩
        simp only [numeral, bind, Except.bind, whole, fraction, exponent]

theorem number_gives (negative : Bool) (bytes : List UInt8) :
    Gives (fun found => ∃ written figures, bytes = written ++ found.2 ∧
      numeral .badNumber negative written = .ok (figures, [])) (number negative bytes) := by
  refine (numeral_gives .endInValue negative bytes).bind fun (figures, rest) taken => ?_
  obtain ⟨written, parts, again⟩ := taken
  simp only
  cases figures.value with
  | error unread => exact gives_error _ _
  | ok value => exact gives_ok ⟨written, figures, parts, again⟩

/-! Between values. -/

theorem colon_gives (bytes : List UInt8) :
    Gives (fun rest => ∃ gap, Blank gap ∧ bytes = gap ++ 0x3A :: rest) (colon bytes) := by
  unfold colon
  cases left : skipBlanks bytes with
  | nil => exact gives_error _ _
  | cons b later =>
      obtain ⟨gap, blank, _, parts⟩ := exists_gap left
      simp only
      split
      next same => exact gives_ok ⟨gap, blank, same ▸ parts⟩
      next => exact gives_error _ _

/-- A lead may end in further blanks. -/
theorem ParseTree.Leads.append {first : Bool} {lead gap : List UInt8} (leads : Leads first lead)
    (blank : Blank gap) : Leads first (lead ++ gap) := by
  cases first with
  | true => exact List.forall_mem_append.2 ⟨leads, blank⟩
  | false =>
      obtain ⟨before, behind, first, second, rfl⟩ := leads
      exact ⟨before, behind ++ gap, first, List.forall_mem_append.2 ⟨second, blank⟩, by simp⟩

theorem nextElement_gives (first : Bool) (bytes : List UInt8) :
    Gives (fun found =>
      if found.1 then ∃ lead, Leads first lead ∧ bytes = lead ++ found.2
      else ∃ gap, Blank gap ∧ bytes = gap ++ 0x5D :: found.2) (nextElement first bytes) := by
  unfold nextElement
  cases left : skipBlanks bytes with
  | nil => exact gives_error _ _
  | cons b later =>
      obtain ⟨gap, blank, _, parts⟩ := exists_gap left
      simp only
      split
      next same => exact gives_ok ⟨gap, blank, same ▸ parts⟩
      split
      next begins =>
        subst begins
        exact gives_ok ⟨gap, blank, parts⟩
      next goesOn =>
      split
      next comma =>
        cases behind : skipBlanks later with
        | nil => exact gives_error _ _
        | cons c later =>
            obtain ⟨back, backBlank, _, rfl⟩ := exists_gap behind
            simp only
            split
            next => exact gives_error _ _
            next =>
              subst comma
              obtain rfl : first = false := by simpa using goesOn
              refine gives_ok ⟨gap ++ 0x2C :: back, ⟨gap, back, blank, backBlank, rfl⟩, ?_⟩
              simp [parts]
      next => exact gives_error _ _

theorem nextKey_gives (first : Bool) (bytes : List UInt8) :
    Gives (fun found =>
      if found.1.isSome then ∃ lead key, Leads first lead ∧ Content key ∧
        bytes = lead ++ 0x22 :: (key ++ 0x22 :: found.2)
      else ∃ gap, Blank gap ∧ bytes = gap ++ 0x7D :: found.2) (nextKey first bytes) := by
  have key {lead later : List UInt8} (leads : Leads first lead)
      (parts : bytes = lead ++ 0x22 :: later) :
      Gives (fun found : Option String × List UInt8 =>
        if found.1.isSome then ∃ lead key, Leads first lead ∧ Content key ∧
          bytes = lead ++ 0x22 :: (key ++ 0x22 :: found.2)
        else ∃ gap, Blank gap ∧ bytes = gap ++ 0x7D :: found.2)
        ((string later).map fun found => (some found.1, found.2)) := by
    refine (string_gives later).map fun found taken => ?_
    obtain ⟨written, content, behind⟩ := taken
    exact ⟨lead, written, leads, content, behind ▸ parts⟩
  unfold nextKey
  cases left : skipBlanks bytes with
  | nil => exact gives_error _ _
  | cons b later =>
      obtain ⟨gap, blank, _, parts⟩ := exists_gap left
      simp only
      split
      next same => exact gives_ok ⟨gap, blank, same ▸ parts⟩
      split
      next begins =>
        subst begins
        split
        next quote => exact key blank (quote ▸ parts)
        next => exact gives_error _ _
      next goesOn =>
      split
      next comma =>
        cases behind : skipBlanks later with
        | nil => exact gives_error _ _
        | cons c later =>
            obtain ⟨back, backBlank, _, rfl⟩ := exists_gap behind
            simp only
            split
            next quote =>
              subst comma quote
              obtain rfl : first = false := by simpa using goesOn
              exact key ⟨gap, back, blank, backBlank, rfl⟩ (by simp [parts])
            split
            next => exact gives_error _ _
            next => exact gives_error _ _
      next => exact gives_error _ _

theorem skipKey_gives (bytes : List UInt8) :
    Gives (fun rest => ∃ gap key before, Blank gap ∧ Content key ∧ Blank before ∧
      bytes = gap ++ 0x22 :: (key ++ 0x22 :: (before ++ 0x3A :: rest))) (skipKey bytes) := by
  unfold skipKey
  cases left : skipBlanks bytes with
  | nil => exact gives_error _ _
  | cons b later =>
      obtain ⟨gap, blank, _, parts⟩ := exists_gap left
      simp only
      split
      next => exact gives_error _ _
      next quote =>
        obtain rfl : b = 0x22 := by simpa using quote
        refine (skipString_gives later).bind fun rest ⟨key, content, behind⟩ => ?_
        refine (colon_gives rest).imp fun value ⟨before, more, further⟩ => ?_
        exact ⟨gap, key, before, blank, content, more, by rw [parts, behind, further]⟩

end CatalogSeed.Document
