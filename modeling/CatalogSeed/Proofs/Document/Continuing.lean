import CatalogSeed.Document.Reading
import CatalogSeed.Proofs.Document.Token

/-!
Readers in front of further bytes. What was read stays read, and the further bytes are left behind
it; only a number at the very end of what there was may go on in them.
-/

namespace CatalogSeed.Document

/-- Outcomes that hold the bytes that are left. -/
class Leaving (γ : Type) where
  rest : γ → List UInt8
  append : γ → List UInt8 → γ
  rest_append : ∀ found more, rest (append found more) = rest found ++ more

instance : Leaving (List UInt8) := ⟨id, (· ++ ·), fun _ _ => rfl⟩

instance {α : Type} : Leaving (α × List UInt8) :=
  ⟨Prod.snd, fun found more => (found.1, found.2 ++ more), fun _ _ => rfl⟩

open Leaving

variable {α β γ δ σ : Type} [Leaving γ] [Leaving δ] {closed inner : Prop}
  {more bytes : List UInt8}

/-- What came of these bytes also comes of longer ones; if nothing is left of them, only where the
reading is closed. -/
def Stays (closed : Prop) (more bytes : List UInt8) (outcome longer : Except Failure γ) : Prop :=
  ∀ found, outcome = .ok found →
    rest found <:+ bytes ∧ (closed ∨ rest found ≠ [] → longer = .ok (append found more))

theorem stays_error (failure : Failure) (longer : Except Failure γ) :
    Stays closed more bytes (.error failure) longer := nofun

theorem stays_ok {found : γ} (suffix : rest found <:+ bytes) :
    Stays closed more bytes (.ok found) (.ok (append found more)) := by
  intro other same
  obtain rfl := Except.ok.inj same
  exact ⟨suffix, fun _ => rfl⟩

theorem stays_found {found : α} {later : List UInt8} (suffix : later <:+ bytes) :
    Stays closed more bytes (.ok (found, later)) (.ok (found, later ++ more)) :=
  stays_ok suffix

theorem Stays.imp {outcome longer : Except Failure γ}
    (stays : Stays inner more bytes outcome longer) (weaker : closed → inner) :
    Stays closed more bytes outcome longer := by
  intro found outcome
  obtain ⟨suffix, onwards⟩ := stays found outcome
  exact ⟨suffix, fun some => onwards (some.imp weaker id)⟩

theorem Stays.of_closed {outcome longer : Except Failure γ}
    (stays : Stays True more bytes outcome longer) : Stays closed more bytes outcome longer :=
  stays.imp fun _ => trivial

theorem Stays.of_suffix {outcome longer : Except Failure γ} {later : List UInt8}
    (stays : Stays closed more later outcome longer) (suffix : later <:+ bytes) :
    Stays closed more bytes outcome longer := by
  intro found outcome
  obtain ⟨left, onwards⟩ := stays found outcome
  exact ⟨left.trans suffix, onwards⟩

/-- If there was nothing to read, nothing is left. -/
theorem Stays.of_nil {outcome longer longer' : Except Failure γ}
    (stays : Stays closed more [] outcome longer) : Stays False more bytes outcome longer' := by
  intro found outcome
  have spent : rest found = [] := List.suffix_nil.1 (stays found outcome).1
  rw [spent]
  exact ⟨List.nil_suffix, fun some => absurd rfl (some.resolve_left id)⟩

/-- Of two readings the second decides whether the whole is closed, if it finds something to read:
then the first one has left something. -/
theorem Stays.bind {first longer : Except Failure δ} {next next' : δ → Except Failure γ}
    (stays : Stays inner more bytes first longer)
    (some : closed → inner ∨ ∀ found, rest found = [] → ∀ final, next found ≠ .ok final)
    (onwards : ∀ found, rest found <:+ bytes →
      Stays closed more (rest found) (next found) (next' (append found more))) :
    Stays closed more bytes (first >>= next) (longer >>= next') := by
  intro final outcome
  cases first with
  | error failure => contradiction
  | ok found =>
      have second : next found = .ok final := outcome
      obtain ⟨suffix, same⟩ := stays found rfl
      obtain ⟨left, further⟩ := onwards found suffix final second
      refine ⟨left.trans suffix, fun condition => ?_⟩
      have enough : inner ∨ rest found ≠ [] := by
        rcases condition with closed | remains
        · rcases some closed with inner | nothing
          · exact Or.inl inner
          · exact Or.inr fun empty => nothing found empty final second
        · refine Or.inr fun empty => remains ?_
          rw [empty] at left
          exact List.suffix_nil.1 left
      rw [same enough]
      exact further condition

theorem Stays.map {first longer : Except Failure δ} {change : δ → γ}
    (stays : Stays closed more bytes first longer)
    (kept : ∀ found, rest (change found) = rest found ∧
      change (append found more) = append (change found) more) :
    Stays closed more bytes (first.map change) (longer.map change) := by
  intro final outcome
  cases first with
  | error failure => contradiction
  | ok found =>
      obtain rfl : change found = final := Except.ok.inj outcome
      obtain ⟨suffix, same⟩ := stays found rfl
      obtain ⟨left, appended⟩ := kept found
      rw [left]
      refine ⟨suffix, fun condition => ?_⟩
      rw [same condition, ← appended]
      rfl

/-! The smallest parts. -/

theorem skipBlanks_suffix (bytes : List UInt8) : skipBlanks bytes <:+ bytes :=
  List.dropWhile_suffix _

theorem skipBlanks_more {b : UInt8} {later : List UInt8} (left : skipBlanks bytes = b :: later)
    (more : List UInt8) : skipBlanks (bytes ++ more) = b :: (later ++ more) := by
  have some : (bytes.dropWhile isBlank).isEmpty = false := by
    rw [← skipBlanks, left]
    rfl
  rw [skipBlanks, List.dropWhile_append, some]
  exact congrArg (· ++ more) left

theorem visible_suffix {b : UInt8} {later : List UInt8} (left : skipBlanks bytes = b :: later) :
    b :: later <:+ bytes := by
  rw [← left]
  exact skipBlanks_suffix bytes

theorem behind_suffix {b : UInt8} {later : List UInt8} (left : skipBlanks bytes = b :: later) :
    later <:+ bytes :=
  (List.suffix_cons b later).trans (visible_suffix left)

theorem word_stays (letters bytes : List UInt8) :
    Stays True more bytes (word letters bytes) (word letters (bytes ++ more)) := by
  induction letters generalizing bytes with
  | nil => exact stays_ok (List.suffix_refl bytes)
  | cons letter letters ih =>
      cases bytes with
      | nil => exact stays_error _ _
      | cons b bytes =>
          simp only [List.cons_append, word]
          split
          next => exact (ih bytes).of_suffix (List.suffix_cons b bytes)
          next => exact stays_error _ _

theorem stringBytes_stays (state : StringState) (before bytes : List UInt8) :
    Stays True more bytes (stringBytes state before bytes)
      (stringBytes state before (bytes ++ more)) := by
  induction bytes generalizing state before with
  | nil => cases state <;> exact stays_error _ _
  | cons b bytes ih =>
      have suffix : bytes <:+ b :: bytes := List.suffix_cons b bytes
      have onwards (state : StringState) (before : List UInt8) :
          Stays True more (b :: bytes) (stringBytes state before bytes)
            (stringBytes state before (bytes ++ more)) :=
        (ih state before).of_suffix suffix
      rw [List.cons_append]
      cases state with
      | between =>
          simp only [stringBytes]
          split
          next => exact stays_ok suffix
          split
          next => exact onwards _ _
          split
          next => exact stays_error _ _
          next => exact onwards _ _
      | escape =>
          simp only [stringBytes]
          split
          next => exact onwards _ _
          cases shortEscape? b with
          | none => exact stays_error _ _
          | some c => exact onwards _ _
      | hex high digits =>
          simp only [stringBytes]
          split
          next => exact onwards _ _
          cases hexValue? (digits ++ [b]) with
          | none => exact stays_error _ _
          | some value =>
              cases high with
              | none =>
                  simp only
                  split
                  next => exact stays_error _ _
                  split
                  next => exact onwards _ _
                  next => exact onwards _ _
              | some first =>
                  simp only
                  split
                  next => exact onwards _ _
                  next => exact stays_error _ _
      | high value =>
          simp only [stringBytes]
          split
          next => exact onwards _ _
          next => exact stays_error _ _
      | highEscape value =>
          simp only [stringBytes]
          split
          next => exact onwards _ _
          next => exact stays_error _ _

theorem string_stays (bytes : List UInt8) :
    Stays True more bytes (string bytes) (string (bytes ++ more)) := by
  refine (stringBytes_stays .between [] bytes).bind (fun _ => Or.inl trivial) fun found _ => ?_
  obtain ⟨content, later⟩ := found
  simp only [append]
  cases Utf8.decode content with
  | none => exact stays_error _ _
  | some text => exact stays_ok (List.suffix_refl later)

theorem skipString_stays (state : SkipState) (bytes : List UInt8) :
    Stays True more bytes (skipString state bytes) (skipString state (bytes ++ more)) := by
  intro later passed
  refine ⟨?_, fun _ => skipString_append passed more⟩
  fun_induction skipString state bytes with
  | case1 => contradiction
  | case2 bytes =>
      obtain rfl := Except.ok.inj passed
      exact List.suffix_cons _ _
  | case3 _ _ ih => exact (ih passed).trans (List.suffix_cons _ _)
  | case4 => contradiction
  | case5 _ _ _ _ _ ih => exact (ih passed).trans (List.suffix_cons _ _)
  | case6 _ ih => exact (ih passed).trans (List.suffix_cons _ _)
  | case7 _ _ _ _ ih => exact (ih passed).trans (List.suffix_cons _ _)
  | case8 => contradiction
  | case9 _ _ _ _ ih => exact (ih passed).trans (List.suffix_cons _ _)
  | case10 _ _ _ _ _ ih => exact (ih passed).trans (List.suffix_cons _ _)
  | case11 => contradiction

/-! Numbers. -/

theorem digits_suffix (bytes : List UInt8) : (digits bytes).2 <:+ bytes :=
  List.dropWhile_suffix _

theorem digits_more (some : (digits bytes).2 ≠ []) (more : List UInt8) :
    digits (bytes ++ more) = ((digits bytes).1, (digits bytes).2 ++ more) := by
  induction bytes with
  | nil => contradiction
  | cons b bytes ih =>
      by_cases digit : isDigit b = true
      · simp only [digits, List.cons_append, List.takeWhile_cons_of_pos digit,
          List.dropWhile_cons_of_pos digit, List.map_cons, Prod.mk.injEq] at some ih ⊢
        obtain ⟨values, left⟩ := ih some
        exact ⟨congrArg _ values, left⟩
      · simp [digits, digit]

theorem stays_spent {found : γ} (spent : rest found = []) (longer : Except Failure γ) :
    Stays False more bytes (.ok found) longer := by
  intro other same
  obtain rfl := Except.ok.inj same
  rw [spent]
  exact ⟨List.nil_suffix, fun some => absurd rfl (some.resolve_left id)⟩

theorem digits_stays (bytes : List UInt8) :
    Stays False more bytes (.ok (digits bytes)) (.ok (digits (bytes ++ more))) := by
  by_cases spent : (digits bytes).2 = []
  · exact stays_spent spent _
  · rw [digits_more spent]
    exact stays_ok (digits_suffix bytes)

/-- The first byte is always taken up. -/
theorem wholeDigits_stays (atEnd : Cause) (b : UInt8) (bytes : List UInt8) :
    Stays False more bytes (wholeDigits atEnd (b :: bytes))
      (wholeDigits atEnd (b :: (bytes ++ more))) := by
  simp only [wholeDigits]
  split
  next =>
    cases bytes with
    | nil => exact stays_spent rfl _
    | cons c bytes =>
        simp only [List.cons_append]
        split
        next => exact stays_error _ _
        next => exact stays_ok (List.suffix_refl _)
  split
  next digit =>
    have behind (rest : List UInt8) :
        digits (b :: rest) = (digitValue b :: (digits rest).1, (digits rest).2) := by
      simp [digits, digit]
    rw [behind, behind]
    exact @Stays.map _ _ _ _ _ _ _ _ _ (fun found => (digitValue b :: found.1, found.2))
      (digits_stays bytes) fun _ => ⟨rfl, rfl⟩
  next => exact stays_error _ _

theorem fractionDigits_stays (atEnd : Cause) (bytes : List UInt8) :
    Stays False more bytes (fractionDigits atEnd bytes) (fractionDigits atEnd (bytes ++ more)) := by
  cases bytes with
  | nil => exact stays_spent rfl _
  | cons b bytes =>
      by_cases point : b = 0x2E
      · subst point
        rintro ⟨found, later⟩ outcome
        obtain ⟨some, parted⟩ := (fractionDigits_point atEnd bytes).1 outcome
        obtain ⟨suffix, onwards⟩ := @digits_stays more bytes _ (congrArg Except.ok parted)
        refine ⟨suffix.trans (List.suffix_cons _ _), fun left => ?_⟩
        have longer := Except.ok.inj (onwards left)
        exact (fractionDigits_point atEnd (bytes ++ more)).2 ⟨some, longer⟩
      · rw [List.cons_append, fractionDigits_plain atEnd point, fractionDigits_plain atEnd point]
        exact stays_ok (List.suffix_refl _)

theorem exponentSign_suffix (bytes : List UInt8) : (exponentSign bytes).2 <:+ bytes := by
  unfold exponentSign
  split
  next => exact List.suffix_cons _ _
  next => exact List.suffix_cons _ _
  next => exact List.suffix_refl _

theorem exponentDigits_stays (atEnd : Cause) (bytes : List UInt8) :
    Stays False more bytes (exponentDigits atEnd bytes) (exponentDigits atEnd (bytes ++ more)) := by
  cases bytes with
  | nil => exact stays_spent rfl _
  | cons b bytes =>
      by_cases letter : b = 0x65 ∨ b = 0x45
      · rintro ⟨found, later⟩ outcome
        obtain ⟨values, rfl, rfl⟩ := (exponentDigits_cons atEnd letter bytes).1 outcome
        have suffix : (digits (exponentSign bytes).2).2 <:+ b :: bytes :=
          (digits_suffix _).trans ((exponentSign_suffix bytes).trans (List.suffix_cons _ _))
        refine ⟨suffix, fun some => ?_⟩
        have left := some.resolve_left id
        have signed : bytes ≠ [] := by
          rintro rfl
          exact values rfl
        rw [List.cons_append]
        refine (exponentDigits_cons atEnd letter (bytes ++ more)).2 ?_
        rw [exponentSign_append signed, digits_more left]
        exact ⟨values, rfl, rfl⟩
      · rw [List.cons_append, exponentDigits_plain atEnd letter, exponentDigits_plain atEnd letter]
        exact stays_ok (List.suffix_refl _)

theorem numeral_taken (atEnd : Cause) (negative : Bool) (b : UInt8) (bytes : List UInt8) :
    Stays False more bytes (numeral atEnd negative (b :: bytes))
      (numeral atEnd negative (b :: (bytes ++ more))) := by
  refine (wholeDigits_stays atEnd b bytes).bind nofun fun (_, left) _ => ?_
  refine (fractionDigits_stays atEnd left).bind nofun fun (_, left) _ => ?_
  refine (exponentDigits_stays atEnd left).bind nofun fun (_, left) _ => ?_
  exact stays_ok (List.suffix_refl left)

theorem numeral_stays (atEnd : Cause) (negative : Bool) (bytes : List UInt8) :
    Stays False more bytes (numeral atEnd negative bytes)
      (numeral atEnd negative (bytes ++ more)) := by
  cases bytes with
  | nil => exact stays_error _ _
  | cons b bytes =>
      exact (numeral_taken atEnd negative b bytes).of_suffix (List.suffix_cons b bytes)

theorem number_taken (negative : Bool) (b : UInt8) (bytes : List UInt8) :
    Stays False more bytes (number negative (b :: bytes))
      (number negative (b :: (bytes ++ more))) := by
  refine (numeral_taken .endInValue negative b bytes).bind nofun fun (written, left) _ => ?_
  simp only [append]
  cases written.value with
  | error unread => exact stays_error _ _
  | ok value => exact stays_ok (List.suffix_refl left)

theorem number_stays (negative : Bool) (bytes : List UInt8) :
    Stays False more bytes (number negative bytes) (number negative (bytes ++ more)) := by
  cases bytes with
  | nil => exact stays_error _ _
  | cons b bytes => exact (number_taken negative b bytes).of_suffix (List.suffix_cons b bytes)

/-! Values that nobody asked for. -/

theorem colon_stays (bytes : List UInt8) :
    Stays True more bytes (colon bytes) (colon (bytes ++ more)) := by
  unfold colon
  cases left : skipBlanks bytes with
  | nil => exact stays_error _ _
  | cons b later =>
      simp only [skipBlanks_more left]
      split
      next => exact stays_ok (behind_suffix left)
      next => exact stays_error _ _

theorem skipKey_stays (bytes : List UInt8) :
    Stays True more bytes (skipKey bytes) (skipKey (bytes ++ more)) := by
  unfold skipKey
  cases left : skipBlanks bytes with
  | nil => exact stays_error _ _
  | cons b later =>
      simp only [skipBlanks_more left]
      split
      next => exact stays_error _ _
      next =>
        refine Stays.of_suffix ?_ (behind_suffix left)
        exact (skipString_stays .between later).bind (fun _ => Or.inl trivial)
          fun rest _ => colon_stays rest

/-- What is left behind at least one byte. -/
def Behind (later bytes : List UInt8) : Prop :=
  later <:+ bytes ∧ later.length < bytes.length

theorem behind_visible {b : UInt8} {later : List UInt8} (left : skipBlanks bytes = b :: later) :
    Behind later bytes := by
  have bound := (visible_suffix left).length_le
  rw [List.length_cons] at bound
  exact ⟨behind_suffix left, bound⟩

theorem Behind.of_suffix {later left : List UInt8} (behind : Behind later bytes)
    (suffix : left <:+ later) : Behind left bytes :=
  ⟨suffix.trans behind.1, Nat.lt_of_le_of_lt suffix.length_le behind.2⟩

/-- The rounds behind these bytes go the same way in front of more bytes. -/
def RoundsStay (fuel longer : Nat) (more bytes : List UInt8) : Prop :=
  ∀ step opened later, Behind later bytes →
    Stays False more later (skipOpen fuel step opened later)
      (skipOpen longer step opened (later ++ more))

section

variable {fuel longer : Nat} {later : List UInt8}

theorem RoundsStay.next (rounds : RoundsStay fuel longer more bytes) (step : SkipStep)
    (opened : List Bracket) (behind : Behind later bytes) :
    Stays False more bytes (skipOpen fuel step opened later)
      (skipOpen longer step opened (later ++ more)) :=
  (rounds step opened later behind).of_suffix behind.1

theorem RoundsStay.after (rounds : RoundsStay fuel longer more bytes) (step : SkipStep)
    (opened : List Bracket) (behind : Behind later bytes) {first first' : Except Failure δ}
    (stays : Stays inner more later first first') :
    Stays False more bytes
      (first >>= fun found => skipOpen fuel step opened (rest found))
      (first' >>= fun found => skipOpen longer step opened (rest found)) := by
  refine Stays.of_suffix ?_ behind.1
  refine stays.bind nofun fun found left => ?_
  rw [rest_append]
  exact rounds step opened (rest found) (behind.of_suffix left)

theorem skipFollow_stays (rounds : RoundsStay fuel longer more bytes) (opened : List Bracket) :
    Stays False more bytes (skipOpen (fuel + 1) .follow opened bytes)
      (skipOpen (longer + 1) .follow opened (bytes ++ more)) := by
  cases opened with
  | nil => exact stays_ok (List.suffix_refl bytes)
  | cons bracket outer =>
      simp only [skipOpen]
      cases left : skipBlanks bytes with
      | nil => exact stays_error _ _
      | cons b later =>
          have behind := behind_visible left
          simp only [skipBlanks_more left]
          split
          next =>
            cases bracket with
            | array => exact rounds.next _ _ behind
            | object => exact rounds.after _ _ behind (skipKey_stays later)
          split
          next => exact rounds.next _ _ behind
          next => exact stays_error _ _

theorem skipOpening_stays (rounds : RoundsStay fuel longer more bytes) (opened : List Bracket) :
    Stays False more bytes (skipOpen (fuel + 1) .value opened bytes)
      (skipOpen (longer + 1) .value opened (bytes ++ more)) := by
  simp only [skipOpen]
  cases left : skipBlanks bytes with
  | nil => exact stays_error _ _
  | cons b later =>
      have behind := behind_visible left
      simp only [skipBlanks_more left]
      split
      next =>
        cases inside : skipBlanks later with
        | nil => exact stays_error _ _
        | cons c left =>
            simp only [skipBlanks_more inside]
            split
            next => exact rounds.next _ _ (behind.of_suffix (behind_suffix inside))
            next => exact rounds.next _ _ (behind.of_suffix (visible_suffix inside))
      split
      next =>
        cases inside : skipBlanks later with
        | nil => exact stays_error _ _
        | cons c left =>
            have first := behind.of_suffix (visible_suffix inside)
            simp only [skipBlanks_more inside]
            split
            next => exact rounds.next _ _ (behind.of_suffix (behind_suffix inside))
            next => exact rounds.after _ _ first (skipKey_stays (c :: left))
      split
      next => exact rounds.after _ _ behind (word_stays _ _)
      split
      next => exact rounds.after _ _ behind (word_stays _ _)
      split
      next => exact rounds.after _ _ behind (word_stays _ _)
      split
      next => exact rounds.after _ _ behind (skipString_stays _ _)
      split
      next => exact rounds.after _ _ behind (numeral_stays _ _ later)
      split
      next => exact rounds.after _ _ behind (numeral_taken _ _ b later)
      next => exact stays_error _ _

end

/-- Each round takes up a byte, so the fuel does not run out in front of more bytes either. -/
theorem skipOpen_stays {fuel longer : Nat} (step : SkipStep) (opened : List Bracket)
    (bytes : List UInt8) (enough : bytes.length < fuel)
    (further : bytes.length + more.length < longer) :
    Stays False more bytes (skipOpen fuel step opened bytes)
      (skipOpen longer step opened (bytes ++ more)) := by
  induction fuel generalizing longer step opened bytes with
  | zero => omega
  | succ fuel ih =>
      obtain ⟨longer, rfl⟩ : ∃ fewer, longer = fewer + 1 := ⟨longer - 1, by omega⟩
      have rounds : RoundsStay fuel longer more bytes := fun step opened later ⟨_, shorter⟩ =>
        ih step opened later (by omega) (by omega)
      cases step with
      | follow => exact skipFollow_stays rounds opened
      | value => exact skipOpening_stays rounds opened

theorem skipValue_stays (bytes : List UInt8) :
    Stays False more bytes (skipValue bytes) (skipValue (bytes ++ more)) :=
  skipOpen_stays .value [] bytes (by omega) (by simp)

end CatalogSeed.Document
