import Mathlib.Data.List.TakeWhile
import CatalogSeed.Proofs.Document.Continuing
import CatalogSeed.Proofs.Document.Reading

/-!
Values in front of further bytes. What stands in brackets or quotes is read the same whatever
follows, so no document of such a kind begins with another one.
-/

namespace CatalogSeed.Document

open Leaving

variable {α σ : Type} {closed : Prop} {more : List UInt8}

/-- A reader finds the same in front of further bytes. -/
def Continues (closed : Prop) (reader : Reader α) : Prop :=
  ∀ bytes more, Stays closed more bytes (reader bytes) (reader (bytes ++ more))

/-- The word stands for a value. -/
theorem word_continues (letters bytes : List UInt8) (value : α) :
    Stays True more bytes ((word letters bytes).map (value, ·))
      ((word letters (bytes ++ more)).map (value, ·)) :=
  (word_stays letters bytes).map fun _ => ⟨rfl, rfl⟩

/-! Arrays and objects. -/

theorem nextElement_stays (first : Bool) (bytes : List UInt8) :
    Stays True more bytes (nextElement first bytes) (nextElement first (bytes ++ more)) := by
  unfold nextElement
  cases left : skipBlanks bytes with
  | nil => exact stays_error _ _
  | cons b later =>
      simp only [skipBlanks_more left]
      split
      next => exact stays_ok (behind_suffix left)
      split
      next => exact stays_ok (visible_suffix left)
      split
      next =>
        cases behind : skipBlanks later with
        | nil => exact stays_error _ _
        | cons c rest =>
            simp only [skipBlanks_more behind]
            split
            next => exact stays_error _ _
            next => exact stays_ok ((visible_suffix behind).trans (behind_suffix left))
      next => exact stays_error _ _

theorem nextKey_stays (first : Bool) (bytes : List UInt8) :
    Stays True more bytes (nextKey first bytes) (nextKey first (bytes ++ more)) := by
  have key {later : List UInt8} (suffix : later <:+ bytes) :
      Stays True more bytes ((string later).map fun found => (some found.1, found.2))
        ((string (later ++ more)).map fun found => (some found.1, found.2)) := by
    refine Stays.of_suffix ?_ suffix
    exact (string_stays later).map fun _ => ⟨rfl, rfl⟩
  unfold nextKey
  cases left : skipBlanks bytes with
  | nil => exact stays_error _ _
  | cons b later =>
      simp only [skipBlanks_more left]
      split
      next => exact stays_ok (behind_suffix left)
      split
      next =>
        split
        next => exact key (behind_suffix left)
        next => exact stays_error _ _
      split
      next =>
        cases behind : skipBlanks later with
        | nil => exact stays_error _ _
        | cons c rest =>
            simp only [skipBlanks_more behind]
            split
            next => exact key ((behind_suffix behind).trans (behind_suffix left))
            split
            next => exact stays_error _ _
            next => exact stays_error _ _
      next => exact stays_error _ _

theorem elements_stays {item : Reader α} (each : Continues False item) {fuel longer : Nat}
    (enough : fuel ≤ longer) (before : List α) (bytes : List UInt8) :
    Stays True more bytes (elements item fuel before bytes)
      (elements item longer before (bytes ++ more)) := by
  induction fuel generalizing longer before bytes with
  | zero => exact stays_error _ _
  | succ fuel ih =>
      obtain ⟨longer, rfl⟩ : ∃ fewer, longer = fewer + 1 := ⟨longer - 1, by omega⟩
      refine (nextElement_stays _ bytes).bind (fun _ => Or.inl trivial) fun (go, left) _ => ?_
      cases go with
      | false => exact stays_ok (List.suffix_refl left)
      | true =>
          -- An item need not be closed: if it took the last byte, the bracket is missing.
          refine (each left more).bind (fun _ => Or.inr ?_) fun (value, left) _ => ?_
          · rintro ⟨value, _⟩ rfl final outcome
            cases fuel <;> contradiction
          · exact ih (by omega) _ left

theorem array_continues {item : Reader α} (each : Continues False item) :
    Continues True (array item) :=
  fun bytes more => elements_stays each (by simp) [] bytes

theorem members_stays {member : σ → String → Reader σ}
    (each : ∀ state key, Continues False (member state key)) {fuel longer : Nat}
    (enough : fuel ≤ longer) (first : Bool) (state : σ) (bytes : List UInt8) :
    Stays True more bytes (members member fuel first state bytes)
      (members member longer first state (bytes ++ more)) := by
  induction fuel generalizing longer first state bytes with
  | zero => exact stays_error _ _
  | succ fuel ih =>
      obtain ⟨longer, rfl⟩ : ∃ fewer, longer = fewer + 1 := ⟨longer - 1, by omega⟩
      refine (nextKey_stays first bytes).bind (fun _ => Or.inl trivial) fun (key, left) _ => ?_
      cases key with
      | none => exact stays_ok (List.suffix_refl left)
      | some key =>
          refine (each state key left more).bind (fun _ => Or.inr ?_) fun (state, left) _ => ?_
          · rintro ⟨state, _⟩ rfl final outcome
            cases fuel <;> contradiction
          · exact ih (by omega) false state left

theorem object_continues {member : σ → String → Reader σ}
    (each : ∀ state key, Continues False (member state key)) (start : σ) :
    Continues True (object member start) :=
  fun bytes more => members_stays each (by simp) true start bytes

/-- What is behind a colon. -/
theorem behind_colon {reader : Reader α} (continues : Continues closed reader) :
    Continues closed fun bytes => colon bytes >>= reader :=
  fun bytes more => (colon_stays bytes).bind (fun _ => Or.inl trivial)
    fun left _ => continues left more

theorem bagMember_continues {value : Reader Json} (each : Continues False value) (bag : Bag)
    (key : String) : Continues False (bagMember value bag key) :=
  fun bytes more => (behind_colon each bytes more).bind nofun
    fun (_, left) _ => stays_ok (List.suffix_refl left)

/-! Values. -/

theorem json_continues (nesting : Nat) : Continues False (json nesting) := by
  induction nesting using Nat.strongRecOn with
  | ind nesting ih =>
      intro bytes more
      unfold json
      cases left : skipBlanks bytes with
      | nil => exact stays_error _ _
      | cons b later =>
          simp only [skipBlanks_more left]
          refine Stays.of_suffix ?_ (behind_suffix left)
          split
          next => exact (word_continues _ _ _).of_closed
          split
          next => exact (word_continues _ _ _).of_closed
          split
          next => exact (word_continues _ _ _).of_closed
          split
          next => exact (number_stays true later).map fun _ => ⟨rfl, rfl⟩
          split
          next => exact (number_taken false b later).map fun _ => ⟨rfl, rfl⟩
          split
          next => exact (string_stays later).of_closed.map fun _ => ⟨rfl, rfl⟩
          split
          next =>
            cases nesting with
            | zero => exact stays_error _ _
            | succ nesting =>
                exact (array_continues (ih nesting (by omega)) later more).of_closed.map
                  fun _ => ⟨rfl, rfl⟩
          split
          next =>
            cases nesting with
            | zero => exact stays_error _ _
            | succ nesting =>
                have bag := object_continues (bagMember_continues (ih nesting (by omega))) []
                exact (bag later more).of_closed.map fun _ => ⟨rfl, rfl⟩
          next => exact stays_error _ _

variable {value : Kind → Reader Datum}

theorem memberValue_null {reader : Reader Datum} {bytes rest : List UInt8}
    (null : skipBlanks bytes = 0x6E :: rest) :
    memberValue .lenient reader bytes = (word wordNull rest).map (none, ·) := by
  unfold memberValue
  rw [null]
  rfl

theorem memberValue_plain {presence : Presence} {reader : Reader Datum} {bytes : List UInt8}
    (other : ∀ rest, presence = .lenient → skipBlanks bytes ≠ 0x6E :: rest) :
    memberValue presence reader bytes =
      (reader (skipBlanks bytes)).map fun (found, rest) => (some found, rest) := by
  unfold memberValue
  split
  next same => exact absurd same (other _ rfl)
  next => rfl

theorem memberValue_continues {reader : Reader Datum} (each : Continues False reader)
    (presence : Presence) : Continues False (memberValue presence reader) := by
  intro bytes more
  have plain (left : List UInt8) :
      Stays False more left ((reader left).map fun (found, rest) => (some found, rest))
        ((reader (left ++ more)).map fun (found, rest) => (some found, rest)) :=
    (each left more).map fun _ => ⟨rfl, rfl⟩
  cases left : skipBlanks bytes with
  | nil =>
      rw [memberValue_plain (by simp [left]), left]
      exact (plain []).of_nil
  | cons b later =>
      have longer := skipBlanks_more left more
      by_cases null : presence = .lenient ∧ b = 0x6E
      · obtain ⟨rfl, rfl⟩ := null
        rw [memberValue_null left, memberValue_null longer]
        exact (word_continues _ _ _).of_closed.of_suffix (behind_suffix left)
      · have other (rest : List UInt8) (lenient : presence = .lenient) : b ≠ 0x6E :=
          fun same => null ⟨lenient, same⟩
        rw [memberValue_plain (by simpa [left] using other),
          memberValue_plain (by simpa [longer] using other), left, longer]
        exact (plain (b :: later)).of_suffix (visible_suffix left)

theorem recordMember_continues (each : ∀ kind, Continues False (value kind))
    (known : List (Member Kind)) (gathered : Gathered) (key : String) :
    Continues False (recordMember value known gathered key) := by
  intro bytes more
  unfold recordMember
  cases known.find? (·.key = key) with
  | none =>
      have passed := (@colon_stays more bytes).bind (fun _ => Or.inl trivial)
        fun left _ => skipValue_stays left
      exact passed.bind nofun fun left _ => stays_ok (List.suffix_refl left)
  | some member =>
      simp only
      split
      next => exact stays_error _ _
      next =>
        have read := behind_colon (memberValue_continues (each member.kind) member.presence)
        exact (read bytes more).bind nofun fun (_, left) _ => stays_ok (List.suffix_refl left)

theorem closeArray_stays (bytes : List UInt8) :
    Stays True more bytes (closeArray bytes) (closeArray (bytes ++ more)) := by
  unfold closeArray
  cases left : skipBlanks bytes with
  | nil => exact stays_error _ _
  | cons b later =>
      simp only [skipBlanks_more left]
      split
      next => exact stays_ok (behind_suffix left)
      split
      next =>
        split
        next => exact stays_error _ _
        next => exact stays_error _ _
      next => exact stays_error _ _

theorem positional_continues (each : ∀ kind, Continues False (value kind)) (label : String)
    (total count : Nat) (known : List (Member Kind)) :
    Continues True (positional value label total count known) := by
  intro bytes more
  induction known generalizing count bytes with
  | nil => exact (closeArray_stays bytes).map fun _ => ⟨rfl, rfl⟩
  | cons member known ih =>
      refine (nextElement_stays _ bytes).bind (fun _ => Or.inl trivial) fun (go, left) _ => ?_
      cases go with
      | false =>
          simp only [Bool.false_eq_true, if_false]
          split
          next => exact stays_error _ _
          next => exact stays_ok (List.suffix_refl left)
      | true =>
          have read := memberValue_continues (each member.kind) member.presence
          refine (read left more).bind (fun _ => Or.inr ?_) fun (found, left) _ => ?_
          · rintro ⟨found, _⟩ rfl final outcome
            cases known <;> contradiction
          · exact (ih (count + 1) left).bind (fun _ => Or.inl trivial)
              fun (_, left) _ => stays_ok (List.suffix_refl left)

theorem name_continues (known : List String) : Continues True (name known) := by
  intro bytes more
  refine (string_stays bytes).bind (fun _ => Or.inl trivial) fun (found, left) _ => ?_
  simp only [append]
  split
  next => exact stays_found (List.suffix_refl left)
  next => exact stays_error _ _

/-- What stands in an object that is read as a name. -/
theorem nameObject_ok {known : List String} {bytes rest : List UInt8} {found : String} :
    nameObject known bytes = .ok (found, rest) ↔
      ∃ key behind value null closing, skipBlanks bytes = 0x22 :: key ∧
        name known key = .ok (found, behind) ∧ colon behind = .ok value ∧
        skipBlanks value = 0x6E :: null ∧ word wordNull null = .ok closing ∧
        skipBlanks closing = 0x7D :: rest := by
  constructor
  · intro outcome
    unfold nameObject at outcome
    simp only [bind, Except.bind] at outcome
    split at outcome
    next key quote =>
      split at outcome
      next => contradiction
      next named naming =>
        split at outcome
        next => contradiction
        next value sign =>
          split at outcome
          next null begins =>
            split at outcome
            next => contradiction
            next closing ended =>
              split at outcome
              next => contradiction
              next brace =>
                obtain ⟨rfl, rfl⟩ := Prod.mk.inj (Except.ok.inj outcome)
                exact ⟨key, _, value, null, closing, quote, naming, sign, begins, ended, brace⟩
              next => contradiction
          next => contradiction
    all_goals contradiction
  · rintro ⟨key, behind, value, null, closing, quote, naming, sign, begins, ended, brace⟩
    simp [nameObject, quote, naming, sign, begins, ended, brace, bind, Except.bind]

theorem nameObject_continues (known : List String) : Continues True (nameObject known) := by
  rintro bytes more ⟨found, rest⟩ outcome
  obtain ⟨key, behind, value, null, closing, quote, naming, sign, begins, ended, brace⟩ :=
    nameObject_ok.1 outcome
  obtain ⟨first, named⟩ := name_continues known key more _ naming
  obtain ⟨second, signed⟩ := colon_stays behind _ sign
  obtain ⟨third, closed⟩ := word_stays wordNull null _ ended
  have suffix : rest <:+ bytes := by
    have inner : rest <:+ value :=
      (behind_suffix brace).trans (third.trans (behind_suffix begins))
    exact inner.trans (second.trans (first.trans (behind_suffix quote)))
  refine ⟨suffix, fun _ => nameObject_ok.2 ?_⟩
  exact ⟨_, _, _, _, _, skipBlanks_more quote more, named (Or.inl trivial),
    signed (Or.inl trivial), skipBlanks_more begins more, closed (Or.inl trivial),
    skipBlanks_more brace more⟩

theorem bracketed_continues (each : ∀ kind, Continues False (value kind)) {json : Reader Json}
    (inner : Continues False json) (kind : Kind) : Continues True (bracketed value json kind) := by
  intro bytes more
  have behind {b : UInt8} {later : List UInt8}
      {outcome longer : Except Failure (Datum × List UInt8)}
      (stays : Stays True more later outcome longer) :
      Stays True more (b :: later) outcome longer :=
    stays.of_suffix (List.suffix_cons b later)
  intro found outcome
  unfold bracketed at outcome
  split at outcome
  next item later =>
    refine behind ?_ found outcome
    exact (array_continues (each item) later more).map fun _ => ⟨rfl, rfl⟩
  next item later =>
    refine behind ?_ found outcome
    refine Stays.map (object_continues (fun entries key bytes more => ?_) [] later more)
      fun _ => ⟨rfl, rfl⟩
    exact (behind_colon (each item) bytes more).bind nofun
      fun (_, left) _ => stays_found (List.suffix_refl left)
  next later =>
    refine behind ?_ found outcome
    exact (object_continues (bagMember_continues inner) [] later more).map fun _ => ⟨rfl, rfl⟩
  next label known later =>
    refine behind ?_ found outcome
    exact (positional_continues each label known.length 0 known later more).map
      fun _ => ⟨rfl, rfl⟩
  next label known later =>
    refine behind ?_ found outcome
    refine (object_continues (recordMember_continues each known) [] later more).bind
      (fun _ => Or.inl trivial) fun (gathered, left) _ => ?_
    simp only [append]
    cases arrange known gathered with
    | error cause => exact stays_error _ _
    | ok values => exact stays_found (List.suffix_refl left)
  next known later =>
    refine behind ?_ found outcome
    exact (nameObject_continues known later more).map fun _ => ⟨rfl, rfl⟩
  next => contradiction

theorem integer_continues (n : Number) (left : List UInt8) :
    Stays False more left
      (match n with
      | .real _ => .error (.here (.wrongType (.number n) Kind.integer.wanted) left)
      | .whole value =>
          match value.toInt64? with
          | some value => .ok (Datum.integer value, left)
          | none => .error (.here (.integerTooLarge value) left))
      (match n with
      | .real _ => .error (.here (.wrongType (.number n) Kind.integer.wanted) (left ++ more))
      | .whole value =>
          match value.toInt64? with
          | some value => .ok (Datum.integer value, left ++ more)
          | none => .error (.here (.integerTooLarge value) (left ++ more))) := by
  cases n with
  | real x => exact stays_error _ _
  | whole value =>
      simp only
      cases value.toInt64? with
      | none => exact stays_error _ _
      | some value => exact stays_found (List.suffix_refl left)

theorem scalar_continues (kind : Kind) : Continues (kind ≠ .integer) (scalar kind) := by
  intro bytes more
  have behind {b : UInt8} {later : List UInt8} {closed : Prop}
      {outcome longer : Except Failure (Datum × List UInt8)}
      (stays : Stays closed more later outcome longer) :
      Stays closed more (b :: later) outcome longer :=
    stays.of_suffix (List.suffix_cons b later)
  intro found outcome
  unfold scalar at outcome
  split at outcome
  next later =>
    refine behind ?_ found outcome
    exact (string_stays later).of_closed.map fun _ => ⟨rfl, rfl⟩
  next later => exact behind (word_continues _ _ _).of_closed found outcome
  next later => exact behind (word_continues _ _ _).of_closed found outcome
  next known later =>
    refine behind ?_ found outcome
    exact (name_continues known later more).of_closed.map fun _ => ⟨rfl, rfl⟩
  next => contradiction
  next b later =>
    refine behind (Stays.imp (?_ : Stays False _ _ _ _) fun different => different rfl)
      found outcome
    simp only [List.cons_append, scalar]
    split
    next =>
      split
      next =>
        exact (number_stays true later).bind False.elim fun found _ =>
          integer_continues found.1 found.2
      next =>
        exact (number_taken false b later).bind False.elim fun found _ =>
          integer_continues found.1 found.2
    next => exact stays_error _ _
  next => contradiction

/-- The first byte that is no blank, and the blanks before it. -/
theorem exists_gap {bytes later : List UInt8} {b : UInt8} (left : skipBlanks bytes = b :: later) :
    ∃ gap, Blank gap ∧ isBlank b = false ∧ bytes = gap ++ b :: later := by
  have visible := List.head?_dropWhile_not isBlank bytes
  rw [← skipBlanks, left] at visible
  refine ⟨bytes.takeWhile isBlank, ?_, visible, ?_⟩
  · exact List.all_eq_true.1 List.all_takeWhile
  · rw [← left]
    exact List.takeWhile_append_dropWhile.symm

theorem value_continues (nesting : Nat) (kind : Kind) :
    Continues (kind ≠ .integer ∧ kind ≠ .json) (Document.value nesting kind) := by
  induction nesting using Nat.strongRecOn generalizing kind with
  | ind nesting ih =>
      intro bytes more
      by_cases any : kind = .json
      -- A value of any form may be a number, and then it goes on in the further bytes.
      · subst any
        refine Stays.imp (?_ : Stays False _ _ _ _) fun closed => closed.2 rfl
        cases left : skipBlanks bytes with
        | nil =>
            have nothing : json nesting [] = .error (.next .endInValue []) := by
              unfold json
              rfl
            simp only [Document.value, left, nothing]
            exact stays_error _ _
        | cons b later =>
            simp only [Document.value, left, skipBlanks_more left]
            refine Stays.of_suffix ?_ (visible_suffix left)
            exact (json_continues nesting (b :: later) more).map fun _ => ⟨rfl, rfl⟩
      · cases left : skipBlanks bytes with
        | nil =>
            have nothing : Document.value nesting kind bytes = .error (.next .endInValue []) := by
              cases kind <;> simp_all [Document.value]
            rw [nothing]
            exact stays_error _ _
        | cons b later =>
            obtain ⟨gap, blank, visible, rfl⟩ := exists_gap left
            rw [List.append_assoc, List.cons_append, value_head any nesting blank visible,
              value_head any nesting blank visible]
            refine Stays.of_suffix ?_ (List.suffix_append gap (b :: later))
            split
            next =>
              cases nesting with
              | zero => exact stays_error _ _
              | succ nesting =>
                  have each (kind : Kind) : Continues False (Document.value nesting kind) :=
                    fun bytes more => (ih nesting (by omega) kind bytes more).imp False.elim
                  exact (bracketed_continues each (json_continues nesting) kind _ more).of_closed
            next => exact (scalar_continues kind _ more).imp And.left

theorem skipBlanks_eq_nil {bytes : List UInt8} : skipBlanks bytes = [] ↔ Blank bytes :=
  List.dropWhile_eq_nil_iff

theorem read_ok {kind : Kind} {document : List UInt8} {found : Datum} :
    read kind document = .ok found ↔
      ∃ rest, Document.value nestingLimit kind document = .ok (found, rest) ∧ Blank rest := by
  rw [← toOption_eq_some, read, toOption_mapError, toOption_eq_some]
  cases outcome : Document.value nestingLimit kind document with
  | error failure => simp [bind, Except.bind]
  | ok read =>
      obtain ⟨datum, rest⟩ := read
      cases left : skipBlanks rest with
      | nil =>
          have blank := skipBlanks_eq_nil.1 left
          simp only [bind, Except.bind, left, Except.ok.injEq, Prod.mk.injEq]
          constructor
          · exact fun same => ⟨rest, ⟨same, rfl⟩, blank⟩
          · rintro ⟨_, ⟨same, _⟩, _⟩
            exact same
      | cons b later =>
          have visible : ¬ Blank rest := fun blank => by simp [skipBlanks_eq_nil.2 blank] at left
          simp [bind, Except.bind, left, visible]

/-- If a document is accepted and goes on from another one that is accepted too, only blanks were
added. -/
theorem blank_of_read {kind : Kind} (bounded : kind ≠ .integer ∧ kind ≠ .json)
    {start behind : List UInt8} {found other : Datum} (accepted : read kind start = .ok found)
    (longer : read kind (start ++ behind) = .ok other) : Blank behind := by
  obtain ⟨rest, outcome, _⟩ := read_ok.1 accepted
  obtain ⟨left, whole, blank⟩ := read_ok.1 longer
  obtain ⟨_, onwards⟩ := value_continues nestingLimit kind start behind _ outcome
  rw [onwards (Or.inl bounded)] at whole
  obtain ⟨_, rfl⟩ := Prod.mk.inj (Except.ok.inj whole)
  exact fun b among => blank b (List.mem_append_right rest among)

end CatalogSeed.Document
