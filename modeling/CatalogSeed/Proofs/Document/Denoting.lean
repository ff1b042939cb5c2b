import CatalogSeed.Proofs.Document.Numeric
import CatalogSeed.Proofs.Document.Parts
import CatalogSeed.Proofs.Document.Tidy
import Mathlib.Data.List.Induction

/-!
The value of an open tree: integers keep their digits, strings their text, arrays their order, and
objects the places where their keys stood first, each with what stood last under it.
-/

namespace CatalogSeed.Document

open Utf8 ParseTree

/-! Integers are printed with the digits that they were written with. -/

theorem digit_char {b : UInt8} (digit : isDigit b = true) :
    digitValue b < 10 ∧ b.toNat = digitValue b + 48 ∧
      bytes [Nat.digitChar (digitValue b)] = [b] := by
  simp only [isDigit, Bool.and_eq_true, decide_eq_true_eq, UInt8.le_iff_toNat_le] at digit
  have low : 48 ≤ b.toNat := digit.1
  have high : b.toNat ≤ 57 := digit.2
  have value : digitValue b = b.toNat - 48 := rfl
  have small : digitValue b < 10 := by omega
  have code : (Nat.digitChar (digitValue b)).toNat = b.toNat := by
    rw [Nat.toNat_digitChar_of_lt_ten small]
    omega
  refine ⟨small, by omega, ?_⟩
  rw [bytes_cons, ascii_bytes (by omega), code, UInt8.ofNat_toNat]
  rfl

/-- More digits behind those of a number that is not zero. -/
theorem toDigits_append {figures : List UInt8} (each : ∀ b ∈ figures, isDigit b = true)
    {start : Nat} (positive : 0 < start) :
    bytes (Nat.toDigits 10 start) ++ figures = bytes (Nat.toDigits 10
      ((figures.map digitValue).foldl (fun value digit => 10 * value + digit) start)) := by
  induction figures generalizing start with
  | nil => simp
  | cons b figures ih =>
      obtain ⟨first, later⟩ := List.forall_mem_cons.1 each
      obtain ⟨small, _, char⟩ := digit_char first
      have longer :=
        @Nat.toDigits_append_toDigits 10 start (digitValue b) (by decide) positive small
      have onwards := ih later (show 0 < 10 * start + digitValue b by omega)
      rw [Nat.toDigits_of_lt_base small] at longer
      rw [List.map_cons, List.foldl_cons, ← onwards, ← longer, bytes_append, char]
      simp

/-- Digits without a leading zero are those of the number that they stand for. -/
theorem toDigits_decimal {figures : List UInt8} (each : ∀ b ∈ figures, isDigit b = true)
    (filled : figures ≠ []) (leading : ∀ later, figures = 0x30 :: later → later = []) :
    figures = bytes (Nat.toDigits 10 (decimal (figures.map digitValue))) := by
  cases figures with
  | nil => exact absurd rfl filled
  | cons b figures =>
      obtain ⟨first, later⟩ := List.forall_mem_cons.1 each
      obtain ⟨small, code, char⟩ := digit_char first
      by_cases zero : b = 0x30
      · subst zero
        obtain rfl := leading figures rfl
        decide +kernel
      · have positive : 0 < digitValue b := by
          have different : b.toNat ≠ 48 := fun same => zero (UInt8.toNat_inj.1 same)
          omega
        have digits := toDigits_append later positive
        rw [Nat.toDigits_of_lt_base small, char] at digits
        simpa [decimal] using digits

theorem numeral_leading {atEnd : Cause} {negative : Bool} {written : List UInt8} {found : Numeral}
    {rest : List UInt8} (read : numeral atEnd negative written = .ok (found, rest)) :
    written ≠ [] ∧ ∀ c later, written = 0x30 :: c :: later → isDigit c = false := by
  constructor
  · rintro rfl
    contradiction
  · rintro c later rfl
    by_contra digit
    rw [Bool.not_eq_false] at digit
    simp [numeral, wholeDigits, digit, bind, Except.bind] at read

theorem integer?_parts {significand : Nat} {negative : Bool} {n : Whole}
    (signed : Numeral.integer? significand negative = some n) :
    significand = n.val.natAbs ∧ negative = decide (n.val < 0) := by
  cases negative with
  | true =>
      simp only [Numeral.integer?, if_true] at signed
      split at signed
      next fits =>
        obtain rfl := Option.some.inj signed
        have below : -(significand : Int) < 0 := by omega
        exact ⟨by simp, (decide_eq_true below).symm⟩
      next => contradiction
  | false =>
      simp only [Numeral.integer?, Bool.false_eq_true, if_false] at signed
      split at signed
      next fits =>
        obtain rfl := Option.some.inj signed
        have above : ¬ (significand : Int) < 0 := by omega
        exact ⟨by simp, (decide_eq_false above).symm⟩
      next => contradiction

/-- An integer is written in one way only, as it is printed. -/
theorem whole_written {written : List UInt8} {n : Whole}
    (read : number? written = some (.whole n)) : written = bytes (Number.text (.whole n)) := by
  rw [number?, Option.bind_eq_some_iff] at read
  obtain ⟨found, valid, outcome⟩ := read
  rw [toOption_eq_some, value_whole] at outcome
  obtain ⟨plain, spent, signed⟩ := whole?_eq_some.1 outcome
  obtain ⟨figures, parted, entire⟩ := numeral?_parts valid
  obtain ⟨alone, _, values⟩ := numeral_plain entire
  obtain ⟨filled, leading⟩ := numeral_leading entire
  have each := alone.1 plain
  -- Behind a leading zero there is no digit, and there is nothing but digits.
  have single : ∀ later, figures = 0x30 :: later → later = [] := by
    rintro (_ | ⟨c, later⟩) same
    · rfl
    · have digit := each c (by simp [same])
      rw [leading c later same] at digit
      contradiction
  have digits := toDigits_decimal each filled single
  have value := (absorb_spent (by decide) found.whole).2 spent
  rw [values plain.1 plain.2] at value signed
  rw [value] at signed
  obtain ⟨same, sign⟩ := integer?_parts signed
  rw [parted, digits, sign, Number.text, ← same]
  by_cases below : n.val < 0
  · rw [decide_eq_true below, if_pos rfl, if_pos below]
    rfl
  · rw [decide_eq_false below, if_neg Bool.false_ne_true, if_neg below]
    rfl

/-! Open values. -/

/-- The value of a tree without real numbers. -/
inductive Denotes : ParseTree → Json → Prop
  | null : Denotes .null .null
  | bool (value : Bool) : Denotes (.bool value) (.bool value)
  | whole (n : Whole) : Denotes (.number (bytes (Number.text (.whole n)))) (.number (.whole n))
  | string {written : List UInt8} {text : String} (spelled : text? written = some text) :
      Denotes (.string written) (.string text)
  | array {trees : List ParseTree} {items : List Json} (many : trees.length = items.length)
      (each : ∀ pair ∈ trees.zip items, Denotes pair.1 pair.2) :
      Denotes (.array trees) (.array items)
  | object {members : List (List UInt8 × ParseTree)} {bag : Bag} (textual : Textual members)
      (places : bag.map Prod.fst = ((named members).map Prod.fst).eraseDups)
      (each : ∀ key tree value, (ParseTree.object members).last? key = some tree →
        bag.lookup key = some value → Denotes tree value) :
      Denotes (.object members) (.object bag)

theorem lookup_put (bag : Bag) (key other : String) (value : Json) :
    (bag.put key value).lookup other = if other = key then some value else bag.lookup other := by
  induction bag with
  | nil => rw [Bag.put, KeyMap.lookup_cons_eq]
  | cons pair bag ih =>
      obtain ⟨first, kept⟩ := pair
      rw [Bag.put]
      split
      next same =>
        subst same
        rw [KeyMap.lookup_cons_eq, KeyMap.lookup_cons_eq]
        split
        next => rfl
        next => rfl
      next different =>
        rw [KeyMap.lookup_cons_eq, KeyMap.lookup_cons_eq, ih]
        by_cases same : other = first
        · rw [if_pos same, if_pos same, if_neg (same ▸ different)]
        · rw [if_neg same, if_neg same]

/-- Members that are put into an object one by one keep the place of the first with their key and
the value of the last. -/
theorem fold_put_parts {value : ParseTree → Option Json} {entries : List (String × ParseTree)}
    {bag : Bag}
    (read : entries.foldlM (fun bag entry => putMember value bag entry.1 entry.2) [] = some bag) :
    bag.map Prod.fst = (entries.map Prod.fst).eraseDups ∧
      ∀ key, bag.lookup key = (entries.reverse.lookup key).bind value := by
  -- From the last entry on, for it is the last with its key that counts.
  induction entries using List.reverseRecOn generalizing bag with
  | nil =>
      obtain rfl : [] = bag := Option.some.inj read
      exact ⟨rfl, fun _ => rfl⟩
  | append_singleton entries entry ih =>
      obtain ⟨key, tree⟩ := entry
      rw [List.foldlM_append, Option.bind_eq_bind, Option.bind_eq_some_iff] at read
      obtain ⟨before, first, last⟩ := read
      obtain ⟨places, values⟩ := ih first
      simp only [List.foldlM_cons, List.foldlM_nil, putMember, Option.bind_eq_bind,
        Option.bind_eq_some_iff, Option.map_eq_some_iff, Option.pure_def, Option.some.injEq] at last
      obtain ⟨_, ⟨json, taken, rfl⟩, rfl⟩ := last
      constructor
      · rw [put_keys, places, List.map_append, List.map_singleton, List.eraseDups_append]
        by_cases repeated : key ∈ entries.map Prod.fst
        · simp [repeated, List.removeAll]
        · simp [repeated, List.removeAll, List.eraseDups_cons]
      · intro other
        rw [lookup_put, values, List.reverse_append, List.reverse_singleton,
          List.singleton_append, KeyMap.lookup_cons_eq]
        split
        next => exact taken.symm
        next => rfl

/-- What is read of an open tree is the value it denotes. -/
theorem json?_denotes {tree : ParseTree} {nesting : Nat} {value : Json}
    (read : json? nesting tree = some value) (unreal : value.Unreal) : Denotes tree value := by
  induction tree generalizing nesting value with
  | null =>
      obtain rfl : Json.null = value := by simpa [json?] using read
      exact .null
  | bool flag =>
      obtain rfl : Json.bool flag = value := by simpa [json?] using read
      exact .bool flag
  | number written =>
      rw [json?, Option.map_eq_some_iff] at read
      obtain ⟨number, outcome, rfl⟩ := read
      cases number with
      | whole n =>
          rw [whole_written outcome]
          exact .whole n
      | real x => exact absurd (Json.Within.whole _) (unreal x)
  | string written =>
      rw [json?, Option.map_eq_some_iff] at read
      obtain ⟨text, outcome, rfl⟩ := read
      exact .string outcome
  | array trees ih =>
      cases nesting with
      | zero => simp [json?] at read
      | succ nesting =>
          rw [json?, Option.map_eq_some_iff] at read
          obtain ⟨items, outcome, rfl⟩ := read
          have along := mapM_forall₂ outcome
          refine .array along.length_eq fun pair among => ?_
          obtain ⟨inTrees, inItems⟩ := List.of_mem_zip among
          have taken := List.forall₂_zip along among
          exact ih pair.1 inTrees taken (Json.unreal_array.1 unreal pair.2 inItems)
  | object members ih =>
      cases nesting with
      | zero => simp [json?] at read
      | succ nesting =>
          rw [json?, Option.map_eq_some_iff] at read
          obtain ⟨bag, outcome, rfl⟩ := read
          have textual := textual_of_foldMembers outcome
          rw [foldMembers_named _ _ textual] at outcome
          obtain ⟨places, values⟩ := fold_put_parts outcome
          refine .object textual places fun key tree value last held => ?_
          have reading := values key
          have later : (named members).reverse.lookup key = some tree := last
          rw [held, later, Option.bind_some] at reading
          have inside := List.mem_reverse.1 (KeyMap.mem_of_lookup later)
          obtain ⟨member, among, _, rfl⟩ := mem_named.1 inside
          exact ih member among reading.symm
            (Json.unreal_object.1 unreal (key, value) (KeyMap.mem_of_lookup held))

/-! The parts of a record, as values. -/

/-- A part has the value that it denotes, and what is missing has the one for that. -/
inductive Shown (missing : Json) : Option ParseTree → Json → Prop
  | missing : Shown missing none missing
  | given {tree : ParseTree} {value : Json} (denotes : Denotes tree value) :
      Shown missing (some tree) value

variable {nesting : Nat} {tree : ParseTree} {part : Option ParseTree} {found : Option Datum}

theorem ReadPart.shown {kind : Kind} (read : ReadPart nesting kind part found)
    {change : Option Datum → Json} (each : ∀ tree datum, datum? nesting kind tree = some datum →
      found = some datum → Denotes tree (change (some datum))) :
    Shown (change none) part (change found) := by
  cases read with
  | none => exact .missing
  | some outcome => exact .given (each _ _ outcome rfl)

theorem text_denotes {datum : Datum} (read : datum? nesting .text tree = some datum) :
    Denotes tree (.string (Datum.asText (some datum))) := by
  rw [datum?_scalar (Or.inl rfl)] at read
  cases tree with
  | string written =>
      obtain ⟨text, spelled, rfl⟩ := Option.map_eq_some_iff.1 read
      exact .string spelled
  | _ => contradiction

theorem text_shown (read : ReadPart nesting .text part found) :
    Shown (.string "") part (.string (Datum.asText found)) :=
  @ReadPart.shown _ _ _ _ read (fun found => .string (Datum.asText found))
    fun _ _ outcome _ => text_denotes outcome

theorem ofInt64_of_toInt64? {n : Whole} {value : Int64} (small : n.toInt64? = some value) :
    Whole.ofInt64 value = n := by
  obtain ⟨n, lower, upper⟩ := n
  rw [Whole.toInt64?] at small
  split at small
  next below =>
    obtain rfl := Option.some.inj small
    have kept : (Int64.ofInt n).toInt = n := Int64.toInt_ofInt_of_le lower below
    simp only [Whole.ofInt64, kept]
  next => contradiction

theorem integer_shown (read : ReadPart nesting .integer part found) :
    Shown (.int 0) part (.int (Datum.asInteger found)) := by
  refine @ReadPart.shown _ _ _ _ read (fun found => .int (Datum.asInteger found)) ?_
  intro tree datum outcome _
  rw [datum?_scalar (Or.inr (Or.inl rfl))] at outcome
  cases tree with
  | number written =>
      obtain ⟨value, taken, rfl⟩ := Option.map_eq_some_iff.1 outcome
      obtain ⟨number, outcome, small⟩ := Option.bind_eq_some_iff.1 taken
      cases number with
      | whole n =>
          have same : Json.int value = .number (.whole n) :=
            congrArg (fun n => Json.number (.whole n)) (ofInt64_of_toInt64? small)
          rw [whole_written outcome]
          exact same ▸ .whole n
      | real x => contradiction
  | _ => contradiction

theorem texts_shown (read : ReadPart nesting (.list .text) part found) :
    Shown (.array []) part (.strings (Datum.asTexts found)) := by
  refine @ReadPart.shown _ _ _ _ read (fun found => .strings (Datum.asTexts found)) ?_
  intro tree datum outcome _
  obtain ⟨inner, trees, values, _, rfl, rfl, along⟩ := list_parts outcome
  have texts : Datum.asTexts (some (.list values)) =
      values.map fun item => Datum.asText (some item) := rfl
  rw [Json.strings, texts, List.map_map]
  refine .array (by simpa using along.length_eq) fun pair among => ?_
  rw [List.zip_map_right, List.mem_map] at among
  obtain ⟨taken, inside, rfl⟩ := among
  exact text_denotes (List.forall₂_zip along inside)

theorem bag_shown (read : ReadPart nesting .bag part found)
    (unreal : (Json.object (Datum.asBag found)).Unreal) :
    Shown (.object []) part (.object (Datum.asBag found)) := by
  refine @ReadPart.shown _ _ _ _ read (fun found => .object (Datum.asBag found)) ?_
  rintro tree datum outcome rfl
  obtain ⟨inner, rfl, inside⟩ := bracketed?_of_datum? outcome (by simp) fun _ => rfl
  cases tree with
  | object members =>
      obtain ⟨bag, gathered, rfl⟩ := Option.map_eq_some_iff.1 inside
      have opened : json? (inner + 1) (.object members) = some (.object bag) :=
        Option.map_eq_some_iff.2 ⟨bag, gathered, rfl⟩
      exact json?_denotes opened unreal
  | _ => contradiction

end CatalogSeed.Document
