import CatalogSeed.Json.Printer
import CatalogSeed.Proofs.Document.Token

/-!
Texts between quotes as they are printed: what is escaped is read back as it was.
-/

namespace CatalogSeed

namespace Utf8

/-- The bytes of characters that stand one after the other. -/
def bytes (chars : List Char) : List UInt8 :=
  chars.flatMap String.utf8EncodeChar

@[simp] theorem bytes_nil : bytes [] = [] := rfl

@[simp] theorem bytes_append (before behind : List Char) :
    bytes (before ++ behind) = bytes before ++ bytes behind :=
  List.flatMap_append

theorem bytes_cons (c : Char) (chars : List Char) :
    bytes (c :: chars) = String.utf8EncodeChar c ++ bytes chars :=
  List.flatMap_cons

theorem encode_ofList (chars : List Char) : encode (String.ofList chars) = bytes chars := by
  simp [encode, bytes, List.utf8Encode]

theorem bytes_toList (text : String) : bytes text.toList = encode text := by
  rw [← encode_ofList, String.ofList_toList]

theorem ascii_bytes {c : Char} (ascii : c.toNat < 0x80) :
    String.utf8EncodeChar c = [UInt8.ofNat c.toNat] := by
  have small : c.val.toNat ≤ 0x7F := by
    have same : c.toNat = c.val.toNat := rfl
    omega
  exact if_pos small

theorem high_of_mem {c : Char} {b : UInt8} (above : 0x80 ≤ c.toNat)
    (found : b ∈ String.utf8EncodeChar c) : 0x80 ≤ b.toNat := by
  have large : ¬ c.val.toNat ≤ 0x7F := by
    have same : c.toNat = c.val.toNat := rfl
    omega
  simp only [String.utf8EncodeChar, if_neg large] at found
  split at found
  next =>
    simp only [List.mem_cons, List.not_mem_nil, or_false] at found
    rcases found with rfl | rfl
    all_goals
      simp only [UInt8.toNat_ofNat']
      omega
  next =>
    split at found
    next =>
      simp only [List.mem_cons, List.not_mem_nil, or_false] at found
      rcases found with rfl | rfl | rfl
      all_goals
        simp only [UInt8.toNat_ofNat']
        omega
    next =>
      simp only [List.mem_cons, List.not_mem_nil, or_false] at found
      rcases found with rfl | rfl | rfl | rfl
      all_goals
        simp only [UInt8.toNat_ofNat']
        omega

end Utf8

namespace Document

open Utf8

/-- Within a string these bytes are read as that content. -/
def StandsFor (written content : List UInt8) : Prop :=
  ∀ before rest,
    stringBytes .between before (written ++ rest) =
        stringBytes .between (content.reverse ++ before) rest ∧
      skipString .between (written ++ rest) = skipString .between rest

theorem StandsFor.nil : StandsFor [] [] := fun _ _ => ⟨rfl, rfl⟩

theorem StandsFor.append {written content later more : List UInt8}
    (first : StandsFor written content) (second : StandsFor later more) :
    StandsFor (written ++ later) (content ++ more) := by
  intro before rest
  obtain ⟨read, passed⟩ := first before (later ++ rest)
  obtain ⟨onwards, through⟩ := second (content.reverse ++ before) rest
  rw [List.append_assoc, List.reverse_append, List.append_assoc]
  exact ⟨read.trans onwards, passed.trans through⟩

/-- Bytes that are no quotes, backslashes or controls stand for themselves. -/
theorem standsFor_itself {plain : List UInt8}
    (each : ∀ b ∈ plain, b ≠ 0x22 ∧ b ≠ 0x5C ∧ ¬ b < 0x20) : StandsFor plain plain := by
  induction plain with
  | nil => exact .nil
  | cons b plain ih =>
      intro before rest
      obtain ⟨quote, backslash, visible⟩ := each b List.mem_cons_self
      obtain ⟨read, passed⟩ := ih (fun c found => each c (List.mem_cons_of_mem _ found))
        (b :: before) rest
      constructor
      · simp [stringBytes, quote, backslash, visible, read]
      · simp [skipString, quote, backslash, visible, passed]

theorem standsFor_short {letter c : UInt8} (short : shortEscape? letter = some c)
    (different : letter ≠ 0x75) : StandsFor [0x5C, letter] [c] := by
  intro before rest
  simp [stringBytes, skipString, short, different]

theorem standsFor_control {digits : List UInt8} {n : Nat} (four : digits.length = 4)
    (known : hexValue? digits = some n) (low : n < 0x20) :
    StandsFor (0x5C :: 0x75 :: digits) (scalarBytes n) := by
  obtain ⟨a, b, c, d, rfl⟩ : ∃ a b c d, digits = [a, b, c, d] := by
    match digits, four with
    | [a, b, c, d], _ => exact ⟨a, b, c, d, rfl⟩
  intro before rest
  have notLow : ¬ 0xDC00 ≤ n := by omega
  have notHigh : ¬ 0xD800 ≤ n := by omega
  simp [stringBytes, skipString, known, notLow, notHigh]

theorem hexDigits_value : ∀ n < 0x20,
    hexValue? (bytes ('0' :: '0' :: Json.hexDigits n)) = some n ∧
      (bytes ('0' :: '0' :: Json.hexDigits n)).length = 4 := by
  decide

theorem escape_standsFor (c : Char) :
    StandsFor (bytes (Json.escape c)) (String.utf8EncodeChar c) := by
  unfold Json.escape
  iterate 7
    split
    next same => subst same; exact standsFor_short (by decide) (by decide)
  split
  next control =>
    obtain ⟨known, four⟩ := hexDigits_value c.toNat control
    have read := standsFor_control four known control
    rw [scalarBytes, Char.ofNat_toNat] at read
    exact read
  next quote backslash _ _ _ _ _ visible =>
    rw [bytes_cons, bytes_nil, List.append_nil]
    refine standsFor_itself fun b found => ?_
    by_cases ascii : c.toNat < 0x80
    · rw [ascii_bytes ascii] at found
      have value : b.toNat = c.toNat := by
        rw [List.mem_singleton.1 found, UInt8.toNat_ofNat']
        omega
      have distinct (d : Char) (other : c ≠ d) : b.toNat ≠ d.toNat :=
        fun same => other (Char.toNat_inj.1 (value ▸ same))
      refine ⟨?_, ?_, ?_⟩
      · rintro rfl
        exact distinct _ quote rfl
      · rintro rfl
        exact distinct _ backslash rfl
      · rw [UInt8.lt_iff_toNat_lt, value]
        exact visible
    · have high := high_of_mem (by omega) found
      refine ⟨?_, ?_, ?_⟩
      · rintro rfl
        contradiction
      · rintro rfl
        contradiction
      · rw [UInt8.lt_iff_toNat_lt]
        simp
        omega

/-- What is printed between quotes can be passed over, and is read as the text. -/
theorem content_escape (text : String) :
    Content (bytes (text.toList.flatMap Json.escape)) ∧
      text? (bytes (text.toList.flatMap Json.escape)) = some text := by
  have stands : StandsFor (bytes (text.toList.flatMap Json.escape)) (bytes text.toList) := by
    induction text.toList with
    | nil => exact .nil
    | cons c chars ih =>
        rw [List.flatMap_cons, bytes_append, bytes_cons]
        exact (escape_standsFor c).append ih
  obtain ⟨read, passed⟩ := stands [] [0x22]
  constructor
  · rw [Content, passed]
    rfl
  · rw [text?, toOption_string, read]
    simp [stringBytes, bytes_toList, decode_encode]

end Document

end CatalogSeed
