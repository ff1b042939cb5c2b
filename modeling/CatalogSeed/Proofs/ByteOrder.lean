import Mathlib.Tactic.SplitIfs
import CatalogSeed.Proofs.Document.Quoted

/-!
Texts are in the order of their bytes: the encoding of a character is below that of every later
character, whatever stands behind the two.
-/

namespace CatalogSeed.Utf8

/-- Numbers of three figures to the base 64 and one above them are compared figure by figure. -/
theorem figures_lt {a b c d a' b' c' d' : Nat} (second : b < 64 ∧ b' < 64)
    (third : c < 64 ∧ c' < 64) (fourth : d < 64 ∧ d' < 64)
    (less : 262144 * a + 4096 * b + 64 * c + d < 262144 * a' + 4096 * b' + 64 * c' + d') :
    a < a' ∨ a = a' ∧ (b < b' ∨ b = b' ∧ (c < c' ∨ c = c' ∧ d < d')) := by
  omega

theorem encodeChar_lt {c d : Char} (less : c < d) (left right : List UInt8) :
    String.utf8EncodeChar c ++ left < String.utf8EncodeChar d ++ right := by
  have below : c.val.toNat < d.val.toNat := less
  have last : d.val.toNat < 0x110000 := by
    rcases d.valid with small | large
    · omega
    · exact large.2
  have byte (n : Nat) (small : n < 256) : (UInt8.ofNat n).toNat = n :=
    UInt8.toNat_ofNat_of_lt small
  simp only [String.utf8EncodeChar]
  generalize c.val.toNat = low at below
  generalize d.val.toNat = high at below last
  -- Only for two characters of four bytes each is this more than the order of the first bytes.
  have figures := @figures_lt (low / 262144 % 8) (low / 4096 % 64) (low / 64 % 64) (low % 64)
    (high / 262144 % 8) (high / 4096 % 64) (high / 64 % 64) (high % 64) (by omega) (by omega)
    (by omega) (by omega)
  split_ifs
  all_goals
    simp (disch := omega) only [List.cons_append, List.cons_lt_cons_iff, UInt8.lt_iff_toNat_lt,
      ← UInt8.toNat_inj, byte]
    omega

theorem bytes_lt {left right : List Char} (less : left < right) : bytes left < bytes right := by
  induction left generalizing right with
  | nil =>
      cases right with
      | nil => exact absurd less (List.lt_irrefl [])
      | cons d right =>
          have some : String.utf8EncodeChar d ≠ [] := String.utf8EncodeChar_ne_nil
          obtain ⟨b, rest, first⟩ := List.exists_cons_of_ne_nil some
          rw [bytes_cons, first]
          exact List.nil_lt_cons _ _
  | cons c left ih =>
      cases right with
      | nil => exact absurd less (List.not_lt_nil _)
      | cons d right =>
          rw [bytes_cons, bytes_cons]
          rcases List.cons_lt_cons_iff.1 less with below | ⟨rfl, later⟩
          · exact encodeChar_lt below _ _
          · exact List.append_left_lt (ih later)

theorem encode_lt {left right : String} (less : left < right) : encode left < encode right := by
  rw [← bytes_toList, ← bytes_toList]
  exact bytes_lt (String.lt_iff.1 less)

end CatalogSeed.Utf8
