import CatalogSeed.Registry.Basic

/-!
Descriptions that are cut. What is short enough stays, and all else is brought to the greatest
length that is allowed, so cutting again changes nothing. Descriptions that are told apart no longer
agree in what is left of them.
-/

namespace CatalogSeed.Server

/-- The beginning of a description, with three dots behind it. -/
def dotted (description : String) : List Char :=
  description.toList.take (longestDescription - 3) ++ ['.', '.', '.']

theorem truncate_of_short {description : String}
    (short : description.length ≤ longestDescription) : truncate description = description :=
  if_pos (by rwa [String.length_toList])

theorem toList_truncate_of_long {description : String}
    (long : longestDescription < description.length) :
    (truncate description).toList = dotted description := by
  have cut : truncate description =
      String.ofList (description.toList.take (longestDescription - 3)) ++ "..." :=
    if_neg (by rw [String.length_toList]; exact Nat.not_le_of_lt long)
  have dots : "...".toList = ['.', '.', '.'] := by decide
  rw [cut, String.toList_append, String.toList_ofList, dots, dotted]

theorem length_dotted {description : String} (long : longestDescription < description.length) :
    (dotted description).length = longestDescription := by
  have room : 3 ≤ longestDescription := by decide
  have enough : longestDescription - 3 ≤ description.toList.length := by
    rw [String.length_toList]
    omega
  rw [dotted, List.length_append, List.length_take_of_le enough]
  exact Nat.sub_add_cancel room

theorem length_truncate_of_long {description : String}
    (long : longestDescription < description.length) :
    (truncate description).length = longestDescription := by
  rw [← String.length_toList, toList_truncate_of_long long, length_dotted long]

theorem truncate_length (description : String) :
    (truncate description).length ≤ longestDescription := by
  rcases Nat.lt_or_ge longestDescription description.length with long | short
  · exact Nat.le_of_eq (length_truncate_of_long long)
  · rwa [truncate_of_short short]

theorem truncate_eq_self_iff {description : String} :
    truncate description = description ↔ description.length ≤ longestDescription :=
  ⟨fun same => same ▸ truncate_length description, truncate_of_short⟩

/-- No description that is too long is what another one is cut to. -/
theorem ne_dotted_of_long {description other : String}
    (long : longestDescription < description.length)
    (longToo : longestDescription < other.length) : other.toList ≠ dotted description := by
  intro same
  have length := congrArg List.length same
  rw [length_dotted long, String.length_toList] at length
  exact Nat.ne_of_gt longToo length

/-- A long description is cut like a long one with the same beginning, and like the text that it
is cut to. -/
theorem truncate_eq_truncate_of_long {description other : String}
    (long : longestDescription < description.length) :
    truncate description = truncate other ↔
      (longestDescription < other.length ∧
        description.toList.take (longestDescription - 3) =
          other.toList.take (longestDescription - 3)) ∨
      other.toList = dotted description := by
  rw [← String.toList_inj, toList_truncate_of_long long]
  rcases Nat.lt_or_ge longestDescription other.length with longToo | shortToo
  · simp only [longToo, true_and, or_iff_left (ne_dotted_of_long long longToo)]
    rw [toList_truncate_of_long longToo, dotted, dotted, List.append_cancel_right_eq]
  · rw [truncate_of_short shortToo, eq_comm]
    simp only [Nat.not_lt_of_le shortToo, false_and, false_or]

/-- A description of at most a hundred characters stays, and only such a one; any other becomes its
first 97 characters and three dots, a hundred in all. Cutting again changes nothing, and it is told
exactly which descriptions become the same. -/
theorem truncate_hundred (description : String) :
    (truncate description).length ≤ 100 ∧
    (truncate description = description ↔ description.length ≤ 100) ∧
    (100 < description.length →
      (truncate description).toList = description.toList.take 97 ++ ['.', '.', '.'] ∧
      (truncate description).length = 100) ∧
    truncate (truncate description) = truncate description ∧
    ∀ other : String, truncate description = truncate other ↔
      description = other ∨
      (100 < description.length ∧ 100 < other.length ∧
        description.toList.take 97 = other.toList.take 97) ∨
      (100 < description.length ∧ other.toList = description.toList.take 97 ++ ['.', '.', '.']) ∨
      (100 < other.length ∧ description.toList = other.toList.take 97 ++ ['.', '.', '.']) := by
  refine ⟨truncate_length description, truncate_eq_self_iff,
    fun long => ⟨toList_truncate_of_long long, length_truncate_of_long long⟩,
    truncate_of_short (truncate_length description), fun other => ⟨fun same => ?_, ?_⟩⟩
  · rcases Nat.lt_or_ge 100 description.length with long | short
    · rcases (truncate_eq_truncate_of_long long).1 same with ⟨longToo, beginning⟩ | cut
      · exact Or.inr (Or.inl ⟨long, longToo, beginning⟩)
      · exact Or.inr (Or.inr (Or.inl ⟨long, cut⟩))
    · rcases Nat.lt_or_ge 100 other.length with longToo | shortToo
      · rcases (truncate_eq_truncate_of_long longToo).1 same.symm with ⟨long, _⟩ | cut
        · exact absurd short (Nat.not_le_of_lt long)
        · exact Or.inr (Or.inr (Or.inr ⟨longToo, cut⟩))
      · rw [truncate_of_short short, truncate_of_short shortToo] at same
        exact Or.inl same
  · rintro (rfl | ⟨long, longToo, beginning⟩ | ⟨long, cut⟩ | ⟨longToo, cut⟩)
    · rfl
    · exact (truncate_eq_truncate_of_long long).2 (Or.inl ⟨longToo, beginning⟩)
    · exact (truncate_eq_truncate_of_long long).2 (Or.inr cut)
    · exact ((truncate_eq_truncate_of_long longToo).2 (Or.inr cut)).symm

end CatalogSeed.Server
