import CatalogSeed.Proofs.Template

/-!
Doubled marks made single. A text without a doubled mark stays as it is and any other one becomes
shorter; its ends stay; and where no two marks meet, a text may be cut before it is collapsed.
-/

namespace CatalogSeed.Template

/-! One mark. -/

theorem halve_of_single {mark : Char} {text : List Char} (single : ¬[mark, mark] <:+: text) :
    halve mark text = text := by
  fun_induction halve mark text with
  | case1 => rfl
  | case2 => rfl
  | case3 first second rest doubled =>
      obtain ⟨rfl, rfl⟩ := doubled
      exact absurd (List.prefix_append [second, second] rest).isInfix single
  | case4 first second rest apart ih =>
      rw [doubled_infix_cons apart] at single
      rw [ih single]

theorem halve_of_not_mem {mark : Char} {text : List Char} (clear : mark ∉ text) :
    halve mark text = text :=
  halve_of_single fun doubled => clear (doubled.subset List.mem_cons_self)

theorem length_halve_le (mark : Char) (text : List Char) :
    (halve mark text).length ≤ text.length := by
  fun_induction halve mark text with
  | case1 => exact Nat.le_refl _
  | case2 => exact Nat.le_refl _
  | case3 first second rest doubled ih =>
      simp only [List.length_cons]
      omega
  | case4 first second rest apart ih => exact Nat.succ_le_succ ih

theorem length_halve_lt {mark : Char} {text : List Char} (doubled : [mark, mark] <:+: text) :
    (halve mark text).length < text.length := by
  fun_induction halve mark text with
  | case1 => simp at doubled
  | case2 last => exact absurd doubled (not_doubled_singleton mark last)
  | case3 first second rest here ih =>
      have rest := length_halve_le mark rest
      simp only [List.length_cons]
      omega
  | case4 first second rest apart ih =>
      rw [doubled_infix_cons apart] at doubled
      exact Nat.succ_lt_succ (ih doubled)

theorem head?_halve (mark : Char) (text : List Char) : (halve mark text).head? = text.head? := by
  fun_cases halve mark text with
  | case1 => rfl
  | case2 => rfl
  | case3 first second rest doubled => rw [doubled.1, List.head?_cons, List.head?_cons]
  | case4 => rfl

theorem getLast?_halve (mark : Char) (text : List Char) :
    (halve mark text).getLast? = text.getLast? := by
  fun_induction halve mark text with
  | case1 => rfl
  | case2 => rfl
  | case3 first second rest doubled ih =>
      simp only [List.getLast?_cons, ih, Option.getD_some, doubled.2]
  | case4 first second rest apart ih => rw [List.getLast?_cons, ih, ← List.getLast?_cons]

/-- A cut changes nothing unless the mark stands on both sides of it. -/
theorem halve_append {mark : Char} {before behind : List Char}
    (parted : before.getLast? = some mark → behind.head? ≠ some mark) :
    halve mark (before ++ behind) = halve mark before ++ halve mark behind := by
  fun_induction halve mark before with
  | case1 => rfl
  | case2 last =>
      cases behind with
      | nil => rfl
      | cons second rest =>
          have apart : ¬(last = mark ∧ second = mark) := by
            rintro ⟨rfl, rfl⟩
            exact parted rfl rfl
          rw [List.singleton_append, halve, if_neg apart, List.singleton_append]
  | case3 first second rest doubled ih =>
      have later : rest.getLast? = some mark → behind.head? ≠ some mark := fun last =>
        parted (by rw [List.getLast?_cons, List.getLast?_cons, last]; rfl)
      rw [List.cons_append, List.cons_append, halve, if_pos doubled, ih later, List.cons_append]
  | case4 first second rest apart ih =>
      have later : (second :: rest).getLast? = some mark → behind.head? ≠ some mark := fun last =>
        parted (by rw [List.getLast?_cons, last]; rfl)
      rw [List.cons_append, List.cons_append, halve, if_neg apart, ← List.cons_append, ih later,
        List.cons_append]

/-! Both braces, one after the other. -/

theorem collapse_of_single {text : List Char} (opening : ¬['{', '{'] <:+: text)
    (closing : ¬['}', '}'] <:+: text) : collapse text = text := by
  rw [collapse, halve_of_single opening, halve_of_single closing]

theorem collapse_of_braceless {text : List Char} (opening : '{' ∉ text) (closing : '}' ∉ text) :
    collapse text = text := by
  rw [collapse, halve_of_not_mem opening, halve_of_not_mem closing]

theorem length_collapse_le (text : List Char) : (collapse text).length ≤ text.length :=
  Nat.le_trans (length_halve_le '}' _) (length_halve_le '{' text)

theorem length_collapse_lt {text : List Char}
    (doubled : ['{', '{'] <:+: text ∨ ['}', '}'] <:+: text) :
    (collapse text).length < text.length := by
  by_cases opening : ['{', '{'] <:+: text
  · exact Nat.lt_of_le_of_lt (length_halve_le '}' _) (length_halve_lt opening)
  · rw [collapse, halve_of_single opening]
    exact length_halve_lt (doubled.resolve_left opening)

theorem collapse_append {before behind : List Char}
    (opening : before.getLast? = some '{' → behind.head? ≠ some '{')
    (closing : before.getLast? = some '}' → behind.head? ≠ some '}') :
    collapse (before ++ behind) = collapse before ++ collapse behind := by
  rw [collapse, halve_append opening]
  refine halve_append fun last => ?_
  rw [getLast?_halve] at last
  rw [head?_halve]
  exact closing last

end CatalogSeed.Template
