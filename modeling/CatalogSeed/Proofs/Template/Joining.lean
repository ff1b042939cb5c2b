import CatalogSeed.Proofs.Template.Collapse

/-!
Texts one behind the other. Where the first one ends with nothing left open, both are read as they
are read alone: their placeholders, canonical values and variables are put together.
-/

namespace CatalogSeed.Template

/-- What stands behind the text does not change how it is read. -/
structure Settled (text : List Char) : Prop where
  unopened : ¬['{', '{'] <:+: text
  ended : ∀ last, text.getLast? = some last → last ≠ '{' ∧ last ≠ '}'

theorem Settled.clear {text : List Char} (settled : Settled text) : Clear '{' text :=
  ⟨settled.unopened, fun last => (settled.ended '{' last).1 rfl⟩

theorem Settled.collapse_append {text : List Char} (settled : Settled text) (behind : List Char) :
    collapse (text ++ behind) = collapse text ++ collapse behind :=
  Template.collapse_append (fun last => absurd rfl (settled.ended '{' last).1)
    fun last => absurd rfl (settled.ended '}' last).2

/-! A clear text in front of another. -/

theorem Clear.append {mark : Char} {before behind : List Char} (clear : Clear mark before)
    (clearToo : Clear mark behind) : Clear mark (before ++ behind) where
  single := by
    rw [← cut_eq_none_iff, clear.cut_append, cut_eq_none_iff.2 clearToo.single, Option.map_none]
  closed := by
    rw [List.getLast?_append]
    cases last : behind.getLast? with
    | none => exact clear.closed
    | some other => exact fun same => clearToo.closed (last.trans same)

theorem Clear.unopened_append {before behind : List Char} (clear : Clear '{' before)
    (unopened : Unopened behind) : Unopened (before ++ behind) := by
  rw [unopened_iff] at unopened ⊢
  intro literal opened found
  rw [clear.cut_append, Option.map_eq_some_iff] at found
  obtain ⟨⟨inner, rest⟩, opening, same⟩ := found
  exact (Prod.mk.inj same).2 ▸ unopened inner rest opening

/-! One template before another. -/

/-- The tail of the first one comes before all text of the second. -/
def join (first second : Template) : Template :=
  match second.pieces with
  | [] => ⟨first.pieces, first.tail ++ second.tail⟩
  | (literal, content) :: later =>
      ⟨first.pieces ++ (first.tail ++ literal, content) :: later, second.tail⟩

theorem source_join (first second : Template) :
    (first.join second).source = first.source ++ second.source := by
  obtain ⟨pieces, tail⟩ := second
  cases pieces with
  | nil => simp [join, source]
  | cons piece later => simp [join, source]

theorem placeholders_join (first second : Template) :
    (first.join second).placeholders = first.placeholders ++ second.placeholders := by
  obtain ⟨pieces, tail⟩ := second
  cases pieces with
  | nil => simp [join, placeholders]
  | cons piece later => simp [join, placeholders]

theorem names_join (first second : Template) :
    (first.join second).names = first.names ++ second.names := by
  rw [names, placeholders_join, List.map_append]
  rfl

theorem canonicalChars_join {first second : Template} (settled : Settled first.tail) :
    (first.join second).canonicalChars = first.canonicalChars ++ second.canonicalChars := by
  obtain ⟨pieces, tail⟩ := second
  cases pieces with
  | nil => simp [join, canonicalChars, settled.collapse_append]
  | cons piece later => simp [join, canonicalChars, settled.collapse_append]

theorem join_wellCut {first second : Template} (wellCut : first.WellCut)
    (wellCutToo : second.WellCut) (settled : Settled first.tail) :
    (first.join second).WellCut := by
  obtain ⟨pieces, tail⟩ := second
  cases pieces with
  | nil => exact ⟨wellCut.pieces, settled.clear.unopened_append wellCutToo.tail⟩
  | cons piece later =>
      refine ⟨fun other found => ?_, wellCutToo.tail⟩
      have ⟨literal, content⟩ := wellCutToo.pieces piece List.mem_cons_self
      rcases List.mem_append.1 found with earlier | further
      · exact wellCut.pieces other earlier
      · rcases List.mem_cons.1 further with rfl | last
        · exact ⟨settled.clear.append literal, content⟩
        · exact wellCutToo.pieces other (List.mem_cons_of_mem _ last)

/-- The scanner finds nothing new at the seam, as a text has one decomposition only. -/
theorem ofChars_append {before : List Char} (settled : Settled (ofChars before).tail)
    (behind : List Char) :
    ofChars (before ++ behind) = (ofChars before).join (ofChars behind) := by
  have wellCut := join_wellCut (ofChars_wellCut before) (ofChars_wellCut behind) settled
  have joined := ofChars_source wellCut
  rwa [source_join, source_ofChars, source_ofChars] at joined

/-- A text after which nothing is left open is read alone, whatever stands behind it: placeholders
and canonical values follow each other, and the variables of both are declared. -/
theorem parse_append {first : String} (settled : Settled (parse first).tail) (second : String) :
    (parse (first ++ second)).placeholders =
      (parse first).placeholders ++ (parse second).placeholders ∧
    (parse (first ++ second)).canonical = (parse first).canonical ++ (parse second).canonical ∧
    ∀ index name schema, ((parse (first ++ second)).vars index).get? name = some schema ↔
      ((parse first).vars index).get? name = some schema ∨
        ((parse second).vars index).get? name = some schema := by
  have joined : parse (first ++ second) = (parse first).join (parse second) := by
    rw [parse, String.toList_append]
    exact ofChars_append settled second.toList
  rw [joined]
  refine ⟨placeholders_join _ _, ?_, fun index name schema => ?_⟩
  · rw [canonical, canonicalChars_join settled, String.ofList_append]
    rfl
  · rw [get?_vars_eq_some, get?_vars_eq_some, get?_vars_eq_some, names_join, List.mem_append,
      or_and_right]

/-- A text that ends behind a brace of its own, and one that declares its name again. -/
theorem parse_append_again :
    (parse ("{{a}}-{b}c" ++ "{{a|d}}")).placeholders = [⟨"a", []⟩, ⟨"a", ["d"]⟩] ∧
      (parse ("{{a}}-{b}c" ++ "{{a|d}}")).canonical = "{a}-{b}c{a}" := by
  have first : parse "{{a}}-{b}c" = ⟨[([], ['a'])], ['-', '{', 'b', '}', 'c']⟩ := by cbv
  have second : parse "{{a|d}}" = ⟨[([], ['a', '|', 'd'])], []⟩ := by cbv
  have settled : Settled (parse "{{a}}-{b}c").tail := by
    rw [first]
    exact ⟨by decide, by simp⟩
  obtain ⟨placeholders, canonical, _⟩ := parse_append settled "{{a|d}}"
  rw [placeholders, canonical, first, second]
  decide

end CatalogSeed.Template
