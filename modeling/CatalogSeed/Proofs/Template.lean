import CatalogSeed.Proofs.KeyMap
import CatalogSeed.Template

/-!
Templates against a grammar of texts. A text is written in exactly one way as literals and
placeholders in turn with a tail behind them, and that way is the one the scanner finds; the
canonical value and the variables follow from it.
-/

namespace CatalogSeed.Template

/-! The grammar: literals, contents and the tail, each with what may not stand in it. -/

/-- No doubled mark stands in the text, nor would one with a mark behind the text. -/
structure Clear (mark : Char) (text : List Char) : Prop where
  single : ¬[mark, mark] <:+: text
  closed : text.getLast? ≠ some mark

/-- Nowhere in the text does a doubled closing brace follow a doubled opening one. -/
def Unopened (text : List Char) : Prop :=
  ∀ before content behind, text ≠ before ++ '{' :: '{' :: (content ++ '}' :: '}' :: behind)

structure WellCut (template : Template) : Prop where
  pieces : ∀ piece ∈ template.pieces, Clear '{' piece.1 ∧ Clear '}' piece.2
  tail : Unopened template.tail

/-- The text that a template was cut from. -/
def source (template : Template) : List Char :=
  template.pieces.flatMap (fun (literal, content) =>
    literal ++ '{' :: '{' :: (content ++ ['}', '}'])) ++ template.tail

theorem source_cons (piece : List Char × List Char) (pieces : List (List Char × List Char))
    (tail : List Char) :
    source ⟨piece :: pieces, tail⟩ =
      piece.1 ++ '{' :: '{' :: (piece.2 ++ '}' :: '}' :: source ⟨pieces, tail⟩) := by
  simp [source]

/-! The cut at the first doubled mark. -/

theorem doubled_infix_cons {mark first second : Char} {rest : List Char}
    (single : ¬(first = mark ∧ second = mark)) :
    [mark, mark] <:+: first :: second :: rest ↔ [mark, mark] <:+: second :: rest := by
  rw [List.infix_cons_iff, List.cons_prefix_cons, List.cons_prefix_cons]
  constructor
  · rintro (⟨here, next, _⟩ | later)
    · exact absurd ⟨here.symm, next.symm⟩ single
    · exact later
  · exact Or.inr

theorem not_doubled_singleton (mark last : Char) : ¬[mark, mark] <:+: [last] :=
  fun found => by simpa using found.length_le

theorem cut_eq_none_iff {mark : Char} {text : List Char} :
    cut mark text = none ↔ ¬[mark, mark] <:+: text := by
  fun_induction cut mark text with
  | case1 => simp
  | case2 last => simpa using not_doubled_singleton mark last
  | case3 first second rest doubled =>
      obtain ⟨rfl, rfl⟩ := doubled
      simpa using (List.prefix_append [second, second] rest).isInfix
  | case4 first second rest single ih =>
      rw [Option.map_eq_none_iff, ih, doubled_infix_cons single]

theorem Clear.nil (mark : Char) : Clear mark [] := ⟨by simp, by simp⟩

theorem Clear.tail {mark first : Char} {rest : List Char} (clear : Clear mark (first :: rest)) :
    Clear mark rest := by
  refine ⟨fun found => clear.single (List.infix_cons found), ?_⟩
  cases rest with
  | nil => simp
  | cons second rest => simpa using clear.closed

/-- No doubled mark begins in a clear text, whatever stands behind it. -/
theorem Clear.not_doubled {mark first second : Char} {before behind rest : List Char}
    (clear : Clear mark (first :: before)) (text : before ++ behind = second :: rest) :
    ¬(first = mark ∧ second = mark) := by
  rintro ⟨rfl, rfl⟩
  cases before with
  | nil => exact clear.closed rfl
  | cons third before =>
      obtain ⟨rfl, _⟩ := List.cons.inj text
      exact clear.single (List.prefix_append [third, third] before).isInfix

/-- A clear text in front moves the first doubled mark and nothing else. -/
theorem Clear.cut_append {mark : Char} {before : List Char} (clear : Clear mark before)
    (behind : List Char) :
    cut mark (before ++ behind) =
      (cut mark behind).map fun (literal, rest) => (before ++ literal, rest) := by
  induction before with
  | nil => simp
  | cons first before ih =>
      cases text : before ++ behind with
      | nil =>
          obtain ⟨rfl, rfl⟩ := List.append_eq_nil_iff.1 text
          rfl
      | cons second rest =>
          rw [List.cons_append, text, cut, if_neg (clear.not_doubled text), ← text, ih clear.tail,
            Option.map_map]
          rfl

theorem clear_of_cut {mark : Char} {text before behind : List Char}
    (found : cut mark text = some (before, behind)) : Clear mark before := by
  fun_induction cut mark text generalizing before with
  | case1 => contradiction
  | case2 => contradiction
  | case3 =>
      simp only [Option.some.injEq, Prod.mk.injEq] at found
      exact found.1 ▸ Clear.nil mark
  | case4 first second rest single ih =>
      simp only [Option.map_eq_some_iff, Prod.mk.injEq] at found
      obtain ⟨⟨inner, _⟩, later, rfl, rfl⟩ := found
      have text := eq_of_cut later
      have clear := ih later
      cases inner with
      | nil =>
          obtain ⟨rfl, _⟩ := List.cons.inj text
          exact ⟨not_doubled_singleton _ first, by simpa using single⟩
      | cons third inner =>
          obtain ⟨rfl, _⟩ := List.cons.inj text
          exact ⟨fun found => clear.single ((doubled_infix_cons single).1 found),
            by simpa using clear.closed⟩

theorem cut_of_clear {mark : Char} {before behind : List Char} (clear : Clear mark before) :
    cut mark (before ++ mark :: mark :: behind) = some (before, behind) := by
  simp [clear.cut_append, cut]

/-- The first doubled mark is not behind any other. -/
theorem cut_before (mark : Char) (before behind : List Char) :
    ∃ early later, cut mark (before ++ mark :: mark :: behind) = some (early, later) ∧
      behind <:+ later := by
  induction before with
  | nil => exact ⟨[], behind, by simp [cut], List.suffix_refl behind⟩
  | cons first before ih =>
      obtain ⟨early, later, found, further⟩ := ih
      cases text : before ++ mark :: mark :: behind with
      | nil => simp at text
      | cons second rest =>
          rw [text] at found
          rw [List.cons_append, text, cut]
          split
          -- The mark that is found may share a character with the one that was put there.
          · refine ⟨[], rest, rfl, ?_⟩
            cases before with
            | nil => exact (List.cons.inj text).2 ▸ List.suffix_cons mark behind
            | cons third before =>
                rw [← (List.cons.inj text).2]
                exact ⟨before ++ [mark, mark], by simp⟩
          · exact ⟨first :: early, later, by rw [found]; rfl, further⟩

theorem unopened_iff {text : List Char} :
    Unopened text ↔
      ∀ literal opened, cut '{' text = some (literal, opened) → cut '}' opened = none := by
  constructor
  · intro unopened literal opened opening
    rw [Option.eq_none_iff_forall_ne_some]
    rintro ⟨content, rest⟩ closing
    exact unopened literal content rest (by rw [eq_of_cut opening, eq_of_cut closing])
  · rintro unclosed before content behind rfl
    obtain ⟨early, later, opening, further⟩ :=
      cut_before '{' before (content ++ '}' :: '}' :: behind)
    refine cut_eq_none_iff.1 (unclosed early later opening) ?_
    exact List.IsInfix.trans ⟨content, behind, by simp⟩ further.isInfix

/-! The scanner finds the one way to cut a text. -/

theorem ofChars_of_unopened {raw : List Char} (unopened : Unopened raw) :
    ofChars raw = ⟨[], raw⟩ := by
  rw [ofChars]
  split
  next => rfl
  next literal opened opening =>
    split
    next => rfl
    next content rest closing =>
      have none := unopened_iff.1 unopened literal opened opening
      rw [none] at closing
      contradiction

theorem ofChars_of_cut {raw literal opened content rest : List Char}
    (opening : cut '{' raw = some (literal, opened))
    (closing : cut '}' opened = some (content, rest)) :
    ofChars raw = ⟨(literal, content) :: (ofChars rest).pieces, (ofChars rest).tail⟩ := by
  rw [ofChars]
  split
  next none => simp [opening] at none
  next literal' opened' opening' =>
    rw [opening] at opening'
    simp only [Option.some.injEq, Prod.mk.injEq] at opening'
    obtain ⟨rfl, rfl⟩ := opening'
    split
    next none => simp [closing] at none
    next content' rest' closing' =>
      rw [closing] at closing'
      simp only [Option.some.injEq, Prod.mk.injEq] at closing'
      obtain ⟨rfl, rfl⟩ := closing'
      rfl

theorem source_ofChars (raw : List Char) : (ofChars raw).source = raw := by
  fun_induction ofChars raw with
  | case1 raw => simp [source]
  | case2 raw => simp [source]
  | case3 raw literal opened opening content rest closing _ later ih =>
      rw [source_cons, eq_of_cut opening, eq_of_cut closing]
      exact congrArg (fun text => literal ++ '{' :: '{' :: (content ++ '}' :: '}' :: text)) ih

theorem ofChars_wellCut (raw : List Char) : (ofChars raw).WellCut := by
  fun_induction ofChars raw with
  | case1 raw none =>
      refine ⟨by simp, unopened_iff.2 fun literal opened found => ?_⟩
      simp [none] at found
  | case2 raw literal opened opening none =>
      refine ⟨by simp, unopened_iff.2 fun literal' opened' found => ?_⟩
      simp only [opening, Option.some.injEq, Prod.mk.injEq] at found
      exact found.2 ▸ none
  | case3 raw literal opened opening content rest closing _ later ih =>
      refine ⟨fun piece found => ?_, ih.tail⟩
      rcases List.mem_cons.1 found with same | further
      · exact same ▸ ⟨clear_of_cut opening, clear_of_cut closing⟩
      · exact ih.pieces piece further

theorem ofChars_source {template : Template} (wellCut : template.WellCut) :
    ofChars template.source = template := by
  obtain ⟨pieces, tail⟩ := template
  induction pieces with
  | nil => exact ofChars_of_unopened wellCut.tail
  | cons piece pieces ih =>
      obtain ⟨opening, closing⟩ := wellCut.pieces piece List.mem_cons_self
      have later : WellCut ⟨pieces, tail⟩ :=
        ⟨fun other found => wellCut.pieces other (List.mem_cons_of_mem _ found), wellCut.tail⟩
      rw [source_cons, ofChars_of_cut (cut_of_clear opening) (cut_of_clear closing), ih later]

theorem hasPlaceholders_iff (raw : String) :
    hasPlaceholders raw = true ↔ (parse raw).pieces ≠ [] := by
  rw [hasPlaceholders, parse]
  fun_cases ofChars raw.toList with
  | case1 opening => simp [opening]
  | case2 literal opened opening closing => simp [opening, closing]
  | case3 literal opened opening content rest closing => simp [opening, closing]

/-! Placeholders are their contents parted at the bars. -/

/-- The name and the modifiers are what the bars of the content part. -/
structure Parted (content : List Char) (placeholder : Placeholder) : Prop where
  joined : ['|'].intercalate
    (placeholder.name.toList :: placeholder.modifiers.map String.toList) = content
  whole : ∀ segment ∈ placeholder.name.toList :: placeholder.modifiers.map String.toList,
    '|' ∉ segment

theorem not_mem_of_mem_splitOn {mark : Char} {text segment : List Char}
    (found : segment ∈ text.splitOn mark) : mark ∉ segment := by
  induction text generalizing segment with
  | nil =>
      simp only [List.splitOn_nil, List.mem_singleton] at found
      simp [found]
  | cons first rest ih =>
      rw [List.splitOn_cons_eq_if_modifyHead] at found
      split at found
      next =>
        rcases List.mem_cons.1 found with rfl | later
        · simp
        · exact ih later
      next different =>
        obtain ⟨head, tail, split⟩ := List.exists_cons_of_ne_nil (List.splitOn_ne_nil mark rest)
        rw [split, List.modifyHead_cons] at found
        rcases List.mem_cons.1 found with rfl | later
        · have clear := ih (split ▸ List.mem_cons_self)
          simp only [beq_iff_eq] at different
          simp [Ne.symm different, clear]
        · exact ih (split ▸ List.mem_cons_of_mem head later)

theorem parted_ofContent (content : List Char) : Parted content (.ofContent content) := by
  obtain ⟨name, modifiers, split⟩ :=
    List.exists_cons_of_ne_nil (List.splitOn_ne_nil '|' content)
  have segments : (Placeholder.ofContent content).name.toList ::
      (Placeholder.ofContent content).modifiers.map String.toList = content.splitOn '|' := by
    simp [Placeholder.ofContent, split]
  constructor
  · rw [segments, List.intercalate_splitOn]
  · rw [segments]
    exact fun segment => not_mem_of_mem_splitOn

/-! What is declared. -/

/-- The names of the placeholders, in their order and as often as they stand there. -/
def names (template : Template) : List String :=
  template.placeholders.map Placeholder.name

theorem get?_vars (template : Template) (index : ConfigIndex) (name : String) :
    (template.vars index).get? name =
      if name ∈ template.names then some (.plain (index.description? name)) else none := by
  rw [← KeyMap.get?_ofList_map template.names fun name =>
    VariableSchema.plain (index.description? name), names, List.map_map]
  rfl

theorem get?_vars_eq_some {template : Template} {index : ConfigIndex} {name : String}
    {schema : VariableSchema} : (template.vars index).get? name = some schema ↔
      name ∈ template.names ∧ schema = .plain (index.description? name) := by
  rw [get?_vars]
  by_cases named : name ∈ template.names
  · simp [named, eq_comm]
  · simp [named]

theorem mem_keys_vars {template : Template} {index : ConfigIndex} {name : String} :
    name ∈ (template.vars index).keys ↔ name ∈ template.names := by
  simp [KeyMap.mem_keys_iff, get?_vars_eq_some]

theorem isEmpty_vars (template : Template) (index : ConfigIndex) :
    (template.vars index).isEmpty = template.pieces.isEmpty := by
  simp [vars, placeholders, KeyMap.isEmpty_ofList]

theorem token_infix_of_mem {template : Template} {name : String}
    (found : name ∈ template.names) :
    '{' :: (name.toList ++ ['}']) <:+: template.canonical.toList := by
  simp only [names, placeholders, List.map_map, List.mem_map] at found
  obtain ⟨⟨literal, content⟩, member, rfl⟩ := found
  obtain ⟨earlier, later, split⟩ := List.append_of_mem member
  refine ⟨earlier.flatMap (fun (literal, content) =>
    collapse literal ++ token (.ofContent content)) ++ collapse literal,
    later.flatMap (fun (literal, content) =>
      collapse literal ++ token (.ofContent content)) ++ collapse template.tail, ?_⟩
  simp [canonical, canonicalChars, split, token]

/-- Every text has exactly one decomposition after the grammar, and all that is read off a text
is read off that one: whether there are placeholders, what they are, the canonical value, and
the variables with their descriptions. -/
theorem decomposition_unique (raw : String) :
    ∃ template : Template, (template.WellCut ∧ template.source = raw.toList) ∧
      (∀ other : Template, other.WellCut → other.source = raw.toList → other = template) ∧
      (∀ piece ∈ template.pieces, Parted piece.2 (.ofContent piece.2)) ∧
      (parse raw).placeholders = template.pieces.map (fun piece => .ofContent piece.2) ∧
      (hasPlaceholders raw = true ↔ 0 < template.pieces.length) ∧
      (parse raw).canonical.toList =
        template.pieces.flatMap (fun piece => collapse piece.1 ++
          '{' :: ((Placeholder.ofContent piece.2).name.toList ++ ['}'])) ++
        collapse template.tail ∧
      ∀ index : ConfigIndex,
        (((parse raw).vars index).isEmpty = false ↔ 0 < template.pieces.length) ∧
        ∀ name, ((parse raw).vars index).get? name =
          if name ∈ template.pieces.map (fun piece => (Placeholder.ofContent piece.2).name)
          then some (.plain (index.description? name)) else none := by
  refine ⟨parse raw, ⟨ofChars_wellCut _, source_ofChars _⟩, ?_, fun piece _ =>
    parted_ofContent piece.2, rfl, ?_, ?_, fun index => ⟨?_, fun name => ?_⟩⟩
  · intro other wellCut same
    rw [parse, ← same, ofChars_source wellCut]
  · rw [hasPlaceholders_iff, List.length_pos_iff]
  · exact String.toList_ofList
  · rw [isEmpty_vars, List.isEmpty_eq_false_iff, List.length_pos_iff]
  · rw [get?_vars, names, placeholders, List.map_map]
    rfl

end CatalogSeed.Template
