import CatalogSeed.Proofs.Template.Collapse

/-!
Canonical values against the texts they come from. Only texts without doubled braces are their own
canonical values, and all others get shorter; and where braces stand around placeholders only, the
literals and the names are read back from the canonical value.
-/

namespace CatalogSeed.Template

theorem canonicalChars_cons (piece : List Char × List Char) (pieces : List (List Char × List Char))
    (tail : List Char) :
    canonicalChars ⟨piece :: pieces, tail⟩ = collapse piece.1 ++
      '{' :: ((Placeholder.ofContent piece.2).name.toList ++ '}' :: canonicalChars ⟨pieces, tail⟩) := by
  simp [canonicalChars, token]

/-! The length of a canonical value. -/

theorem length_name_le (content : List Char) :
    (Placeholder.ofContent content).name.toList.length ≤ content.length := by
  have length := congrArg List.length (parted_ofContent content).joined
  cases modifiers : (Placeholder.ofContent content).modifiers with
  | nil =>
      rw [modifiers, List.map_nil, List.intercalate_singleton] at length
      exact Nat.le_of_eq length
  | cons modifier later =>
      rw [modifiers, List.map_cons, List.intercalate_cons_cons] at length
      simp only [List.length_append] at length
      omega

/-- Every placeholder loses two braces at the least. -/
theorem length_canonicalChars_le (template : Template) :
    template.canonicalChars.length + 2 * template.pieces.length ≤ template.source.length := by
  obtain ⟨pieces, tail⟩ := template
  induction pieces with
  | nil => simpa [canonicalChars, source] using length_collapse_le tail
  | cons piece pieces ih =>
      have literal := length_collapse_le piece.1
      have name := length_name_le piece.2
      rw [canonicalChars_cons, source_cons]
      simp only [List.length_append, List.length_cons] at ih ⊢
      omega

theorem canonicalChars_nil (tail : List Char) : canonicalChars ⟨[], tail⟩ = collapse tail := rfl

theorem ofChars_of_single {raw : List Char} (single : ¬['{', '{'] <:+: raw) :
    ofChars raw = ⟨[], raw⟩ := by
  refine ofChars_of_unopened ?_
  rintro before content behind rfl
  exact single ⟨before, content ++ '}' :: '}' :: behind, by simp⟩

theorem length_canonicalChars_lt {raw : List Char}
    (doubled : ['{', '{'] <:+: raw ∨ ['}', '}'] <:+: raw) :
    (ofChars raw).canonicalChars.length < raw.length := by
  have bound := length_canonicalChars_le (ofChars raw)
  rw [source_ofChars] at bound
  cases found : ofChars raw with
  | mk pieces tail =>
      rw [found] at bound
      cases pieces with
      | nil =>
          have plain : tail = raw := by rw [← source_ofChars raw, found]; rfl
          rw [canonicalChars_nil, plain]
          exact length_collapse_lt doubled
      | cons piece pieces =>
          simp only [List.length_cons] at bound
          omega

/-- A text is its own canonical value exactly if no brace in it is doubled, and then declares
nothing; with a doubled brace anywhere the canonical value is shorter. -/
theorem canonical_eq_self_iff (raw : String) (index : ConfigIndex) :
    ((parse raw).canonical = raw ↔
      ¬['{', '{'] <:+: raw.toList ∧ ¬['}', '}'] <:+: raw.toList) ∧
    ((parse raw).canonical = raw → (parse raw).vars index = .empty) ∧
    (['{', '{'] <:+: raw.toList ∨ ['}', '}'] <:+: raw.toList →
      (parse raw).canonical.length < raw.length) := by
  have shorter (doubled : ['{', '{'] <:+: raw.toList ∨ ['}', '}'] <:+: raw.toList) :
      (parse raw).canonical.length < raw.length := by
    rw [canonical, String.length_ofList, ← String.length_toList]
    exact length_canonicalChars_lt doubled
  have single (same : (parse raw).canonical = raw) :
      ¬['{', '{'] <:+: raw.toList ∧ ¬['}', '}'] <:+: raw.toList := by
    rw [← not_or]
    intro doubled
    have less := shorter doubled
    rw [same] at less
    exact Nat.lt_irrefl _ less
  refine ⟨⟨single, ?_⟩, fun same => ?_, shorter⟩
  · rintro ⟨opening, closing⟩
    refine String.toList_injective ?_
    rw [canonical, String.toList_ofList, parse, ofChars_of_single opening, canonicalChars_nil,
      collapse_of_single opening closing]
  · rw [parse, ofChars_of_single (single same).1]
    rfl

/-- A name in single braces, one in three, and a placeholder behind a name in single braces. -/
theorem canonical_eq_self_braces :
    ((parse "a{b}c").canonical = "a{b}c" ∧ (parse "a{b}c").vars .empty = .empty) ∧
      ((parse "{{{a}}}").canonical = "{{a}}" ∧
        (parse "{{{a}}}").canonical.length < "{{{a}}}".length) ∧
      (parse "{b}{{a|d}}").canonical = "{b}{a}" ∧
        (parse "{b}{{a|d}}").canonical.length < "{b}{{a|d}}".length := by
  obtain ⟨self, nothing, _⟩ := canonical_eq_self_iff "a{b}c" .empty
  obtain ⟨_, _, nested⟩ := canonical_eq_self_iff "{{{a}}}" .empty
  obtain ⟨_, _, beside⟩ := canonical_eq_self_iff "{b}{{a|d}}" .empty
  have same := self.2 (by decide)
  refine ⟨⟨same, nothing same⟩, ⟨by decide +kernel, nested (Or.inl ?_)⟩, by decide +kernel,
    beside (Or.inl ?_)⟩
  · exact ⟨[], ['{', 'a', '}', '}', '}'], rfl⟩
  · exact ⟨['{', 'b', '}'], ['a', '|', 'd', '}', '}'], rfl⟩

/-! Reading the names in single braces. -/

/-- Parts a text at its first mark. -/
def partAt (mark : Char) : List Char → Option (List Char × List Char)
  | [] => none
  | first :: rest =>
      if first = mark then some ([], rest)
      else (partAt mark rest).map fun (before, behind) => (first :: before, behind)

theorem eq_of_partAt {mark : Char} {text before behind : List Char}
    (found : partAt mark text = some (before, behind)) : text = before ++ mark :: behind := by
  induction text generalizing before with
  | nil => contradiction
  | cons first rest ih =>
      rw [partAt] at found
      split at found
      next here =>
        simp only [Option.some.injEq, Prod.mk.injEq] at found
        rw [← found.1, ← found.2, here, List.nil_append]
      next =>
        simp only [Option.map_eq_some_iff, Prod.mk.injEq] at found
        obtain ⟨⟨inner, _⟩, later, rfl, rfl⟩ := found
        rw [ih later, List.cons_append]

theorem partAt_append {mark : Char} {before : List Char} (clear : mark ∉ before)
    (behind : List Char) : partAt mark (before ++ mark :: behind) = some (before, behind) := by
  induction before with
  | nil => rw [List.nil_append, partAt, if_pos rfl]
  | cons first before ih =>
      rw [List.mem_cons, not_or] at clear
      rw [List.cons_append, partAt, if_neg (Ne.symm clear.1), ih clear.2]
      rfl

theorem partAt_eq_none {mark : Char} {text : List Char} (clear : mark ∉ text) :
    partAt mark text = none := by
  induction text with
  | nil => rfl
  | cons first rest ih =>
      rw [List.mem_cons, not_or] at clear
      rw [partAt, if_neg (Ne.symm clear.1), ih clear.2]
      rfl

/-- The next name in single braces, between the literal before it and what stands behind it. A
literal goes on to the next opening brace and a name to the next closing one. -/
def nextName (value : List Char) : Option (List Char × List Char × List Char) :=
  (partAt '{' value).bind fun (literal, opened) =>
    (partAt '}' opened).map fun (name, rest) => (literal, name, rest)

theorem eq_of_nextName {value literal name rest : List Char}
    (found : nextName value = some (literal, name, rest)) :
    value = literal ++ '{' :: (name ++ '}' :: rest) := by
  obtain ⟨⟨before, opened⟩, opening, later⟩ := Option.bind_eq_some_iff.1 found
  obtain ⟨⟨inner, behind⟩, closing, same⟩ := Option.map_eq_some_iff.1 later
  simp only [Prod.mk.injEq] at same
  obtain ⟨rfl, rfl, rfl⟩ := same
  rw [eq_of_partAt opening, eq_of_partAt closing]

theorem length_lt_of_nextName {value literal name rest : List Char}
    (found : nextName value = some (literal, name, rest)) : rest.length < value.length := by
  rw [eq_of_nextName found]
  simp only [List.length_append, List.length_cons]
  omega

theorem nextName_append {literal name : List Char} (opening : '{' ∉ literal) (closing : '}' ∉ name)
    (rest : List Char) :
    nextName (literal ++ '{' :: (name ++ '}' :: rest)) = some (literal, name, rest) := by
  simp only [nextName, partAt_append opening, Option.bind_some, partAt_append closing,
    Option.map_some]

theorem nextName_eq_none {value : List Char} (clear : '{' ∉ value) : nextName value = none := by
  rw [nextName, partAt_eq_none clear]
  rfl

/-- All names in single braces with the literals around them, taken from left to right. -/
def readNames (value : List Char) : Template :=
  match found : nextName value with
  | none => ⟨[], value⟩
  | some (literal, name, rest) =>
      have := length_lt_of_nextName found
      let later := readNames rest
      ⟨(literal, name) :: later.pieces, later.tail⟩
termination_by value.length

theorem readNames_of_some {value literal name rest : List Char}
    (next : nextName value = some (literal, name, rest)) :
    readNames value = ⟨(literal, name) :: (readNames rest).pieces, (readNames rest).tail⟩ := by
  rw [readNames]
  split
  next none =>
    rw [next] at none
    contradiction
  next literal' name' rest' found =>
    rw [next] at found
    simp only [Option.some.injEq, Prod.mk.injEq] at found
    obtain ⟨rfl, rfl, rfl⟩ := found
    rfl

theorem readNames_of_none {value : List Char} (nothing : nextName value = none) :
    readNames value = ⟨[], value⟩ := by
  rw [readNames]
  split
  next => rfl
  next found =>
    rw [nothing] at found
    contradiction

/-- All text outside the placeholders, in the order in which it stands. -/
def literals (template : Template) : List (List Char) :=
  template.pieces.map Prod.fst ++ [template.tail]

/-- Braces stand around placeholders only: not in the text outside, nor in the names. -/
structure Braceless (template : Template) : Prop where
  literals : ∀ literal ∈ template.literals, '{' ∉ literal ∧ '}' ∉ literal
  names : ∀ name ∈ template.names, '{' ∉ name.toList ∧ '}' ∉ name.toList

instance (template : Template) : Decidable template.Braceless :=
  decidable_of_iff ((∀ literal ∈ template.literals, '{' ∉ literal ∧ '}' ∉ literal) ∧
    ∀ name ∈ template.names, '{' ∉ name.toList ∧ '}' ∉ name.toList)
    ⟨fun both => ⟨both.1, both.2⟩, fun braceless => ⟨braceless.literals, braceless.names⟩⟩

theorem readNames_canonicalChars {template : Template} (braceless : template.Braceless) :
    readNames template.canonicalChars =
      ⟨template.pieces.map fun piece => (piece.1, (Placeholder.ofContent piece.2).name.toList),
        template.tail⟩ := by
  obtain ⟨pieces, tail⟩ := template
  induction pieces with
  | nil =>
      have ⟨opening, closing⟩ := braceless.literals tail List.mem_cons_self
      rw [canonicalChars_nil, collapse_of_braceless opening closing,
        readNames_of_none (nextName_eq_none opening)]
      rfl
  | cons piece pieces ih =>
      have literal := braceless.literals piece.1 List.mem_cons_self
      have name := braceless.names _ List.mem_cons_self
      have later : Braceless ⟨pieces, tail⟩ :=
        ⟨fun literal found => braceless.literals literal (List.mem_cons_of_mem _ found),
          fun name found => braceless.names name (List.mem_cons_of_mem _ found)⟩
      rw [canonicalChars_cons, collapse_of_braceless literal.1 literal.2,
        readNames_of_some (nextName_append literal.1 name.2 _), ih later]
      rfl

/-- The canonical value is told by the literals and the names. -/
theorem canonicalChars_eq (template : Template) :
    template.canonicalChars =
      ((template.pieces.map Prod.fst).zip template.names).flatMap (fun (literal, name) =>
        collapse literal ++ '{' :: (name.toList ++ ['}'])) ++ collapse template.tail := by
  rw [names, placeholders, List.map_map, List.zip_map', List.flatMap_map]
  rfl

theorem canonicalChars_congr {template other : Template}
    (literals : template.literals = other.literals) (names : template.names = other.names) :
    template.canonicalChars = other.canonicalChars := by
  obtain ⟨before, last⟩ := List.append_inj' literals rfl
  rw [canonicalChars_eq, canonicalChars_eq, before, names, (List.cons.inj last).1]

/-- What stands in the braces, as it stands there. -/
def contents (template : Template) : List String :=
  template.pieces.map fun piece => String.ofList piece.2

theorem literals_readNames {template : Template} (braceless : template.Braceless) :
    (readNames template.canonicalChars).literals = template.literals := by
  rw [readNames_canonicalChars braceless, literals, List.map_map]
  rfl

theorem contents_readNames {template : Template} (braceless : template.Braceless) :
    (readNames template.canonicalChars).contents = template.names := by
  rw [readNames_canonicalChars braceless, contents, names, placeholders, List.map_map, List.map_map]
  exact List.map_congr_left fun piece _ => String.ofList_toList

/-- Where braces stand around placeholders only, the literals and the names are read back from the
canonical value: its tokens are the variables that are declared, and it is shared by those texts
only that have the same literals and the same names. -/
theorem readNames_canonical {raw : String} (braceless : (parse raw).Braceless) :
    (readNames (parse raw).canonical.toList).literals = (parse raw).literals ∧
    (readNames (parse raw).canonical.toList).contents =
      (parse raw).placeholders.map Placeholder.name ∧
    (∀ index name, name ∈ ((parse raw).vars index).keys ↔
      name ∈ (readNames (parse raw).canonical.toList).contents) ∧
    ∀ other : String, (parse other).Braceless →
      ((parse raw).canonical = (parse other).canonical ↔
        (parse raw).literals = (parse other).literals ∧
        (parse raw).placeholders.map Placeholder.name =
          (parse other).placeholders.map Placeholder.name) := by
  have chars (text : String) : (parse text).canonical.toList = (parse text).canonicalChars :=
    String.toList_ofList
  rw [chars]
  refine ⟨literals_readNames braceless, contents_readNames braceless, fun index name => ?_,
    fun other bracelessToo => ⟨fun same => ?_, fun same => ?_⟩⟩
  · rw [mem_keys_vars, contents_readNames braceless]
  · have sameChars : (parse raw).canonicalChars = (parse other).canonicalChars := by
      rw [← chars, ← chars, same]
    constructor
    · rw [← literals_readNames braceless, sameChars, literals_readNames bracelessToo]
    · exact (contents_readNames braceless).symm.trans
        (sameChars ▸ contents_readNames bracelessToo)
  · exact congrArg String.ofList (canonicalChars_congr same.1 same.2)

/-- Two texts with the same names in other placeholders, one of them empty. -/
theorem readNames_canonical_modified :
    ((parse "d={{a|b}}{{}}!").Braceless ∧ (parse "d={{a}}{{|c}}!").Braceless) ∧
      (readNames (parse "d={{a|b}}{{}}!").canonical.toList).literals = [['d', '='], [], ['!']] ∧
      (readNames (parse "d={{a|b}}{{}}!").canonical.toList).contents = ["a", ""] ∧
      (parse "d={{a|b}}{{}}!").canonical = (parse "d={{a}}{{|c}}!").canonical := by
  have first : parse "d={{a|b}}{{}}!" = ⟨[(['d', '='], ['a', '|', 'b']), ([], [])], ['!']⟩ := by
    cbv
  have second : parse "d={{a}}{{|c}}!" = ⟨[(['d', '='], ['a']), ([], ['|', 'c'])], ['!']⟩ := by
    cbv
  have braceless : (parse "d={{a|b}}{{}}!").Braceless := by rw [first]; decide
  have bracelessToo : (parse "d={{a}}{{|c}}!").Braceless := by rw [second]; decide
  obtain ⟨literals, contents, _, shared⟩ := readNames_canonical braceless
  refine ⟨⟨braceless, bracelessToo⟩, ?_, ?_, (shared _ bracelessToo).2 ?_⟩
  · rw [literals, first]
    decide
  · rw [contents, first]
    decide
  · rw [first, second]
    decide

end CatalogSeed.Template
