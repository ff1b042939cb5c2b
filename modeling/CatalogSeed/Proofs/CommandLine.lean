import Mathlib.Data.List.Forall2
import Mathlib.Data.List.Infix
import Mathlib.Data.List.TakeDrop
import CatalogSeed.Descriptor
import CatalogSeed.Proofs.Template.Canonical

/-!
Command lines. A token is text, a flag, or a flag with a value, and becomes an argument accordingly.
Where no brace is doubled, the tokens are told by their arguments, but for a flag whose equals sign
has nothing behind it.
-/

namespace CatalogSeed

namespace Argument

/-- A flag begins with two hyphens, and has no equals sign. -/
structure IsFlag (text : String) : Prop where
  dashed : ['-', '-'] <+: text.toList
  bare : '=' ∉ text.toList

instance (text : String) : Decidable (IsFlag text) :=
  decidable_of_iff (['-', '-'] <+: text.toList ∧ '=' ∉ text.toList)
    ⟨fun both => ⟨both.1, both.2⟩, fun flag => ⟨flag.dashed, flag.bare⟩⟩

theorem IsFlag.dashed_append {flag : String} (left : IsFlag flag) (value : String) :
    ['-', '-'] <+: (flag ++ "=" ++ value).toList := by
  rw [String.toList_append, String.toList_append, List.append_assoc]
  exact left.dashed.trans (List.prefix_append _ _)

/-- What a token of a command line is: text to be taken as it is, a flag alone, or a flag with a
value behind the first equals sign. -/
inductive Form : String → Prop
  | text {token : String} (undashed : ¬['-', '-'] <+: token.toList) : Form token
  | flag {token : String} (flag : IsFlag token) : Form token
  | assignment {flag : String} (left : IsFlag flag) (value : String) : Form (flag ++ "=" ++ value)

theorem Form.of (token : String) : Form token := by
  by_cases dashed : ['-', '-'] <+: token.toList
  · by_cases assigned : '=' ∈ token.toList
    · obtain ⟨flag, value, parts, bare⟩ := List.eq_append_cons_of_mem assigned
      -- No hyphen is an equals sign, so both stand in what is before it.
      have flagged : ['-', '-'] <+: flag := by
        rw [parts] at dashed
        match flag with
        | [] | [_] => simp at dashed
        | first :: second :: rest => simpa using dashed
      have same : token = String.ofList flag ++ "=" ++ String.ofList value :=
        String.toList_injective (by simp [parts])
      rw [same]
      exact .assignment ⟨by simpa using flagged, by simpa using bare⟩ _
    · exact .flag ⟨dashed, assigned⟩
  · exact .text dashed

theorem span_append {flag : List Char} (bare : '=' ∉ flag) (behind : List Char) :
    (flag ++ behind).span (· ≠ '=') =
      (flag ++ behind.takeWhile (· ≠ '='), behind.dropWhile (· ≠ '=')) := by
  have passed : ∀ c ∈ flag, decide (c ≠ '=') = true := fun c among =>
    decide_eq_true fun same => bare (same ▸ among)
  rw [List.span_eq_takeWhile_dropWhile, List.takeWhile_append_of_pos passed,
    List.dropWhile_append_of_pos passed]

theorem partAtEquals_append {flag : List Char} (bare : '=' ∉ flag) (value : List Char) :
    partAtEquals (flag ++ '=' :: value) = (flag, some value) := by
  rw [partAtEquals, span_append bare]
  simp

theorem partAtEquals_of_bare {flag : List Char} (bare : '=' ∉ flag) :
    partAtEquals flag = (flag, none) := by
  have whole := span_append bare []
  rw [List.append_nil] at whole
  rw [partAtEquals, whole]
  simp

section

variable (index : ConfigIndex)

theorem ofToken_of_text {token : String} (undashed : ¬['-', '-'] <+: token.toList) :
    ofToken index token = .positional token .empty := by
  unfold ofToken
  split
  next rest dashed => exact absurd (dashed ▸ List.prefix_append ['-', '-'] rest) undashed
  next => rfl

theorem ofToken_of_dashed {token : String} (dashed : ['-', '-'] <+: token.toList) :
    ofToken index token = match partAtEquals token.toList with
      | (_, none) => .named token "" .empty
      | (flag, some value) => templated index (String.ofList flag) (String.ofList value) := by
  obtain ⟨rest, same⟩ := dashed
  unfold ofToken
  split
  next => rfl
  next other => exact absurd same.symm (other rest)

theorem ofToken_of_flag {token : String} (flag : IsFlag token) :
    ofToken index token = .named token "" .empty := by
  rw [ofToken_of_dashed index flag.dashed, partAtEquals_of_bare flag.bare]

theorem ofToken_of_assignment {flag : String} (left : IsFlag flag) (value : String) :
    ofToken index (flag ++ "=" ++ value) = templated index flag value := by
  have parts : (flag ++ "=" ++ value).toList = flag.toList ++ '=' :: value.toList := by simp
  rw [ofToken_of_dashed index (left.dashed_append value), parts, partAtEquals_append left.bare]
  simp only [String.ofList_toList]

end

end Argument

namespace Template

/-- No brace stands doubled in the text. -/
structure Single (text : String) : Prop where
  opening : ¬['{', '{'] <:+: text.toList
  closing : ¬['}', '}'] <:+: text.toList

instance (text : String) : Decidable (Single text) :=
  decidable_of_iff (¬['{', '{'] <:+: text.toList ∧ ¬['}', '}'] <:+: text.toList)
    ⟨fun both => ⟨both.1, both.2⟩, fun single => ⟨single.opening, single.closing⟩⟩

theorem Single.of_append {before behind : String} (single : Single (before ++ behind)) :
    Single behind := by
  have later {mark : Char} (doubled : [mark, mark] <:+: behind.toList) :
      [mark, mark] <:+: (before ++ behind).toList := by
    rw [String.toList_append]
    exact doubled.trans (List.suffix_append _ _).isInfix
  exact ⟨fun doubled => single.opening (later doubled), fun doubled => single.closing (later doubled)⟩

theorem Single.parse {text : String} (single : Single text) : parse text = ⟨[], text.toList⟩ :=
  ofChars_of_single single.opening

theorem Single.canonical {text : String} (single : Single text) :
    (Template.parse text).canonical = text := by
  rw [Template.canonical, single.parse, canonicalChars_nil,
    collapse_of_single single.opening single.closing, String.ofList_toList]

theorem Single.vars {text : String} (single : Single text) (index : ConfigIndex) :
    (Template.parse text).vars index = .empty := by
  rw [single.parse]
  rfl

end Template

namespace Argument

theorem templated_of_single (index : ConfigIndex) (flag : String) {value : String}
    (single : Template.Single value) : templated index flag value = .named flag value .empty := by
  rw [templated, single.canonical, single.vars]

/-- The tokens that an argument may have been made of where nothing was collapsed: without a value
it is not told whether there was an equals sign. -/
def MadeOf (argument : Argument) (token : String) : Prop :=
  match argument.type with
  | .positional => token = argument.value
  | .named => IsFlag argument.name ∧
      (token = argument.name ++ "=" ++ argument.value ∨ argument.value = "" ∧ token = argument.name)

theorem ofToken_madeOf (index : ConfigIndex) {token : String} (single : Template.Single token) :
    (ofToken index token).MadeOf token := by
  cases Form.of token with
  | text undashed => exact ofToken_of_text index undashed ▸ rfl
  | flag flag => exact ofToken_of_flag index flag ▸ ⟨flag, Or.inr ⟨rfl, rfl⟩⟩
  | assignment left value =>
      rw [ofToken_of_assignment index left, templated_of_single index _ single.of_append]
      exact ⟨left, Or.inl rfl⟩

/-- One token, or a flag and that flag with an equals sign and nothing behind it. -/
def SameToken (left right : String) : Prop :=
  left = right ∨ IsFlag left ∧ right = left ++ "=" ∨ IsFlag right ∧ left = right ++ "="

instance (left right : String) : Decidable (SameToken left right) :=
  inferInstanceAs (Decidable (_ ∨ _ ∨ _))

theorem MadeOf.same {argument : Argument} {left right : String} (made : argument.MadeOf left)
    (madeToo : argument.MadeOf right) : SameToken left right := by
  unfold MadeOf at made madeToo
  cases type : argument.type with
  | positional =>
      rw [type] at made madeToo
      exact Or.inl (made.trans madeToo.symm)
  | named =>
      rw [type] at made madeToo
      -- Only an empty value can have been made in two ways.
      obtain ⟨flag, assigned | ⟨empty, bare⟩⟩ := made
      · obtain ⟨_, assignedToo | ⟨empty, bare⟩⟩ := madeToo
        · exact Or.inl (assigned.trans assignedToo.symm)
        · rw [empty, String.append_empty] at assigned
          exact Or.inr (Or.inr ⟨bare ▸ flag, by rw [assigned, bare]⟩)
      · obtain ⟨_, assigned | ⟨_, bareToo⟩⟩ := madeToo
        · rw [empty, String.append_empty] at assigned
          exact Or.inr (Or.inl ⟨bare ▸ flag, by rw [assigned, bare]⟩)
        · exact Or.inl (bare.trans bareToo.symm)

theorem ofToken_of_equals (index : ConfigIndex) {flag : String} (left : IsFlag flag) :
    ofToken index (flag ++ "=") = .named flag "" .empty := by
  have parts : flag ++ "=" = flag ++ "=" ++ "" := String.append_empty.symm
  have empty : Template.Single "" := by decide
  rw [parts, ofToken_of_assignment index left, templated_of_single index flag empty]

/-- No brace stands doubled, so nothing is looked up. -/
theorem ofToken_congr_of_single (index other : ConfigIndex) {token : String}
    (single : Template.Single token) : ofToken index token = ofToken other token := by
  cases Form.of token with
  | text undashed => rw [ofToken_of_text index undashed, ofToken_of_text other undashed]
  | flag flag => rw [ofToken_of_flag index flag, ofToken_of_flag other flag]
  | assignment left value =>
      rw [ofToken_of_assignment index left, ofToken_of_assignment other left,
        templated_of_single index _ single.of_append, templated_of_single other _ single.of_append]

theorem ofToken_eq_iff (index other : ConfigIndex) {left right : String}
    (single : Template.Single left) (singleToo : Template.Single right) :
    ofToken index left = ofToken other right ↔ SameToken left right := by
  constructor
  · intro same
    have made := ofToken_madeOf index single
    rw [same] at made
    exact made.same (ofToken_madeOf other singleToo)
  · rintro (rfl | ⟨flag, rfl⟩ | ⟨flag, rfl⟩)
    · exact ofToken_congr_of_single index other single
    · rw [ofToken_of_flag index flag, ofToken_of_equals other flag]
    · rw [ofToken_of_equals index flag, ofToken_of_flag other flag]

/-- Command lines have the same arguments if their tokens are the same one by one. -/
theorem map_ofToken_eq_iff (index other : ConfigIndex) {tokens others : List String}
    (single : ∀ token ∈ tokens, Template.Single token)
    (singleToo : ∀ token ∈ others, Template.Single token) :
    tokens.map (ofToken index) = others.map (ofToken other) ↔
      List.Forall₂ SameToken tokens others := by
  induction tokens generalizing others with
  | nil => rw [List.forall₂_nil_left_iff, List.map_nil, eq_comm, List.map_eq_nil_iff]
  | cons token tokens ih =>
      cases others with
      | nil => simp
      | cons first others =>
          rw [List.forall_mem_cons] at single singleToo
          rw [List.map_cons, List.map_cons, List.cons.injEq, List.forall₂_cons,
            ofToken_eq_iff index other single.1 singleToo.1, ih single.2 singleToo.2]

end Argument

end CatalogSeed
