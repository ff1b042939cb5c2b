import CatalogSeed.Proofs.Document.Parts
import CatalogSeed.Proofs.Document.Unambiguous

/-!
The parts of a document as texts: what stands between its brackets, commas and colons, each part
the text of a tree.
-/

namespace CatalogSeed.Document.ParseTree

/-- The texts of the items of an array, in what is left of it with the closing bracket. -/
def ItemTexts (first : Bool) : List (List UInt8) → List UInt8 → Prop
  | [], text => ∃ gap, Blank gap ∧ text = gap ++ [0x5D]
  | item :: items, text => ∃ lead later, Leads first lead ∧
      (∃ tree : ParseTree, tree.Spells item) ∧ ItemTexts false items later ∧
      text = lead ++ (item ++ later)

/-- The texts of the members of an object under their keys, in what is left of it with the closing
brace. -/
def MemberTexts (first : Bool) : List (String × List UInt8) → List UInt8 → Prop
  | [], text => ∃ gap, Blank gap ∧ text = gap ++ [0x7D]
  | (key, value) :: members, text => ∃ lead written before behind later,
      Leads first lead ∧ Content written ∧ text? written = some key ∧ Blank before ∧
      Blank behind ∧ (∃ tree : ParseTree, tree.Spells value) ∧ MemberTexts false members later ∧
      text = lead ++
        0x22 :: (written ++ 0x22 :: (before ++ 0x3A :: (behind ++ (value ++ later))))

/-- The texts under the keys of a record, which is written as an object or as an array. -/
def RecordTexts (known : List (Member Kind)) (entries : List (String × List UInt8))
    (text : List UInt8) : Prop :=
  (∃ body, MemberTexts true entries body ∧ text = 0x7B :: body) ∨
    ∃ items body, ItemTexts true items body ∧ text = 0x5B :: body ∧
      entries = (known.map Member.key).zip items

/-- A tree and its text, under the same key. -/
def SpellsMember (entry : String × ParseTree) (member : String × List UInt8) : Prop :=
  entry.1 = member.1 ∧ entry.2.Spells member.2

variable {first : Bool} {text : List UInt8}

theorem ItemTexts.trees {items : List (List UInt8)} (texts : ItemTexts first items text) :
    ∃ trees, SpellsItems first trees text ∧ List.Forall₂ Spells trees items := by
  induction items generalizing first text with
  | nil => exact ⟨[], texts, .nil⟩
  | cons item items ih =>
      obtain ⟨lead, later, leads, ⟨tree, spells⟩, further, rfl⟩ := texts
      obtain ⟨trees, spelled, along⟩ := ih further
      exact ⟨tree :: trees, ⟨lead, item, later, leads, spells, spelled, rfl⟩, .cons spells along⟩

theorem SpellsItems.texts {trees : List ParseTree} (spells : SpellsItems first trees text) :
    ∃ items, ItemTexts first items text ∧ List.Forall₂ Spells trees items := by
  induction trees generalizing first text with
  | nil => exact ⟨[], spells, .nil⟩
  | cons tree trees ih =>
      obtain ⟨lead, item, later, leads, spelled, further, rfl⟩ := spells
      obtain ⟨items, texts, along⟩ := ih further
      exact ⟨item :: items, ⟨lead, later, leads, ⟨tree, spelled⟩, texts, rfl⟩,
        .cons spelled along⟩

theorem MemberTexts.trees {members : List (String × List UInt8)}
    (texts : MemberTexts first members text) :
    ∃ trees, SpellsMembers first trees text ∧ List.Forall₂ SpellsMember (named trees) members := by
  induction members generalizing first text with
  | nil => exact ⟨[], texts, .nil⟩
  | cons member members ih =>
      obtain ⟨key, value⟩ := member
      obtain ⟨lead, written, before, behind, later, leads, content, spelled, blank, gap,
        ⟨tree, spells⟩, further, rfl⟩ := texts
      obtain ⟨trees, whole, along⟩ := ih further
      refine ⟨(written, tree) :: trees, ⟨lead, before, behind, value, later, leads, content, blank,
        gap, spells, whole, rfl⟩, ?_⟩
      rw [named_cons spelled]
      exact .cons ⟨rfl, spells⟩ along

theorem SpellsMembers.texts {trees : List (List UInt8 × ParseTree)}
    (spells : SpellsMembers first trees text) (textual : Textual trees) :
    ∃ members, MemberTexts first members text ∧ List.Forall₂ SpellsMember (named trees) members := by
  induction trees generalizing first text with
  | nil => exact ⟨[], spells, .nil⟩
  | cons member trees ih =>
      obtain ⟨written, tree⟩ := member
      obtain ⟨given, rest⟩ := List.forall_mem_cons.1 textual
      obtain ⟨key, spelled⟩ := Option.isSome_iff_exists.1 given
      obtain ⟨lead, before, behind, value, later, leads, content, blank, gap, held, further,
        rfl⟩ := spells
      obtain ⟨members, texts, along⟩ := ih further rest
      refine ⟨(key, value) :: members, ⟨lead, written, before, behind, later, leads, content,
        spelled, blank, gap, ⟨tree, held⟩, texts, rfl⟩, ?_⟩
      rw [named_cons spelled]
      exact .cons ⟨rfl, held⟩ along

theorem zip_forall₂ (keys : List String) {trees : List ParseTree} {items : List (List UInt8)}
    (along : List.Forall₂ Spells trees items) :
    List.Forall₂ SpellsMember (keys.zip trees) (keys.zip items) := by
  induction along generalizing keys with
  | nil => simp
  | cons spells later ih =>
      cases keys with
      | nil => simp
      | cons key keys => exact .cons ⟨rfl, spells⟩ (ih keys)

/-- What is looked up in both is a tree and its text, or nothing. -/
theorem lookup_forall₂ {trees : List (String × ParseTree)} {members : List (String × List UInt8)}
    (along : List.Forall₂ SpellsMember trees members) (key : String) :
    Option.Rel Spells (trees.lookup key) (members.lookup key) := by
  induction along with
  | nil => exact .none
  | @cons entry member trees members spells later ih =>
      obtain ⟨entryKey, tree⟩ := entry
      obtain ⟨memberKey, part⟩ := member
      obtain ⟨same, spelled⟩ := spells
      have shared : entryKey = memberKey := same
      subst shared
      rw [KeyMap.lookup_cons_eq, KeyMap.lookup_cons_eq]
      by_cases here : key = entryKey
      · rw [if_pos here, if_pos here]
        exact .some spelled
      · rw [if_neg here, if_neg here]
        exact ih

variable {known : List (Member Kind)} {entries : List (String × List UInt8)}

theorem RecordTexts.tree (texts : RecordTexts known entries text) :
    ∃ tree : ParseTree, tree.Spells text ∧
      List.Forall₂ SpellsMember (entriesOf known tree) entries := by
  rcases texts with ⟨body, members, rfl⟩ | ⟨items, body, parts, rfl, rfl⟩
  · obtain ⟨trees, spells, along⟩ := members.trees
    exact ⟨.object trees, ⟨body, spells, rfl⟩, along⟩
  · obtain ⟨trees, spells, along⟩ := parts.trees
    exact ⟨.array trees, ⟨body, spells, rfl⟩, zip_forall₂ _ along⟩

/-- A record has the texts of its parts where it is written. -/
theorem Spells.recordTexts {nesting : Nat} {label : String} {tree : ParseTree} {found : Datum}
    (spells : tree.Spells text)
    (read : datum? nesting (.record label known) tree = some found) :
    ∃ entries, RecordTexts known entries text ∧
      List.Forall₂ SpellsMember (entriesOf known tree) entries := by
  obtain ⟨inner, rfl, inside⟩ := bracketed?_of_datum? read (by simp) fun _ => rfl
  cases tree with
  | object members =>
      obtain ⟨gathered, taken, _⟩ := Option.bind_eq_some_iff.1 inside
      obtain ⟨body, spelled, rfl⟩ := spells
      obtain ⟨entries, texts, along⟩ := spelled.texts (textual_of_foldMembers taken)
      exact ⟨entries, Or.inl ⟨body, texts, rfl⟩, along⟩
  | array items =>
      obtain ⟨body, spelled, rfl⟩ := spells
      obtain ⟨parts, texts, along⟩ := spelled.texts
      exact ⟨_, Or.inr ⟨parts, body, texts, rfl, rfl⟩, zip_forall₂ _ along⟩
  | _ => contradiction

end CatalogSeed.Document.ParseTree
