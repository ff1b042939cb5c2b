import CatalogSeed.Proofs.Document.ParseTree

/-!
What is read of a tree within some levels of nesting is read of it within more of them.
-/

namespace CatalogSeed.Document.ParseTree

variable {α β : Type}

/-- The second one gives whatever the first one gives. -/
def Extends (f g : α → Option β) : Prop :=
  ∀ value found, f value = some found → g value = some found

theorem Extends.map {γ : Type} {f g : α → Option β} (further : Extends f g) (change : β → γ) :
    Extends (fun value => (f value).map change) fun value => (g value).map change := by
  intro value found given
  obtain ⟨part, taken, same⟩ := Option.map_eq_some_iff.1 given
  exact Option.map_eq_some_iff.2 ⟨part, further value part taken, same⟩

theorem Extends.mapM {f g : α → Option β} (further : Extends f g) :
    Extends (List.mapM f) (List.mapM g) := by
  intro items
  induction items with
  | nil =>
      intro found given
      exact given
  | cons item items ih =>
      intro found given
      rw [List.mapM_cons] at given ⊢
      obtain ⟨first, taken, rest⟩ := Option.bind_eq_some_iff.1 given
      obtain ⟨later, onwards, same⟩ := Option.bind_eq_some_iff.1 rest
      refine Option.bind_eq_some_iff.2 ⟨first, further item first taken, ?_⟩
      exact Option.bind_eq_some_iff.2 ⟨later, ih later onwards, same⟩

theorem Extends.foldMembers {σ : Type} {step next : σ → String → ParseTree → Option σ}
    (further : ∀ state key, Extends (step state key) (next state key)) (start : σ) :
    Extends (ParseTree.foldMembers step start) (ParseTree.foldMembers next start) := by
  intro members
  induction members generalizing start with
  | nil =>
      intro final given
      exact given
  | cons member members ih =>
      intro final given
      simp only [ParseTree.foldMembers, List.foldlM_cons] at given ⊢
      obtain ⟨state, stepped, onwards⟩ := Option.bind_eq_some_iff.1 given
      obtain ⟨key, spelled, taken⟩ := Option.bind_eq_some_iff.1 stepped
      rw [spelled, Option.bind_some, further start key member.2 state taken]
      exact ih state final onwards

theorem putMember_extends {value other : ParseTree → Option Json} (further : Extends value other)
    (bag : Bag) (key : String) : Extends (putMember value bag key) (putMember other bag key) :=
  further.map (bag.put key)

section Records

variable {datum other : Kind → ParseTree → Option Datum}

theorem memberDatum?_extends (further : ∀ kind, Extends (datum kind) (other kind))
    (member : Member Kind) : Extends (memberDatum? datum member) (memberDatum? other member) := by
  intro tree
  cases tree with
  | null =>
      intro found given
      by_cases lenient : member.presence = .lenient
      · rwa [memberDatum?, if_pos lenient] at given ⊢
      · rw [memberDatum?, if_neg lenient] at given ⊢
        exact (further member.kind).map some .null found given
  | bool value => exact (further member.kind).map some _
  | number written => exact (further member.kind).map some _
  | string written => exact (further member.kind).map some _
  | array items => exact (further member.kind).map some _
  | object members => exact (further member.kind).map some _

theorem gather_extends (further : ∀ kind, Extends (datum kind) (other kind))
    (known : List (Member Kind)) (gathered : Gathered) (key : String) :
    Extends (gather datum known gathered key) (gather other known gathered key) := by
  intro tree found given
  unfold gather at given ⊢
  cases field : known.find? (·.key = key) with
  | none => rwa [field] at given
  | some member =>
      rw [field] at given
      by_cases repeated : (gathered.lookup key).isSome
      · simp [repeated] at given
      · simp only [repeated] at given ⊢
        exact (memberDatum?_extends further member).map _ tree found given

theorem positional?_extends (further : ∀ kind, Extends (datum kind) (other kind))
    (known : List (Member Kind)) :
    Extends (positional? datum known) (positional? other known) := by
  intro items
  induction items generalizing known with
  | nil =>
      intro found given
      cases known with
      | nil => exact given
      | cons member known => exact given
  | cons item items ih =>
      intro found given
      cases known with
      | nil => contradiction
      | cons member known =>
          obtain ⟨first, taken, rest⟩ := Option.bind_eq_some_iff.1 given
          obtain ⟨later, onwards, same⟩ := Option.bind_eq_some_iff.1 rest
          have kept := memberDatum?_extends further member item first taken
          exact Option.bind_eq_some_iff.2
            ⟨first, kept, Option.bind_eq_some_iff.2 ⟨later, ih known later onwards, same⟩⟩

theorem bracketed?_extends (further : ∀ kind, Extends (datum kind) (other kind))
    {json deeper : ParseTree → Option Json} (deepens : Extends json deeper) (kind : Kind) :
    Extends (bracketed? datum json kind) (bracketed? other deeper kind) := by
  intro tree
  cases kind with
  | list item =>
      cases tree with
      | array items => exact (further item).mapM.map Datum.list items
      | _ => exact fun found given => given
  | table item =>
      cases tree with
      | object members =>
          have step (entries : List (String × Datum)) (key : String) :=
            (further item).map fun found => entries ++ [(key, found)]
          exact (Extends.foldMembers step []).map Datum.table members
      | _ => exact fun found given => given
  | bag =>
      cases tree with
      | object members =>
          exact (Extends.foldMembers (putMember_extends deepens) []).map Datum.bag members
      | _ => exact fun found given => given
  | record label known =>
      cases tree with
      | array items => exact (positional?_extends further known).map Datum.record items
      | object members =>
          intro found given
          obtain ⟨gathered, taken, arranged⟩ := Option.bind_eq_some_iff.1 given
          have kept := Extends.foldMembers (gather_extends further known) [] members gathered taken
          exact Option.bind_eq_some_iff.2 ⟨gathered, kept, arranged⟩
      | _ => exact fun found given => given
  | _ => cases tree <;> exact fun found given => given

end Records

theorem json?_extends (nesting : Nat) : Extends (json? nesting) (json? (nesting + 1)) := by
  induction nesting with
  | zero =>
      intro tree found given
      cases tree with
      | array items => contradiction
      | object members => contradiction
      | _ => exact given
  | succ nesting ih =>
      intro tree
      cases tree with
      | array items => exact ih.mapM.map Json.array items
      | object members =>
          exact (Extends.foldMembers (putMember_extends ih) []).map Json.object members
      | _ => exact fun found given => given

theorem datum?_extends (nesting : Nat) (kind : Kind) :
    Extends (datum? nesting kind) (datum? (nesting + 1) kind) := by
  induction nesting generalizing kind with
  | zero =>
      intro tree found given
      cases kind with
      | json => exact (json?_extends 0).map Datum.json tree found given
      | _ => cases tree <;> first | contradiction | exact given
  | succ nesting ih =>
      cases kind with
      | json => exact (json?_extends (nesting + 1)).map Datum.json
      | _ => exact bracketed?_extends ih (json?_extends nesting) _

/-- More levels of nesting change nothing about what is read within fewer of them. -/
theorem datum?_of_le {inner outer : Nat} (le : inner ≤ outer) (kind : Kind) :
    Extends (datum? inner kind) (datum? outer kind) := by
  induction outer with
  | zero =>
      have same : inner = 0 := by omega
      subst same
      exact fun tree found given => given
  | succ outer ih =>
      intro tree found given
      by_cases whole : inner = outer + 1
      · rwa [whole] at given
      · have within : inner ≤ outer := by omega
        exact datum?_extends outer kind tree found (ih within tree found given)

end CatalogSeed.Document.ParseTree
