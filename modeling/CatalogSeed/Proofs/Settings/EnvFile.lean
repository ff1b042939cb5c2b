import CatalogSeed.Run

/-!
What is added to an environment before a run. Whatever is set stays as it is; of a file with
settings, the first line about a variable counts, and only if the variable is not set.
-/

namespace CatalogSeed

namespace Environment

theorem lookup_complete {environment : Environment} {name : String}
    (other : standard.lookup name = none) :
    environment.complete.lookup name = environment.lookup name := by
  have unset (kept : String × String → Bool) : (standard.filter kept).lookup name = none := by
    rw [List.lookup_eq_none_iff] at other ⊢
    exact fun entry among => other entry ((List.mem_filter.1 among).1)
  rw [complete, List.lookup_append, unset, Option.or_none]

end Environment

namespace EnvFile

/-- What the lines of a file say, in their order. Each value is read in the environment that the
lines before it leave. -/
def assignments (environment : Environment) : List (Option (List Char)) → Environment
  | [] => []
  | none :: _ => []
  | some line :: rest =>
      match setting (fun name => (environment.find? name).getD "") line with
      | none => []
      | some none => assignments environment rest
      | some (some (name, value)) =>
          let environment :=
            if (environment.lookup name).isSome then environment else (name, value) :: environment
          (name, value) :: assignments environment rest

theorem lookup_setAll (environment : Environment) (lines : List (Option (List Char)))
    (name : String) :
    (setAll environment lines).lookup name =
      (environment.lookup name).or ((assignments environment lines).lookup name) := by
  fun_induction setAll environment lines with
  | case1 environment => exact Option.or_none.symm
  | case2 environment rest => exact Option.or_none.symm
  | case3 environment line rest wrong => rw [assignments, wrong, List.lookup_nil, Option.or_none]
  | case4 environment line rest nothing ih => rw [assignments, nothing, ih]
  | case5 environment line rest other value found known ih =>
      rw [assignments, found, ih]
      simp only [known, if_true]
      by_cases same : name = other
      · obtain ⟨old, known⟩ := Option.isSome_iff_exists.1 (same ▸ known)
        rw [known, Option.some_or, Option.some_or]
      · rw [List.lookup_cons, beq_false_of_ne same]
  | case6 environment line rest other value found unknown ih =>
      rw [assignments, found, ih]
      simp only [unknown]
      by_cases same : name = other
      · have unset : environment.lookup name = none :=
          same ▸ Option.not_isSome_iff_eq_none.1 unknown
        rw [unset, Option.none_or, List.lookup_cons, List.lookup_cons, same, beq_self_eq_true]
        rfl
      · rw [List.lookup_cons, List.lookup_cons, beq_false_of_ne same]
        rfl

/-- What the nearest file says, if there is one. -/
def nearby (environment : Environment) (tree : FileTree) : Environment :=
  match nearest? tree with
  | some content =>
      assignments environment (logicalLines [] (.plain false) (wellFormedLines content))
  | none => []

theorem lookup_extend (environment : Environment) (tree : FileTree) (name : String) :
    (extend environment tree).lookup name =
      (environment.lookup name).or ((nearby environment tree).lookup name) := by
  rw [extend, nearby]
  cases nearest? tree with
  | none => exact Option.or_none.symm
  | some content => exact lookup_setAll environment _ name

end EnvFile

namespace Settings

/-- What a variable is set to when settings are read: where the program is started, or else by the
nearest file. -/
def inherited (environment : Environment) (tree : FileTree) (name : String) : Option String :=
  (environment.lookup name).or ((EnvFile.nearby environment.complete tree).lookup name)

theorem lookup_extend_complete (environment : Environment) (tree : FileTree) {name : String}
    (known : name ∈ variableNames) :
    (EnvFile.extend environment.complete tree).lookup name = inherited environment tree name := by
  have other : ∀ name ∈ variableNames, Environment.standard.lookup name = none := by decide
  rw [EnvFile.lookup_extend, Environment.lookup_complete (other name known)]
  rfl

end Settings

end CatalogSeed
