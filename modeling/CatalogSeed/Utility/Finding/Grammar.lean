import CatalogSeed.Utility.Finding.Reading

/-!
How conditions are combined: a comma binds less than a choice, which binds less than standing side
by side.
-/

namespace CatalogSeed.Utility.Finding

inductive Token
  | opening
  | closing
  | negation (word : String)
  | sign (rank : Nat) (word : String)
  | condition (condition : Condition)

/-- The ranks of the signs between conditions. -/
def ranks : List (String × Nat) :=
  [(",", 0), ("-o", 1), ("-or", 1), ("-a", 2), ("-and", 2)]

/-- Takes the words of a call one by one. -/
def tokens : Nat → Parser (List Token)
  | 0 => return []
  | fuel + 1 => do
      let reader ← get
      match reader.rest with
      | [] => return []
      | word :: rest =>
          set { reader with rest }
          let token ← match word, ranks.lookup word with
            | "(", _ => pure Token.opening
            | ")", _ => pure Token.closing
            | "!", _ | "-not", _ => pure (Token.negation word)
            | _, some rank => pure (Token.sign rank word)
            | _, none => Token.condition <$> single word
          modify fun reader => { reader with before := word }
          return token :: (← tokens fuel)

abbrev Combining := StateT (List Token) (Except String)

def wrong {α : Type} (message : String) : Combining α := fun _ => .error message

def joined : Nat → Condition → Condition → Condition
  | 0 => .second
  | 1 => .either
  | _ => .both

mutual

/-- Reads what signs of a rank, or higher ones, combine; `sign` stands in front of it. -/
def combined (sign : String) : Nat → Nat → Combining Condition
  | 0, _ => return always
  | fuel + 1, rank => do
      let left ← if rank < 2 then combined sign fuel (rank + 1) else alone sign fuel
      match ← get with
      | .sign other word :: rest =>
          if other = rank then
            set rest
            return joined rank left (← combined word fuel rank)
          else return left
      | [] | .closing :: _ => return left
      | _ => if rank = 2 then return joined rank left (← combined "" fuel rank) else return left

/-- Reads one condition, or what is between parentheses. -/
def alone (sign : String) : Nat → Combining Condition
  | 0 => return always
  | fuel + 1 => do
      let expected : String := "expected an expression after '" ++ sign ++ "'"
      match ← get with
      | [] => if sign = "" then return always else wrong expected
      | .condition condition :: rest =>
          set rest
          return condition
      | .negation word :: rest =>
          set rest
          return .negate (← alone word fuel)
      | .sign _ word :: _ =>
          wrong ("invalid expression; you have used a binary operator '" ++ word ++
            "' with nothing before it.")
      | .closing :: _ =>
          if sign = "" then
            wrong "invalid expression: expected expression before closing parentheses '('."
          else wrong expected
      | .opening :: rest =>
          set rest
          match rest with
          | [] =>
              wrong ("invalid expression; expected to find a ')' but didn't see one. " ++
                "Perhaps you need an extra predicate after '('")
          | .closing :: _ => wrong "invalid expression; empty parentheses are not allowed."
          | _ =>
              let inside ← combined "" fuel 0
              match ← get with
              | .closing :: rest =>
                  set rest
                  return inside
              | _ =>
                  wrong ("invalid expression; I was expecting to find a ')' somewhere but " ++
                    "did not see one.")

end

/-- Reads all conditions; what is found is printed if nothing else is done with it. -/
def parse (tree : FileTree) (following : Following) (words : List String) :
    Except String (Condition × Reader) := do
  let start : Reader :=
    ⟨words, tree, following, 0, none, false, false, false, "findutils-default", "", [], []⟩
  let (found, reader) ← (tokens (words.length + 1)).run start
  let (condition, rest) ← (combined "" (8 * words.length + 8) 0).run found
  match rest with
  | [] =>
      if reader.acts then return (condition, reader)
      else return (.both condition (.write none (printed "\n")), reader)
  | _ => .error "you have too many ')'"

end CatalogSeed.Utility.Finding
