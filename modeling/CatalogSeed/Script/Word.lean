import CatalogSeed.Script.Draft

/-!
Reading words: quotes, parameters, substitutions and arithmetic. The commands within a word are
read by parsers that are given.
-/

namespace CatalogSeed.Script.Parser

mutual

/-- Reads on to what closes the text; `depth` counts open parentheses. -/
def parts (inner : Inner) : Nat → Context → Nat → Draft → Parser Draft
  | 0, context, _, _ => unclosedText context
  | fuel + 1, context, depth, draft => do
      let go (draft : Draft) : Parser Draft := parts inner fuel context depth draft
      match ← peek? with
      | none =>
          match context.closing with
          | .delimiter | .expression => return draft
          | .mark mark _ =>
              noteOpen context.line mark
              return draft
          | _ => unclosedText context
      | some '\\' =>
          skip
          match ← takeRaw? with
          | none => go (draft.add '\\' true)
          | some c =>
              if context.quoted && !context.escapes c then
                go ((draft.add '\\' true).add c true)
              else go (draft.add c true)
      | some '$' =>
          skip
          if context.plain then go (draft.add '$' context.quoted)
          else go (← dollar inner fuel context draft)
      | some '\x60' =>
          let line := (← get).line
          skip
          if context.plain then return ← go (draft.add '\x60' context.quoted)
          let text ← backquoted line context.quoted ((← remaining) + 1) []
          go (draft.push (.output (← within text inner.whole) context.quoted))
      | some '"' =>
          let line := (← get).line
          if context.closing = .quote then
            skip
            return draft
          else if (context.closing = .parentheses && !(← isExtended)) ||
              (context.document.isSome && !context.nested) then
            skip
            go (draft.add '"' true)
          else
            skip
            let inside ← parts inner fuel { context with closing := .quote, quoted := true, line }
              0 .empty
            let whole := draft.pushQuoted inside
            if !(← isExtended) && inside.word.length > 1 && inside.word.any Part.isArguments then
              go (whole.push .quotes)
            else go whole
      | some '\'' =>
          let line := (← get).line
          skip
          if context.quoted then go (draft.add '\'' true)
          else
            let inside ← singleQuoted line ((← remaining) + 1) .empty
            go (draft.pushQuoted inside)
      | some '\x7d' =>
          match context.closing with
          | .brace =>
              skip
              return draft
          | .sign _ => return draft
          | _ =>
              skip
              go (draft.add '\x7d' context.quoted)
      | some '(' =>
          if context.closing = .delimiter then return draft
          else
            skip
            parts inner fuel context (depth + 1) (draft.add '(' context.quoted)
      | some ')' =>
          if context.closing = .delimiter ∨ (context.closing = .expression ∧ depth = 0) then
            return draft
          else
            skip
            if context.closing = .parentheses ∧ depth = 0 then
              if ← skipIf ')' then return draft else go (draft.add ')' true)
            else parts inner fuel context (depth - 1) (draft.add ')' context.quoted)
      | some '\n' =>
          match context.closing with
          | .delimiter | .expression => return draft
          | .mark text outdented =>
              skip
              if ← endsAt text outdented then return draft.add '\n' true
              else go (draft.add '\n' true)
          | _ =>
              skip
              if let some (text, outdented) := context.document then
                if ← endsAt text outdented then return ← unclosedText context
              go (draft.add '\n' context.quoted)
      | some c =>
          match context.closing with
          | .delimiter =>
              if isDelimiter c then
                let opens := match (← get).rest with
                  | _ :: '(' :: _ => c = '<' || c = '>'
                  | _ => false
                if opens && !context.plain && (← isExtended) then
                  skip
                  skip
                  match ← substitution inner false with
                  | .output commands _ => return ← go (draft.push (.channel commands))
                  | part => return ← go (draft.push part)
                else return draft
          | .expression => if isBlank c && depth = 0 then return draft
          | .sign sign => if c = sign && depth = 0 then return draft
          | .bracket =>
              if c = ']' && depth = 0 then
                skip
                return draft
          | _ => pure ()
          skip
          let depth := if context.closing ≠ .bracket then depth
            else if c = '[' then depth + 1
            else if c = ']' then depth - 1
            else depth
          parts inner fuel context depth (draft.add c context.quoted)

/-- What a dollar sign, which is read already, begins. -/
def dollar (inner : Inner) : Nat → Context → Draft → Parser Draft
  | 0, context, _ => unclosedText context
  | fuel + 1, context, draft => do
      let quoted := context.quoted
      let line := (← get).line
      match ← peek? with
      | some '(' =>
          skip
          if ← skipIf '(' then
            let within := { context with
              closing := .parentheses, quoted := true, nested := false, line }
            let text ← parts inner fuel within 0 .empty
            return draft.push (.number text.word quoted)
          else return draft.push (← substitution inner quoted)
      | some '\x7b' =>
          skip
          return draft.push (← braced inner fuel { context with line })
      | some '\'' =>
          if !quoted && (← isExtended) then
            skip
            let inside ← escapeQuoted line ((← remaining) + 1) .empty
            return draft.pushQuoted inside
          else return draft.add '$' quoted
      | some '"' =>
          if !quoted && (← isExtended) then return draft else return draft.add '$' quoted
      | some c =>
          if isSpecial c then
            skip
            return draft.push (.parameter c.toString [] .value [] quoted)
          else if isNameStart c then
            skip
            return draft.push (.parameter (← parameterName c) [] .value [] quoted)
          else return draft.add '$' quoted
      | none => return draft.add '$' quoted

/-- Reads a parameter behind its opening brace. -/
def braced (inner : Inner) : Nat → Context → Parser Part
  | 0, context => unclosedText context
  | fuel + 1, context => do
      let before ← get
      let extended ← isExtended
      let (front, name) ← bracedName
      let index ←
        if extended && isNameStart (name.toList.headD ' ') && (← skipIf '[') then
          let within := { context with closing := .bracket, quoted := true, nested := false }
          let text ← parts inner fuel within 0 .empty
          pure [text.word]
        else pure []
      let form ← match front with
        | some (.invalid text) => pure (some (.invalid text))
        | some front =>
            if ← skipIf '\x7d' then pure (some front)
            else if front = .indirect then
              match (← get).rest with
              | sign :: '\x7d' :: rest =>
                  if sign = '@' ∨ sign = '*' then
                    modify fun reader => { reader with rest }
                    pure (some .names)
                  else pure (some (.invalid ""))
              | _ => pure (some (.invalid ""))
            else pure (some (.invalid ""))
        | none => form
      let quoted := context.quoted
      let read (closing : Closing) (patterns : Bool) : Parser Word := do
        let within := { context with closing, quoted := quoted && !patterns, nested := true }
        return (← parts inner fuel within 0 .empty).word
      match form with
      | none => return .parameter name index .value [] quoted
      | some .length => return .parameter name index .length [] quoted
      | some .names => return .parameter name index .names [] quoted
      | some .indirect =>
          let many := index.any fun
            | [.literal text _] => text = "@" || text = "*"
            | _ => false
          return .parameter name index (if many then .keys else .indirect) [] quoted
      | some .slice =>
          let first ← read (.sign ':') false
          if ← skipIf ':' then
            let size ← read .brace false
            return .parameter name index .slice [first, size] quoted
          else
            skip
            return .parameter name index .slice [first] quoted
      | some (.replaced all anchor) =>
          let pattern ← read (.sign '/') true
          if ← skipIf '/' then
            let new ← read .brace false
            return .parameter name index (.replaced all anchor) [pattern, new] quoted
          else
            skip
            return .parameter name index (.replaced all anchor) [pattern] quoted
      | some (.invalid _) =>
          let _ ← read .brace false
          let text := "$\x7b" ++ textBetween before (← get)
          return .parameter name index (.invalid text) [] quoted
      | some form =>
          let patterns := match form with
            | .trimmed _ _ | .cased _ _ => true
            | _ => false
          return .parameter name index form [← read .brace patterns] quoted

end

/-- Reads a word in a script, behind what was read of it already. -/
def wordFrom (inner : Inner) (plain : Bool) (draft : Draft) : Parser Draft := do
  let line := (← get).line
  parts inner ((← remaining) + 1) ⟨.delimiter, false, false, none, plain, line⟩ 0 draft

/-- Reads a regular expression in a condition. -/
def expression (inner : Inner) : Parser Word := do
  let line := (← get).line
  let draft ← parts inner ((← remaining) + 1) ⟨.expression, false, false, none, false, line⟩ 0
    .empty
  return draft.word

/-- Reads an arithmetic text up to a mark that two parentheses make. -/
def arithmetic (inner : Inner) : Parser Word := do
  let line := (← get).line
  let draft ← parts inner ((← remaining) + 1) ⟨.parentheses, true, false, none, false, line⟩ 0
    .empty
  return draft.word

/-- The text up to the bracket that closes it, and what stands behind. -/
def bracketed : Nat → List Char → List Char → Option (List Char × List Char)
  | _, _, [] => none
  | depth, before, c :: rest =>
      if c = '\n' then none
      else if c = ']' then
        match depth with
        | 0 => some (before.reverse, rest)
        | depth + 1 => bracketed depth (c :: before) rest
      else bracketed (if c = '[' then depth + 1 else depth) (c :: before) rest

/-- How much of a text a name, an index between brackets and an equals sign take up, if these
come first. -/
def settingLength? (text : List Char) : Option (String × Option (List Char) × Bool × Nat) :=
  let (name, rest) := text.span isNameChar
  let index? : Option (Option (List Char) × List Char) := match rest with
    | '[' :: behind =>
        (bracketed 0 [] behind).map fun (index, after) => (some index, after)
    | rest => some (none, rest)
  match name.head?, index? with
  | some c, some (index, after) =>
      let between := name.length + (index.map fun index => index.length + 2).getD 0
      if !isNameStart c then none
      else match after with
        | '+' :: '=' :: _ => some (String.ofList name, index, true, between + 2)
        | '=' :: _ => some (String.ofList name, index, false, between + 1)
        | _ => none
  | _, _ => none

/-- Reads the front of a setting, with the values of a list. -/
def settingFront? (inner : Inner) (elements : Parser (List Word)) : Parser (Option Draft) := do
  let reader ← get
  match settingLength? reader.rest with
  | none => return none
  | some (name, index, append, length) =>
      let index ← match index with
        | none => pure []
        | some text =>
            let line := reader.line
            let draft ← within text (parts inner (text.length + 1)
              ⟨.mark [] false, false, false, none, false, line⟩ 0 .empty)
            pure [draft.word]
      set { reader with rest := reader.rest.drop length }
      let front := Draft.empty.push (.setting name index append)
      if index = [] ∧ (← peek?) = some '(' then
        skip
        return some (front.push (.items (← elements)))
      else return some front

/-- Reads the body of a here-document, from the beginning of a line. -/
def document (inner : Inner) (pending : Pending) : Parser Word := do
  let closing := Closing.mark pending.mark pending.outdented
  if ← endsAt pending.mark pending.outdented then return []
  else
    let fuel := (← remaining) + 1
    if pending.quoted then
      let text ← rawLines closing fuel .empty
      return text.word
    else
      let text ← parts inner fuel ⟨closing, true, false, some (pending.mark, pending.outdented), false, pending.line⟩ 0 .empty
      return text.word
where
  /-- Reads lines as they are written. -/
  rawLines (closing : Closing) : Nat → Draft → Parser Draft
    | 0, draft => return draft
    | fuel + 1, draft => do
        match ← takeRaw?, closing with
        | none, .mark text _ =>
            noteOpen pending.line text
            return draft
        | none, _ => return draft
        | some '\n', .mark text outdented =>
            if ← endsAt text outdented then return draft.add '\n' true
            else rawLines closing fuel (draft.add '\n' true)
        | some c, _ => rawLines closing fuel (draft.add c true)

end CatalogSeed.Script.Parser
