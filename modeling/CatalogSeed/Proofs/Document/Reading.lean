import CatalogSeed.Proofs.Document.Skip

/-!
What the reader makes of a spelled tree. It reads the tree's text, whatever blanks stand in it,
exactly if the tree has a datum of the wanted kind, and then it is that datum.
-/

namespace CatalogSeed.Document

open ParseTree

variable {α σ : Type}

/-- A reader finds in the texts of a tree what the tree stands for, and leaves what follows. -/
def Reads (reader : Reader α) (meaning : ParseTree → Option α) : Prop :=
  ∀ tree gap text rest, Blank gap → tree.Spells text → Ends rest →
    (reader (gap ++ (text ++ rest))).toOption = (meaning tree).map fun found => (found, rest)

/-! Arrays. -/

theorem nextElement_item {first : Bool} {lead bytes : List UInt8} {b : UInt8}
    (leads : Leads first lead) (visible : isBlank b = false) (open_ : b ≠ 0x5D) :
    nextElement first (lead ++ b :: bytes) = .ok (true, b :: bytes) := by
  cases first with
  | true =>
      simp [nextElement, skipBlanks_append leads, skipBlanks_cons visible, open_]
  | false =>
      obtain ⟨before, behind, blank, gap, rfl⟩ := leads
      have comma (later : List UInt8) : skipBlanks (0x2C :: later) = 0x2C :: later :=
        skipBlanks_cons (by decide) later
      simp [nextElement, skipBlanks_append blank, comma, skipBlanks_append gap,
        skipBlanks_cons visible, open_]

theorem nextElement_close {gap : List UInt8} (blank : Blank gap) (first : Bool)
    (rest : List UInt8) : nextElement first (gap ++ 0x5D :: rest) = .ok (false, rest) := by
  have bracket : skipBlanks (0x5D :: rest) = 0x5D :: rest := skipBlanks_cons (by decide) rest
  simp [nextElement, skipBlanks_append blank, bracket]

theorem elements_spelled {item : Reader α} {meaning : ParseTree → Option α}
    (reads : Reads item meaning) (before : List α) {items : List ParseTree} {text : List UInt8}
    (spells : SpellsItems before.isEmpty items text) {fuel : Nat} (enough : items.length < fuel)
    (rest : List UInt8) :
    (elements item fuel before (text ++ rest)).toOption =
      (items.mapM meaning).map fun found => (before.reverse ++ found, rest) := by
  induction items generalizing before text fuel with
  | nil =>
      obtain ⟨gap, blank, rfl⟩ := spells
      obtain ⟨fuel, rfl⟩ := Nat.exists_eq_add_of_lt enough
      simp [elements, nextElement_close blank]
  | cons tree items ih =>
      obtain ⟨lead, written, later, leads, spelled, further, rfl⟩ := spells
      obtain ⟨fuel, rfl⟩ := Nat.exists_eq_add_of_lt enough
      obtain ⟨b, bytes, same, visible, open_, _⟩ := spelled.head
      have step : nextElement before.isEmpty (lead ++ (written ++ (later ++ rest))) =
          .ok (true, written ++ (later ++ rest)) := by
        rw [same, List.cons_append]
        exact nextElement_item leads visible open_
      have read : (item (written ++ (later ++ rest))).toOption =
          (meaning tree).map fun found => (found, later ++ rest) :=
        reads tree [] written _ Blank.nil spelled further.ends
      rw [List.append_assoc, List.append_assoc, elements, toOption_bind, step]
      simp only [toOption_ok, Option.bind_some, if_true, toOption_bind, read, Option.bind_map,
        List.mapM_cons]
      cases meaning tree with
      | none => rfl
      | some found =>
          have fewer : items.length < (tree :: items).length + fuel := by
            simp only [List.length_cons]
            omega
          simp only [Function.comp, Option.bind_some, ih (found :: before) further fewer]
          cases items.mapM meaning <;> simp

theorem Reads.array {item : Reader α} {meaning : ParseTree → Option α} (reads : Reads item meaning)
    {items : List ParseTree} {body : List UInt8} (spells : SpellsItems true items body)
    (rest : List UInt8) :
    (Document.array item (body ++ rest)).toOption =
      (items.mapM meaning).map fun found => (found, rest) := by
  have enough : items.length < (body ++ rest).length + 1 := by
    have shorter := spells.length_lt
    simp only [List.length_append]
    omega
  simpa [Document.array] using elements_spelled reads [] spells enough rest

/-! Objects. -/

theorem colon_written {gap : List UInt8} (blank : Blank gap) (rest : List UInt8) :
    colon (gap ++ 0x3A :: rest) = .ok rest := by
  have sign : skipBlanks (0x3A :: rest) = 0x3A :: rest := skipBlanks_cons (by decide) rest
  simp [colon, skipBlanks_append blank, sign]

theorem nextKey_member {first : Bool} {lead key : List UInt8} (leads : Leads first lead)
    (content : Content key) (rest : List UInt8) :
    (nextKey first (lead ++ 0x22 :: (key ++ 0x22 :: rest))).toOption =
      (text? key).map fun key => (some key, rest) := by
  have quote (later : List UInt8) : skipBlanks (0x22 :: later) = 0x22 :: later :=
    skipBlanks_cons (by decide) later
  cases first with
  | true =>
      simp [nextKey, skipBlanks_append leads, quote, string_written content, Function.comp_def]
  | false =>
      obtain ⟨before, behind, blank, gap, rfl⟩ := leads
      have comma (later : List UInt8) : skipBlanks (0x2C :: later) = 0x2C :: later :=
        skipBlanks_cons (by decide) later
      simp [nextKey, skipBlanks_append blank, comma, skipBlanks_append gap, quote,
        string_written content, Function.comp_def]

theorem nextKey_close {gap : List UInt8} (blank : Blank gap) (first : Bool)
    (rest : List UInt8) : nextKey first (gap ++ 0x7D :: rest) = .ok (none, rest) := by
  have brace : skipBlanks (0x7D :: rest) = 0x7D :: rest := skipBlanks_cons (by decide) rest
  simp [nextKey, skipBlanks_append blank, brace]

/-- The same of what reads a member behind its key, its colon too. -/
def ReadsMember (member : σ → String → Reader σ) (step : σ → String → ParseTree → Option σ) :
    Prop :=
  ∀ state key tree before behind text rest, Blank before → Blank behind → tree.Spells text →
    Ends rest →
    (member state key (before ++ 0x3A :: (behind ++ (text ++ rest)))).toOption =
      (step state key tree).map fun next => (next, rest)

theorem members_spelled {member : σ → String → Reader σ} {step : σ → String → ParseTree → Option σ}
    (reads : ReadsMember member step) {first : Bool} {members : List (List UInt8 × ParseTree)}
    {text : List UInt8} (spells : SpellsMembers first members text) (state : σ) {fuel : Nat}
    (enough : members.length < fuel) (rest : List UInt8) :
    (Document.members member fuel first state (text ++ rest)).toOption =
      (foldMembers step state members).map fun final => (final, rest) := by
  induction members generalizing first text state fuel with
  | nil =>
      obtain ⟨gap, blank, rfl⟩ := spells
      obtain ⟨fuel, rfl⟩ := Nat.exists_eq_add_of_lt enough
      simp [Document.members, nextKey_close blank, foldMembers]
  | cons entry members ih =>
      obtain ⟨lead, before, behind, written, later, leads, content, blank, gap, spelled, further,
        rfl⟩ := spells
      obtain ⟨fuel, rfl⟩ := Nat.exists_eq_add_of_lt enough
      have key := nextKey_member leads content
        (before ++ 0x3A :: (behind ++ (written ++ (later ++ rest))))
      simp only [List.append_assoc, List.cons_append, Document.members, toOption_bind, key,
        foldMembers, List.foldlM_cons, Option.bind_map]
      cases text? entry.1 with
      | none => rfl
      | some name =>
          simp only [Function.comp, Option.bind_some, toOption_bind,
            reads state name entry.2 before behind written _ blank gap spelled further.ends]
          cases step state name entry.2 with
          | none => rfl
          | some next =>
              have fewer : members.length < (entry :: members).length + fuel := by
                simp only [List.length_cons]
                omega
              exact ih further next fewer

theorem ReadsMember.object {member : σ → String → Reader σ}
    {step : σ → String → ParseTree → Option σ} (reads : ReadsMember member step)
    {members : List (List UInt8 × ParseTree)} {body : List UInt8}
    (spells : SpellsMembers true members body) (start : σ) (rest : List UInt8) :
    (Document.object member start (body ++ rest)).toOption =
      (foldMembers step start members).map fun final => (final, rest) := by
  have enough : members.length < (body ++ rest).length + 1 := by
    have shorter := spells.length_lt
    simp only [List.length_append]
    omega
  exact members_spelled reads spells start enough rest

theorem bagMember_reads {value : Reader Json} {meaning : ParseTree → Option Json}
    (reads : Reads value meaning) : ReadsMember (bagMember value) (putMember meaning) := by
  intro bag key tree before behind text rest blank gap spells ends
  simp only [bagMember, colon_written blank, toOption_bind, toOption_ok, Option.bind_some,
    reads tree behind text rest gap spells ends, putMember]
  cases meaning tree <;> rfl

theorem tableMember_reads {value : Reader Datum} {meaning : ParseTree → Option Datum}
    (reads : Reads value meaning) :
    ReadsMember
      (fun (entries : List (String × Datum)) key bytes => do
        let (found, rest) ← colon bytes >>= value
        .ok (entries ++ [(key, found)], rest))
      (fun entries key tree => (meaning tree).map fun found => entries ++ [(key, found)]) := by
  intro entries key tree before behind text rest blank gap spells ends
  simp only [colon_written blank, toOption_bind, toOption_ok, Option.bind_some,
    reads tree behind text rest gap spells ends]
  cases meaning tree <;> rfl

theorem memberValue_reads {value : Kind → Reader Datum} {meaning : Kind → ParseTree → Option Datum}
    (member : Member Kind) (reads : Reads (value member.kind) (meaning member.kind)) :
    Reads (memberValue member.presence (value member.kind)) (memberDatum? meaning member) := by
  intro tree gap text rest blank spells ends
  obtain ⟨b, bytes, rfl, visible, _, _, null⟩ := spells.head
  have read : (value member.kind (b :: (bytes ++ rest))).toOption =
      (meaning member.kind tree).map fun found => (found, rest) :=
    reads tree [] (b :: bytes) rest Blank.nil spells ends
  have skipped : skipBlanks (gap ++ (b :: bytes ++ rest)) = b :: (bytes ++ rest) := by
    rw [skipBlanks_append blank, List.cons_append, skipBlanks_cons visible]
  unfold memberValue
  rw [skipped]
  split
  next lenient same =>
    obtain ⟨rfl, rfl⟩ := List.cons.inj same
    obtain rfl := null.1 rfl
    obtain ⟨_, rfl⟩ := List.cons.inj spells
    simp [memberDatum?, lenient, word_append]
  next plain =>
    have other : tree = .null → member.presence ≠ .lenient := by
      intro isNull lenient
      exact plain _ lenient (by rw [null.2 isNull])
    cases tree with
    | null => simp [memberDatum?, other rfl, read, Function.comp_def]
    | _ => simp [memberDatum?, read, Function.comp_def]

theorem recordMember_reads {value : Kind → Reader Datum}
    {meaning : Kind → ParseTree → Option Datum} (reads : ∀ kind, Reads (value kind) (meaning kind))
    (known : List (Member Kind)) :
    ReadsMember (recordMember value known) (gather meaning known) := by
  intro gathered key tree before behind text rest blank gap spells ends
  unfold recordMember gather
  cases known.find? (·.key = key) with
  | none =>
      simp [colon_written blank, skipValue_spelled gap spells ends]
  | some member =>
      have read := memberValue_reads member (reads member.kind) tree behind text rest gap spells
        ends
      by_cases repeated : (gathered.lookup key).isSome = true
      · simp [repeated]
      · simp only [if_neg repeated, colon_written blank, toOption_bind, toOption_ok,
          Option.bind_some, read]
        cases memberDatum? meaning member tree <;> rfl

/-! Values. -/

theorem json_reads (nesting : Nat) : Reads (json nesting) (json? nesting) := by
  induction nesting using Nat.strongRecOn with
  | ind nesting ih =>
      intro tree gap text rest blank spells ends
      cases tree with
      | null =>
          obtain rfl := spells
          simp [json, skipBlanks_append blank, skipBlanks_cons, show isBlank 0x6E = false by decide,
            word_append, json?]
      | bool value =>
          cases value with
          | true =>
              obtain rfl := spells
              simp [json, skipBlanks_append blank, skipBlanks_cons,
                show isBlank 0x74 = false by decide, word_append, json?]
          | false =>
              obtain rfl := spells
              simp [json, skipBlanks_append blank, skipBlanks_cons,
                show isBlank 0x66 = false by decide, word_append, json?]
      | number written =>
          obtain ⟨valid, rfl⟩ := spells
          obtain ⟨b, bytes, rfl, ⟨rfl, read⟩ | ⟨digit, read⟩⟩ := number_written valid
          · simp [json, skipBlanks_append blank, skipBlanks_cons,
              show isBlank 0x2D = false by decide, read rest ends, json?, Function.comp_def]
          · obtain ⟨visible, _, _, n, t, f, minus, _⟩ := visible_of_isDigit digit
            simp [json, skipBlanks_append blank, skipBlanks_cons visible, n, t, f, minus, digit,
              read rest ends, json?, Function.comp_def]
      | string written =>
          obtain ⟨content, rfl⟩ := spells
          simp [json, skipBlanks_append blank, skipBlanks_cons, show isBlank 0x22 = false by decide,
            show isDigit 0x22 = false by decide, string_written content, json?, Function.comp_def]
      | array items =>
          obtain ⟨body, spelled, rfl⟩ := spells
          cases nesting with
          | zero =>
              simp [json, skipBlanks_append blank, skipBlanks_cons,
                show isBlank 0x5B = false by decide, show isDigit 0x5B = false by decide, json?]
          | succ nesting =>
              simp [json, skipBlanks_append blank, skipBlanks_cons,
                show isBlank 0x5B = false by decide, show isDigit 0x5B = false by decide, json?,
                (ih nesting (by omega)).array spelled, Function.comp_def]
      | object members =>
          obtain ⟨body, spelled, rfl⟩ := spells
          cases nesting with
          | zero =>
              simp [json, skipBlanks_append blank, skipBlanks_cons,
                show isBlank 0x7B = false by decide, show isDigit 0x7B = false by decide, json?]
          | succ nesting =>
              simp [json, skipBlanks_append blank, skipBlanks_cons,
                show isBlank 0x7B = false by decide, show isDigit 0x7B = false by decide, json?,
                (bagMember_reads (ih nesting (by omega))).object spelled, Function.comp_def]

theorem name_written {written : List UInt8} (content : Content written) (known : List String)
    (rest : List UInt8) :
    (name known (written ++ 0x22 :: rest)).toOption =
      (name? known written).map fun found => (found, rest) := by
  simp only [name, toOption_bind, string_written content, name?]
  cases text? written with
  | none => rfl
  | some found =>
      simp only [Option.map_some, Option.bind_some]
      split <;> rfl

theorem scalar_integer {b : UInt8} {bytes rest : List UInt8} {found : Option Number}
    (numeric : b = 0x2D ∨ isDigit b = true)
    (read : (if b = 0x2D then number true bytes else number false (b :: bytes)).toOption =
      found.map fun n => (n, rest)) :
    (scalar .integer (b :: bytes)).toOption =
      ((found.bind integer?).map .integer).map fun datum => (datum, rest) := by
  simp only [scalar, if_pos numeric]
  split at read
  all_goals
    next sign =>
      simp only [sign, reduceIte, toOption_bind, read]
      cases found with
      | none => rfl
      | some n =>
          cases n with
          | real value => rfl
          | whole value => cases fits : value.toInt64? <;> simp [integer?, fits]

theorem scalar_reads {tree : ParseTree} {text rest : List UInt8} (kind : Kind)
    (spells : tree.Spells text) (ends : Ends rest) :
    (scalar kind (text ++ rest)).toOption =
      (scalar? kind tree).map fun found => (found, rest) := by
  cases tree with
  | null =>
      obtain rfl := spells
      cases kind <;> simp [scalar, scalar?, show isDigit 0x6E = false by decide]
  | bool value =>
      cases value with
      | true =>
          obtain rfl := spells
          cases kind <;> simp [scalar, scalar?, show isDigit 0x74 = false by decide, word_append]
      | false =>
          obtain rfl := spells
          cases kind <;> simp [scalar, scalar?, show isDigit 0x66 = false by decide, word_append]
  | number written =>
      obtain ⟨valid, rfl⟩ := spells
      obtain ⟨b, bytes, rfl, ⟨rfl, read⟩ | ⟨digit, read⟩⟩ := number_written valid
      · cases kind with
        | integer => exact scalar_integer (Or.inl rfl) (by simpa using read rest ends)
        | _ => simp [scalar, scalar?]
      · obtain ⟨_, _, _, _, t, f, minus, quote, _⟩ := visible_of_isDigit digit
        cases kind with
        | integer => exact scalar_integer (Or.inr digit) (by simpa [minus] using read rest ends)
        | _ => simp [scalar, scalar?, t, f, quote]
  | string written =>
      obtain ⟨content, rfl⟩ := spells
      cases kind <;>
        simp [scalar, scalar?, show isDigit 0x22 = false by decide, string_written content,
          name_written content, Function.comp_def]
  | array items =>
      obtain ⟨body, _, rfl⟩ := spells
      cases kind <;> simp [scalar, scalar?, show isDigit 0x5B = false by decide]
  | object members =>
      obtain ⟨body, _, rfl⟩ := spells
      cases kind <;> simp [scalar, scalar?, show isDigit 0x7B = false by decide]

/-- An array that has more elements than it may is not closed where it should be. -/
theorem closeArray_spelled {first : Bool} {items : List ParseTree} {text : List UInt8}
    (spells : SpellsItems first items text) (rest : List UInt8) :
    (closeArray (text ++ rest)).toOption = if items = [] then some rest else none := by
  cases items with
  | nil =>
      obtain ⟨gap, blank, rfl⟩ := spells
      have bracket : skipBlanks (0x5D :: rest) = 0x5D :: rest := skipBlanks_cons (by decide) rest
      simp [closeArray, skipBlanks_append blank, bracket]
  | cons item items =>
      obtain ⟨lead, written, later, leads, spelled, _, rfl⟩ := spells
      obtain ⟨b, bytes, rfl, visible, open_, _⟩ := spelled.head
      cases first with
      | true =>
          simp only [closeArray, skipBlanks_append leads, skipBlanks_cons visible, open_,
            List.append_assoc, List.cons_append, if_false]
          split
          · split <;> rfl
          · rfl
      | false =>
          obtain ⟨before, behind, blank, gap, rfl⟩ := leads
          have comma (later : List UInt8) : skipBlanks (0x2C :: later) = 0x2C :: later :=
            skipBlanks_cons (by decide) later
          simp [closeArray, skipBlanks_append blank, comma, skipBlanks_append gap,
            skipBlanks_cons visible, open_]

theorem positional_spelled {value : Kind → Reader Datum}
    {meaning : Kind → ParseTree → Option Datum} (reads : ∀ kind, Reads (value kind) (meaning kind))
    (label : String) (total : Nat) {known : List (Member Kind)} {items : List ParseTree}
    {text : List UInt8} {count : Nat} (spells : SpellsItems (decide (count = 0)) items text)
    (rest : List UInt8) :
    (positional value label total count known (text ++ rest)).toOption =
      (positional? meaning known items).map fun values => (values, rest) := by
  induction known generalizing items text count with
  | nil =>
      cases items with
      | nil => simp [positional, closeArray_spelled spells, positional?]
      | cons item items => simp [positional, closeArray_spelled spells, positional?]
  | cons member known ih =>
      cases items with
      | nil =>
          obtain ⟨gap, blank, rfl⟩ := spells
          have wanted := @List.findIdx?_isSome _ (member :: known)
            fun member => decide (member.presence = .required)
          simp only [List.append_assoc, List.singleton_append, positional, nextElement_close blank,
            toOption_bind, toOption_ok, Option.bind_some, Bool.false_eq_true, if_false, positional?,
            ← wanted]
          split
          next index found => simp [found]
          next found => simp [found]
      | cons tree items =>
          obtain ⟨lead, written, later, leads, spelled, further, rfl⟩ := spells
          obtain ⟨b, bytes, same, visible, open_, _⟩ := spelled.head
          have step : nextElement (decide (count = 0)) (lead ++ (written ++ (later ++ rest))) =
              .ok (true, written ++ (later ++ rest)) := by
            rw [same, List.cons_append]
            exact nextElement_item leads visible open_
          have read := memberValue_reads member (reads member.kind) tree [] written (later ++ rest)
            Blank.nil spelled further.ends
          have onwards := @ih items later (count + 1) (by simpa using further)
          rw [List.nil_append] at read
          simp only [List.append_assoc, positional, toOption_bind, step, toOption_ok,
            Option.bind_some, if_true, read, Option.bind_map, positional?]
          cases memberDatum? meaning member tree with
          | none => rfl
          | some found =>
              simp only [Function.comp, Option.bind_some, onwards]
              cases positional? meaning known items <;> rfl

theorem nameObject_spelled {known : List String} {members : List (List UInt8 × ParseTree)}
    {body : List UInt8} (spells : SpellsMembers true members body) (rest : List UInt8) :
    (nameObject known (body ++ rest)).toOption =
      (nameObject? known members).map fun found => (found, rest) := by
  cases members with
  | nil =>
      obtain ⟨gap, blank, rfl⟩ := spells
      have brace : skipBlanks (0x7D :: rest) = 0x7D :: rest := skipBlanks_cons (by decide) rest
      simp [nameObject, skipBlanks_append blank, brace, nameObject?]
  | cons member members =>
      obtain ⟨key, tree⟩ := member
      obtain ⟨lead, before, behind, written, later, leads, content, blank, gap, spelled, further,
        rfl⟩ := spells
      have quote (bytes : List UInt8) : skipBlanks (lead ++ 0x22 :: bytes) = 0x22 :: bytes :=
        skipBlanks_gap leads (by decide) _
      have named := name_written content known
        (before ++ 0x3A :: (behind ++ (written ++ (later ++ rest))))
      simp only [List.append_assoc, List.cons_append, nameObject, quote, toOption_bind, named,
        Option.bind_map, Function.comp_def, colon_written blank, toOption_ok, Option.bind_some,
        skipBlanks_append gap]
      by_cases null : tree = .null
      · subst null
        obtain rfl := spelled
        simp only [List.cons_append, skipBlanks_cons (show isBlank 0x6E = false by decide),
          toOption_bind, word_append, toOption_ok, Option.bind_some]
        cases members with
        | nil =>
            obtain ⟨gap, blank, rfl⟩ := further
            have brace : skipBlanks (0x7D :: rest) = 0x7D :: rest :=
              skipBlanks_cons (by decide) rest
            simp only [List.append_assoc, List.singleton_append, skipBlanks_append blank, brace,
              nameObject?]
            cases name? known key <;> rfl
        | cons member members =>
            obtain ⟨_, _, _, _, _, ⟨front, back, blank, _, rfl⟩, _, _, _, _, _, rfl⟩ := further
            have comma (bytes : List UInt8) : skipBlanks (0x2C :: bytes) = 0x2C :: bytes :=
              skipBlanks_cons (by decide) bytes
            simp only [List.append_assoc, List.cons_append, skipBlanks_append blank, comma,
              nameObject?]
            cases name? known key <;> rfl
      · obtain ⟨b, bytes, rfl, visible, _, _, isNull⟩ := spelled.head
        have other : b ≠ 0x6E := fun same => null (isNull.1 same)
        simp [skipBlanks_cons visible, other, nameObject?, null]

theorem bracketed_array {value : Kind → Reader Datum} {json : Reader Json}
    {meaning : Kind → ParseTree → Option Datum} {open_ : ParseTree → Option Json}
    (reads : ∀ kind, Reads (value kind) (meaning kind))
    {items : List ParseTree} {body : List UInt8} (spells : SpellsItems true items body)
    {kind : Kind} (opened : opens kind 0x5B = true) (rest : List UInt8) :
    (bracketed value json kind (0x5B :: (body ++ rest))).toOption =
      (bracketed? meaning open_ kind (.array items)).map fun found => (found, rest) := by
  cases kind with
  | list item => simp [bracketed, bracketed?, (reads item).array spells, Function.comp_def]
  | record label known =>
      have read := @positional_spelled _ _ reads label known.length known items body 0 spells rest
      simp [bracketed, bracketed?, Function.comp_def, read]
  | _ => simp [opens] at opened

theorem bracketed_object {value : Kind → Reader Datum} {json : Reader Json}
    {meaning : Kind → ParseTree → Option Datum} {open_ : ParseTree → Option Json}
    (reads : ∀ kind, Reads (value kind) (meaning kind)) (readsJson : Reads json open_)
    {members : List (List UInt8 × ParseTree)} {body : List UInt8}
    (spells : SpellsMembers true members body)
    {kind : Kind} (opened : opens kind 0x7B = true) (rest : List UInt8) :
    (bracketed value json kind (0x7B :: (body ++ rest))).toOption =
      (bracketed? meaning open_ kind (.object members)).map fun found => (found, rest) := by
  cases kind with
  | table item =>
      have read := (tableMember_reads (reads item)).object spells [] rest
      simp only [bracketed, bracketed?, toOption_map, read, Option.map_map, Function.comp_def]
  | bag =>
      simp [bracketed, bracketed?, (bagMember_reads readsJson).object spells, Function.comp_def]
  | record label known =>
      simp only [bracketed, toOption_bind, (recordMember_reads reads known).object spells [] rest,
        bracketed?, Option.bind_map]
      cases foldMembers (gather meaning known) [] members with
      | none => rfl
      | some gathered =>
          simp only [Function.comp, Option.bind_some]
          cases arrange known gathered <;> rfl
  | choice known =>
      simp [bracketed, bracketed?, nameObject_spelled spells, Function.comp_def]
  | _ => simp [opens] at opened

theorem value_head {kind : Kind} (other : kind ≠ .json) (nesting : Nat) {gap : List UInt8}
    (blank : Blank gap) {b : UInt8} (visible : isBlank b = false) (bytes : List UInt8) :
    value nesting kind (gap ++ b :: bytes) =
      if opens kind b then
        match nesting with
        | 0 => .error (.next .nestedTooDeep (b :: bytes))
        | nesting + 1 => bracketed (value nesting) (json nesting) kind (b :: bytes)
      else scalar kind (b :: bytes) := by
  have skipped : skipBlanks (gap ++ b :: bytes) = b :: bytes :=
    skipBlanks_gap blank visible _
  unfold value
  generalize skipBlanks (gap ++ b :: bytes) = left at skipped
  subst skipped
  cases kind with
  | json => contradiction
  | _ => cases nesting <;> rfl

/-- Only arrays and objects begin with an opening bracket. -/
theorem opened_spells {tree : ParseTree} {b : UInt8} {bytes : List UInt8} {kind : Kind}
    (spells : tree.Spells (b :: bytes)) (opened : opens kind b = true) :
    (b = 0x5B ∧ ∃ items, tree = .array items ∧ SpellsItems true items bytes) ∨
      (b = 0x7B ∧ ∃ members, tree = .object members ∧ SpellsMembers true members bytes) := by
  have bracket : b = 0x5B ∨ b = 0x7B := by
    cases kind <;> simp_all [opens]
  cases tree with
  | null => simp_all [Spells]
  | bool value => cases value <;> simp_all [Spells]
  | number written =>
      obtain ⟨valid, rfl⟩ := spells
      obtain ⟨c, later, same, ⟨rfl, _⟩ | ⟨digit, _⟩⟩ := number_written valid
      · simp_all
      · have visible := visible_of_isDigit digit
        simp_all
  | string written => simp_all [Spells]
  | array items => simp_all [Spells]
  | object members => simp_all [Spells]

theorem datum?_eq_scalar? {tree : ParseTree} {b : UInt8} {bytes : List UInt8} {kind : Kind}
    (other : kind ≠ .json) (spells : tree.Spells (b :: bytes)) (closed : opens kind b = false)
    (nesting : Nat) : tree.datum? nesting kind = scalar? kind tree := by
  cases nesting <;> cases kind <;> cases tree <;>
    simp_all [datum?, bracketed?, opens, Spells]

theorem value_reads (nesting : Nat) (kind : Kind) :
    Reads (value nesting kind) (datum? nesting kind) := by
  induction nesting using Nat.strongRecOn generalizing kind with
  | ind nesting ih =>
      intro tree gap text rest blank spells ends
      obtain ⟨b, bytes, rfl, visible, _⟩ := spells.head
      by_cases other : kind = .json
      · subst other
        have read : (json nesting (b :: (bytes ++ rest))).toOption =
            (json? nesting tree).map fun found => (found, rest) :=
          json_reads nesting tree [] _ rest Blank.nil spells ends
        simp [value, skipBlanks_append blank, skipBlanks_cons visible, read, datum?,
          Function.comp_def]
      rw [List.cons_append, value_head other nesting blank visible]
      by_cases opened : opens kind b = true
      · rw [if_pos opened]
        cases nesting with
        | zero =>
            obtain ⟨rfl, items, rfl, _⟩ | ⟨rfl, members, rfl, _⟩ := opened_spells spells opened
            · cases kind <;> simp_all [opens, datum?, scalar?]
            · cases kind <;> simp_all [opens, datum?, scalar?]
        | succ nesting =>
            have inner := ih nesting (by omega)
            rw [datum?_succ other]
            obtain ⟨rfl, items, rfl, spelled⟩ | ⟨rfl, members, rfl, spelled⟩ :=
              opened_spells spells opened
            · exact bracketed_array inner spelled opened rest
            · exact bracketed_object inner (json_reads nesting) spelled opened rest
      · have closed : opens kind b = false := by simpa using opened
        rw [if_neg opened, datum?_eq_scalar? other spells closed]
        exact scalar_reads kind spells ends

/-- A document that spells a tree is accepted exactly if the tree has a datum of its kind. -/
theorem read_spelled {tree : ParseTree} {before text behind : List UInt8} (kind : Kind)
    (blank : Blank before) (spells : tree.Spells text) (trailing : Blank behind) :
    (read kind (before ++ (text ++ behind))).toOption = tree.datum? nestingLimit kind := by
  have ends : Ends behind := by
    simpa using Ends.blank_append trailing Ends.nil
  have nothing : skipBlanks behind = [] := by
    simpa [skipBlanks] using skipBlanks_append trailing []
  simp only [read, toOption_mapError, toOption_bind,
    value_reads nestingLimit kind tree before text behind blank spells ends, Option.bind_map,
    Function.comp_def, nothing]
  cases tree.datum? nestingLimit kind <;> rfl

theorem read_document {tree : ParseTree} {document : List UInt8} (kind : Kind)
    (spells : tree.SpellsDocument document) :
    (read kind document).toOption = tree.datum? nestingLimit kind := by
  obtain ⟨before, text, behind, blank, spelled, trailing, rfl⟩ := spells
  exact read_spelled kind blank spelled trailing

end CatalogSeed.Document
