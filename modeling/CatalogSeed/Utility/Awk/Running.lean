import CatalogSeed.Utility.Awk.Builtin

/-!
Running programs over records.
-/

namespace CatalogSeed.Utility.Awk

/-- Something that a value can be given to. -/
inductive Target
  | name (name : String)
  | field (number : Nat)
  | element (table : Nat) (key : String)

namespace Target

def value : Target → Action Value
  | name n => Action.name n
  | field number => Action.field number
  | element table key => Action.element table key

def set (given : Value) : Target → Action Unit
  | name n => Action.setName n given
  | field number => Action.setField number given
  | element table key => Action.setElement table key given

end Target

/-- Numbers compare as numbers, and everything else as texts. -/
def compares (operator : String) (left right : Value) : Action Bool := do
  match left.plainNumber?, right.plainNumber? with
  | some a, some b =>
      return match operator with
        | "<" => a < b
        | "<=" => a ≤ b
        | "==" => a == b
        | "!=" => a != b
        | ">" => b < a
        | _ => b ≤ a
  | _, _ =>
      let a ← Action.textOf left
      let b ← Action.textOf right
      return match operator with
        | "<" => a < b
        | "<=" => !(b < a)
        | "==" => a = b
        | "!=" => a ≠ b
        | ">" => b < a
        | _ => !(a < b)

/-- How often a loop turns. -/
def mostTurns : Nat := 10000000

/-- Does something as long as a test holds. -/
def turn (test : Action Bool) (body : Action Unit) : Nat → Action Unit
  | 0 => return
  | turns + 1 => do
      if ← test then
        body
        turn test body turns
      else return

/-- The body of a loop, which may go on with the next turn. -/
def turning (body : Action Unit) : Action Unit :=
  tryCatch body fun
    | .nextTurn => return
    | stop => throw stop

/-- A loop, which may be left. -/
def leaving (loop : Action Unit) : Action Unit :=
  tryCatch loop fun
    | .leaveLoop => return
    | stop => throw stop

/-- A value that is printed as it is, not filled into a format. -/
def printedText (value : Value) : Action String := do
  match value with
  | .number n => return numberText ((← Action.global "OFMT").toText "") n
  | value => Action.textOf value

/-- Reads a record on its own. The answer is one, zero at the end, and less if there is nothing to
read from. -/
def fromChannel (channel : Channel) (keep : String → Action Unit) : Action Value := do
  match ← Action.nextRecordOf channel with
  | .ok (some text) =>
      keep text
      return .number 1
  | .ok none => return .number 0
  | .error () => return .number (-1)

mutual

/-- The value of an expression. -/
def evaluate (program : Program) : Nat → Expression → Action Value
  | 0, _ => Action.fail "function call nesting too deep"
  | fuel + 1, expression => do
      match expression with
      | .number value => return .number value
      | .text value => return .text value
      | .regex text =>
          let record ← Action.textOf (← get).record
          let regex ← Action.regex text
          return .ofBool (regex.find? (subjectOf record.toList) 0).isSome
      | .name name => Action.name name
      | .element _ _ | .field _ => (← resolve program fuel expression).value
      | .assign target operator value =>
          let target ← resolve program fuel target
          let value ← evaluate program fuel value
          let value ← match operator with
            | none => pure value
            | some sign =>
                pure (.number (arithmetic sign (← target.value).toNumber value.toNumber))
          target.set value
          return value
      | .count target up before =>
          let target ← resolve program fuel target
          let old := (← target.value).toNumber
          let new := if up then old + 1 else old - 1
          target.set (.number new)
          return .number (if before then new else old)
      | .choose test whenTrue whenFalse =>
          if (← evaluate program fuel test).isTrue then evaluate program fuel whenTrue
          else evaluate program fuel whenFalse
      | .both left right =>
          if (← evaluate program fuel left).isTrue then
            return .ofBool (← evaluate program fuel right).isTrue
          else return .ofBool false
      | .either left right =>
          if (← evaluate program fuel left).isTrue then return .ofBool true
          else return .ofBool (← evaluate program fuel right).isTrue
      | .isIn keys table =>
          let key ← keyOf program fuel keys
          let entries ← Action.entries (← Action.table table)
          return .ofBool (entries.lookup key).isSome
      | .fits negated value pattern =>
          let text ← Action.textOf (← evaluate program fuel value)
          let regex ← regexFrom program fuel pattern
          return .ofBool ((regex.find? (subjectOf text.toList) 0).isSome != negated)
      | .compare operator left right =>
          let left ← evaluate program fuel left
          let right ← evaluate program fuel right
          return .ofBool (← compares operator left right)
      | .join left right =>
          let left ← Action.textOf (← evaluate program fuel left)
          let right ← Action.textOf (← evaluate program fuel right)
          return .text (left ++ right)
      | .arithmetic operator left right =>
          let left := (← evaluate program fuel left).toNumber
          let right := (← evaluate program fuel right).toNumber
          return .number (arithmetic operator left right)
      | .sign negative value =>
          let number := (← evaluate program fuel value).toNumber
          return .number (if negative then -number else number)
      | .not value => return .ofBool !(← evaluate program fuel value).isTrue
      | .call name arguments => call program fuel name arguments
      | .builtin name arguments => builtin program fuel name arguments
      | .readLine target source =>
          let keep (text : String) : Action Unit := do
            match target with
            | some target => (← resolve program fuel target).set (.ofInput text)
            | none => Action.setRecord text
          match source with
          | none =>
              match ← Action.nextRecord mostTurns with
              | some text =>
                  keep text
                  return .number 1
              | none => return .number 0
          | some source =>
              let file ← Action.textOf (← evaluate program fuel source)
              fromChannel ⟨false, file⟩ keep
      | .readAnswer target command =>
          let command ← Action.textOf (← evaluate program fuel command)
          let target ← target.mapM (resolve program fuel)
          fromChannel ⟨true, command⟩ fun text => do
            for name in ["NR", "FNR"] do
              Action.setGlobal name (.number ((← Action.global name).toNumber + 1))
            match target with
            | some target => target.set (.ofInput text)
            | none => Action.setRecord text
      | .grouped items => return .text (← keyOf program fuel items)

/-- The key that values make together. -/
def keyOf (program : Program) : Nat → List Expression → Action String
  | 0, _ => return ""
  | fuel + 1, keys => do
      let texts ← keys.mapM fun key => do Action.textOf (← evaluate program fuel key)
      return (← Action.globalText "SUBSEP").intercalate texts

/-- What an expression stands for on the left of an assignment. -/
def resolve (program : Program) : Nat → Expression → Action Target
  | 0, _ => Action.fail "function call nesting too deep"
  | fuel + 1, expression => do
      match expression with
      | .name name => return .name name
      | .element table keys =>
          let key ← keyOf program fuel keys
          return .element (← Action.table table) key
      | .field index => return .field (← Action.fieldNumber (← evaluate program fuel index))
      | _ => return .name "_"

/-- The expression that a value is searched for. -/
def regexFrom (program : Program) : Nat → Expression → Action Regex
  | 0, _ => Action.fail "function call nesting too deep"
  | fuel + 1, expression => do
      match expression with
      | .regex text => Action.regex text
      | other => Action.regex (← Action.textOf (← evaluate program fuel other))

/-- Calls a function of the program. A name without a value may be used as a table there. -/
def call (program : Program) : Nat → String → List Expression → Action Value
  | 0, _, _ => Action.fail "function call nesting too deep"
  | fuel + 1, name, arguments => do
      let some function := program.functions.find? (·.name = name)
        | Action.fail ("function " ++ name ++ " never defined")
      let cells ← arguments.mapM fun argument => do
        match argument with
        | .name name =>
            match ← Action.name name with
            | .unset => return Cell.table (← Action.table name)
            | value => return Cell.value value
        | other => return Cell.value (← evaluate program fuel other)
      let given := cells ++
        List.replicate (function.parameters.length - cells.length) (Cell.value .unset)
      let outer := (← get).locals
      modify fun state => { state with locals := function.parameters.zip given }
      let answer ← tryCatch (do
          execute program fuel function.body
          return Value.unset)
        fun
          | .answer value => return value
          | stop => throw stop
      modify fun state => { state with locals := outer }
      return answer

/-- Calls a function that needs no definition. -/
def builtin (program : Program) : Nat → String → List Expression → Action Value
  | 0, _, _ => Action.fail "function call nesting too deep"
  | fuel + 1, name, arguments => do
      match name, arguments with
      | "length", [] => return .ofNat (← Action.textOf (← get).record).length
      | "length", [.name name] =>
          match ← Action.name name with
          | .unset => return .ofNat (← Action.entries (← Action.table name)).length
          | value => return .ofNat (← Action.textOf value).length
      | "length", value :: _ =>
          return .ofNat (← Action.textOf (← evaluate program fuel value)).length
      | "match", value :: pattern :: _ =>
          let text ← Action.textOf (← evaluate program fuel value)
          Action.find text (← regexFrom program fuel pattern)
      | "split", value :: .name table :: separator =>
          let text ← Action.textOf (← evaluate program fuel value)
          let separator ← match separator with
            | [] => Action.separator (← Action.globalText "FS") false
            | .regex text :: _ => pure (Separator.matching (← Action.regex text))
            | other :: _ =>
                Action.separator (← Action.textOf (← evaluate program fuel other)) false
          Action.split text (← Action.table table) separator
      | "sub", pattern :: filling :: target | "gsub", pattern :: filling :: target =>
          let regex ← regexFrom program fuel pattern
          let pieces ← Action.textOf (← evaluate program fuel filling)
          let target ← resolve program fuel (target.headD (.field (.number 0)))
          let text := (← Action.textOf (← target.value)).toList
          let (changed, count) := replaceFrom (name = "gsub") regex text pieces.toList
            (text.length + 2) 0 none
          if count ≠ 0 then target.set (.text (String.ofList changed))
          return .ofNat count
      | name, arguments =>
          Action.plainBuiltin name (← arguments.mapM fun value => evaluate program fuel value)

/-- Runs a statement. -/
def execute (program : Program) : Nat → Statement → Action Unit
  | 0, _ => Action.fail "function call nesting too deep"
  | fuel + 1, statement => do
      let holds (test : Expression) : Action Bool :=
        return (← evaluate program fuel test).isTrue
      match statement with
      | .block statements => statements.forM fun statement => execute program fuel statement
      | .choose test whenTrue whenFalse =>
          if ← holds test then execute program fuel whenTrue else execute program fuel whenFalse
      | .loop test body =>
          leaving (turn (holds test) (turning (execute program fuel body)) mostTurns)
      | .loopAfter body test =>
          let body := turning (execute program fuel body)
          leaving do
            body
            turn (holds test) body mostTurns
      | .count start test step body =>
          execute program fuel start
          let test : Action Bool := match test with
            | some test => holds test
            | none => return true
          leaving (turn test (do
            turning (execute program fuel body)
            execute program fuel step) mostTurns)
      | .each name table body =>
          let keys := keysOf (← Action.entries (← Action.table table))
          leaving (keys.forM fun key => do
            Action.setName name (.ofInput key)
            turning (execute program fuel body))
      | .print formatted values target =>
          let values ← values.mapM fun value => evaluate program fuel value
          let text ←
            if formatted then Action.sprintf values
            else
              let record := (← get).record
              let texts ← (if values.isEmpty then [record] else values).mapM printedText
              pure ((← Action.globalText "OFS").intercalate texts ++ (← Action.globalText "ORS"))
          match target with
          | none => Action.emit false text
          | some (sign, target) =>
              let file ← Action.textOf (← evaluate program fuel target)
              if sign = "|" then Action.writeCommand file text
              else Action.writeFile (sign = ">>") file text
      | .simple value =>
          let _ ← evaluate program fuel value
      | .nextRecord => throw .nextRecord
      | .nextFile => throw .nextFile
      | .exit status =>
          if let some status := status then
            let number := cutOff (← evaluate program fuel status).toNumber
            modify fun state => { state with status := (number % 256).toNat }
          throw .exit
      | .answer value =>
          match value with
          | some value => throw (.answer (← evaluate program fuel value))
          | none => throw (.answer .unset)
      | .leaveLoop => throw .leaveLoop
      | .nextTurn => throw .nextTurn
      | .delete table keys =>
          let number ← Action.table table
          if keys.isEmpty then Action.setEntries number []
          else
            let key ← keyOf program fuel keys
            Action.setEntries number ((← Action.entries number).filter (·.1 ≠ key))

end

end CatalogSeed.Utility.Awk
