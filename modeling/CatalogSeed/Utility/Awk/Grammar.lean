import CatalogSeed.Utility.Awk.Expressions

/-!
Reading programs over records: statements, rules and functions.
-/

namespace CatalogSeed.Utility.Awk

open Awk.Parser

/-- The parts of a list that is printed; parentheses around all of it do not count. -/
def printed : List Expression → List Expression
  | [.grouped items] => items
  | items => items

/-- Reads the values of a print statement. -/
def printedValues : Nat → Nat → Parser (List Expression)
  | 0, _ => fail
  | turns + 1, fuel => do
      let first ← expression fuel ⟨false, true⟩
      if ← takes "," then
        skipLines
        return first :: (← printedValues turns fuel)
      else return [first]

/-- Reads a statement that is not made of others. -/
def simpleStatement (fuel : Nat) (asks : Bool) : Parser Statement := do
  let value : Parser (Option Expression) := do
    match ← peek? with
    | none | some .lineEnd | some (.sign ";") | some (.sign "\x7d") => return none
    | _ => return some (← expression fuel inside)
  let print (formatted : Bool) : Parser Statement := do
    skip
    let values ← match ← peek? with
      | none | some .lineEnd => pure []
      | some (.sign t) =>
          if [";", "\x7d", ">", ">>", "|"].contains t then pure [] else printedValues fuel fuel
      | _ => printedValues fuel fuel
    match ← peek? with
    | some (.sign t) =>
        if [">", ">>", "|"].contains t then
          skip
          return .print formatted (printed values) (some (t, ← expression fuel ⟨false, true⟩))
        else return .print formatted (printed values) none
    | _ => return .print formatted (printed values) none
  match ← peek? with
  | some (.word "print") => print false
  | some (.word "printf") => print true
  | some (.word "next") =>
      if (← get).scope = .edge then complain "improper use of next"
      skip
      return .nextRecord
  | some (.word "nextfile") =>
      if (← get).scope = .edge then complain "improper use of nextfile"
      skip
      return .nextFile
  | some (.word "break") =>
      skip
      return .leaveLoop
  | some (.word "continue") =>
      skip
      return .nextTurn
  | some (.word "exit") =>
      skip
      return .exit (← value)
  | some (.word "return") =>
      unless (← get).scope = .function do complain "return outside function body"
      skip
      return .answer (← value)
  | some (.word "delete") =>
      skip
      let name ← takeName
      if ← takes "[" then return .delete name (← expressions fuel "]") else return .delete name []
  | _ => return .simple (← expression fuel ⟨true, asks⟩)

/-- Whether `for` goes over the elements of a table here: the names of both. -/
def eachOf? : Parser (Option (String × String)) := fun reader =>
  match reader.rest.take 4 |>.map Prod.fst with
  | [.name name, .word "in", .name table, .sign ")"] =>
      .ok (some (name, table), { reader with rest := reader.rest.drop 4 })
  | _ => .ok (none, reader)

mutual

/-- Reads a statement. -/
def statement : Nat → Parser Statement
  | 0 => fail
  | fuel + 1 => do
      let condition : Parser Expression := do
        expect "("
        let test ← expression (fuel + 1) inside
        expect ")"
        skipLines
        return test
      let ended (what : Statement) : Parser Statement := do
        endStatement
        return what
      match ← peek? with
      | some (.sign "\x7b") => block fuel
      | some (.sign ";") =>
          skip
          skipLines
          return .block []
      | some (.word "if") =>
          skip
          let test ← condition
          let whenTrue ← statement fuel
          skipLines
          if ← seesWord "else" then
            skip
            skipLines
            return .choose test whenTrue (← statement fuel)
          else return .choose test whenTrue (.block [])
      | some (.word "while") =>
          skip
          let test ← condition
          return .loop test (← statement fuel)
      | some (.word "do") =>
          skip
          skipLines
          let body ← statement fuel
          skipLines
          unless ← seesWord "while" do fail
          skip
          expect "("
          let test ← expression (fuel + 1) inside
          expect ")"
          ended (.loopAfter body test)
      | some (.word "for") =>
          skip
          expect "("
          match ← eachOf? with
          | some (name, table) =>
              skipLines
              return .each name table (← statement fuel)
          | none =>
              let nothing : Statement := .block []
              let start ← if ← sees ";" then pure nothing else simpleStatement (fuel + 1) true
              expect ";"
              skipLines
              let test ← if ← sees ";" then pure none
                else (some <$> expression (fuel + 1) inside)
              expect ";"
              skipLines
              let step ← if ← sees ")" then pure nothing else simpleStatement (fuel + 1) true
              expect ")"
              skipLines
              return .count start test step (← statement fuel)
      | _ => ended (← simpleStatement (fuel + 1) true)

/-- Reads a block. -/
def block : Nat → Parser Statement
  | 0 => fail
  | fuel + 1 => do
      expect "\x7b"
      skipLines
      let body ← statements fuel
      let _ ← takes ";"
      return .block body

/-- Reads statements up to a closing brace. -/
def statements : Nat → Parser (List Statement)
  | 0 => fail
  | fuel + 1 => do
      skipLines
      if ← takes "\x7d" then return []
      let first ← statement fuel
      return first :: (← statements fuel)

end

/-- Reads the names of parameters up to the closing parenthesis. -/
def parameters : Nat → Parser (List String)
  | 0 => fail
  | turns + 1 => do
      skipLines
      if ← takes ")" then return []
      let name ← takeName
      skipLines
      if ← takes "," then return name :: (← parameters turns)
      else
        expect ")"
        return [name]

/-- Reads rules and functions up to the end. -/
def items (fuel : Nat) : Nat → Program → Parser Program
  | 0, program => return program
  | turns + 1, program => do
      skipLines
      let body (scope : Scope) : Parser Statement := do
        modify fun reader => { reader with scope }
        block fuel
      let action? (scope : Scope) : Parser (Option Statement) := do
        if ← sees "\x7b" then return some (← body scope) else return none
      let add (scope : Scope) (pattern : Pattern) : Parser Program := do
        let rule : Rule := ⟨pattern, ← action? scope⟩
        items fuel turns { program with rules := program.rules ++ [rule] }
      match ← peek? with
      | none => return program
      | some (.sign ";") =>
          skip
          items fuel turns program
      | some (.sign "\x7d") => do
        let line := decimal (← get).lastLine
        complain ("extra '\x7d'\nawk: line " ++ line ++ ": syntax error at or near end of line")
      | some (.word "function") =>
          skip
          let name ← takeName
          expect "("
          let names ← parameters fuel
          skipLines
          let function : Function := ⟨name, names, ← body .function⟩
          items fuel turns { program with functions := program.functions ++ [function] }
      | some (.word "BEGIN") =>
          skip
          unless ← sees "\x7b" do fail
          add .edge .start
      | some (.word "END") =>
          skip
          unless ← sees "\x7b" do fail
          add .edge .finish
      | some (.sign "\x7b") => add .record .always
      | _ =>
          let first ← expression fuel inside
          if ← takes "," then
            skipLines
            add .record (.between first (← expression fuel inside))
          else add .record (.when first)

/-- Reads a program; every function that it calls has to be one of its own. -/
def parseProgram (text : List Char) : Except String Program := do
  let tokens ← readTokens (text.length + 1) 1 text []
  let lines := text.count '\n' + 1
  let fuel := 40 * tokens.length + 100
  let (program, reader) ← (items fuel (tokens.length + 1) ⟨[], []⟩).run ⟨tokens, lines, [], .record⟩
  match reader.called.find? fun name => !program.functions.any (·.name = name) with
  | some name =>
      .error ("line " ++ decimal (lines + 1) ++ ": function " ++ name ++ " never defined")
  | none => .ok program

end CatalogSeed.Utility.Awk
