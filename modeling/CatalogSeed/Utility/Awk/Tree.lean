/-!
Programs over records: rules that say what is done with records, and functions.
-/

namespace CatalogSeed.Utility.Awk

inductive Expression
  | number (value : Float)
  | text (value : String)
  | regex (text : String)
  | name (name : String)
  | element (table : String) (keys : List Expression)
  | field (index : Expression)
  /-- Gives a value to a target; an operator combines it with the value before. -/
  | assign (target : Expression) (operator : Option Char) (value : Expression)
  /-- Counts a target up or down; `before` tells that the new value is the result. -/
  | count (target : Expression) (up before : Bool)
  | choose (test whenTrue whenFalse : Expression)
  | both (left right : Expression)
  | either (left right : Expression)
  | isIn (keys : List Expression) (table : String)
  | fits (negated : Bool) (value pattern : Expression)
  | compare (operator : String) (left right : Expression)
  | join (left right : Expression)
  | arithmetic (operator : Char) (left right : Expression)
  | sign (negative : Bool) (value : Expression)
  | not (value : Expression)
  | call (function : String) (arguments : List Expression)
  | builtin (name : String) (arguments : List Expression)
  /-- Reads a record, from the input or a file, into the record or a target. -/
  | readLine (target source : Option Expression)
  /-- Reads a line that a command writes. -/
  | readAnswer (target : Option Expression) (command : Expression)
  /-- Several values between parentheses. -/
  | grouped (items : List Expression)

inductive Statement
  | block (statements : List Statement)
  | choose (test : Expression) (whenTrue whenFalse : Statement)
  | loop (test : Expression) (body : Statement)
  | loopAfter (body : Statement) (test : Expression)
  | count (start : Statement) (test : Option Expression) (step body : Statement)
  | each (name table : String) (body : Statement)
  /-- Prints values, to a file if one is named behind `>` or `>>`, or to a command behind a bar. -/
  | print (formatted : Bool) (values : List Expression) (target : Option (String × Expression))
  | simple (value : Expression)
  | nextRecord
  | nextFile
  | exit (status : Option Expression)
  | answer (value : Option Expression)
  | leaveLoop
  | nextTurn
  | delete (table : String) (keys : List Expression)

inductive Pattern
  | start
  | finish
  | always
  | when (test : Expression)
  | between (first last : Expression)

structure Rule where
  pattern : Pattern
  /-- Without an action, the record is printed. -/
  action : Option Statement

structure Function where
  name : String
  parameters : List String
  body : Statement

structure Program where
  rules : List Rule
  functions : List Function

/-- Whether a value can be given to an expression. -/
def Expression.isTarget : Expression → Bool
  | .name _ | .element _ _ | .field _ => true
  | _ => false

end CatalogSeed.Utility.Awk
