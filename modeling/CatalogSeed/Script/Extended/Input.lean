import CatalogSeed.Script.Extended.Options

/-!
Commands of the extended dialect that read from a descriptor into variables.
-/

namespace CatalogSeed.Script.Extended

/-- How a text is taken off an input: `raw` without backslashes, up to a delimiter if there is
one. -/
structure Taking where
  raw : Bool
  delimiter : Option Char

/-- Takes at most so many characters off a text: the pieces, what is left, and whether they ended
as they should. Behind a backslash a character does not part words. -/
def Taking.take (taking : Taking) :
    Nat → Nat → List Piece → List UInt8 → List Piece × List UInt8 × Bool
  | _, 0, before, left => (before.reverse, left, true)
  | 0, _, before, left => (before.reverse, left, false)
  | _, _, before, [] => (before.reverse, [], false)
  | fuel + 1, count + 1, before, byte :: left =>
      let c := Octets.toChar byte
      if some c = taking.delimiter then (before.reverse, left, true)
      else if byte = 0 then taking.take fuel (count + 1) before left
      else if c = '\\' && !taking.raw then
        match left with
        | [] => (before.reverse, [], false)
        | 0x0A :: left => taking.take fuel (count + 1) before left
        | next :: left =>
            taking.take fuel count (.letter ⟨Octets.toChar next, true⟩ false :: before) left
      else taking.take fuel count (.letter ⟨c, true⟩ true :: before) left

/-- The delimiter that an option asks for: an empty one is a zero byte. -/
def delimiterOf (value : Option String) : Char :=
  match value with
  | none => '\n'
  | some text => text.toList.headD '\x00'

/-- The text that a descriptor leads to. -/
def inputOf (descriptor : String) : Run (Option (Nat × List UInt8)) := do
  let shell ← get
  let number := descriptor.toNat?.bind fun descriptor => shell.channels.lookup descriptor
  match number with
  | none =>
      complain (descriptor ++ ": invalid file descriptor: Bad file descriptor")
      return none
  | some number =>
      match shell.world.left number with
      | some left => return some (number, left)
      | none =>
          complain ("read error: " ++ descriptor ++ ": Bad file descriptor")
          return none

def read (words : List String) : Run Unit := do
  let (options, names) ← options "ersa:d:i:n:N:p:t:u:" words
  let value? (letter : Char) : Option String :=
    (options.filter (·.1 = letter)).getLast?.map Prod.snd
  let raw := (value? 'r').isSome
  let limit := ((value? 'N').or (value? 'n')).bind String.toNat?
  match (((value? 'a').toList ++ names).find? fun name => !isName (settingName name).1) with
  | some name => refuseName name
  | none =>
      match ← inputOf ((value? 'u').getD "0") with
      | none => return
      | some (number, left) =>
          let exact := (value? 'N').isSome
          let taking : Taking := ⟨raw, if exact then none else some (delimiterOf (value? 'd'))⟩
          let fuel := left.length + 1
          let (pieces, rest, ended) := taking.take fuel (limit.getD fuel) [] left
          Run.changeWorld fun world => world.advance number (left.length - rest.length)
          let separators ← separators
          let assign (name value : String) : Run Unit :=
            let (name, key) := settingName name
            Setting.apply ⟨name, key, value, none, false⟩
          match value? 'a', names with
          | some name, _ =>
              Run.assignList name ((fieldsOf separators pieces).map textOf)
          | none, [] => Run.assign "REPLY" (pieceText pieces)
          | none, name :: others =>
              if exact then
                assign name (pieceText pieces)
                for other in others do
                  assign other ""
              else
                let values := Builtin.shareOut separators names.length pieces
                for (name, index) in names.zipIdx do
                  assign name (values.getD index "")
          Run.status (if ended then 0 else 1)

/-- Reads lines into a list of values. -/
def readLines (words : List String) : Run Unit := do
  let (options, names) ← options "d:n:O:s:tu:C:c:" words
  let value? (letter : Char) : Option String :=
    (options.filter (·.1 = letter)).getLast?.map Prod.snd
  let number (letter : Char) : Nat := ((value? letter).bind String.toNat?).getD 0
  let name := names.headD "MAPFILE"
  if !isName name then refuseName name
  else match ← inputOf ((value? 'u').getD "0") with
    | none => return
    | some (stream, left) =>
        let delimiter := delimiterOf (value? 'd')
        let parts := (left.map Octets.toChar).splitOn delimiter
        let closed := parts.dropLast.map fun part => (part, true)
        let unended := (parts.getLast?.filter (· ≠ [])).toList.map fun part => (part, false)
        let all := (closed ++ unended).drop (number 's')
        let chosen := if number 'n' = 0 then all else all.take (number 'n')
        let taken := if number 'n' = 0 then parts else parts.take (number 's' + chosen.length)
        let length := (taken.map fun part => part.length + 1).foldl (· + ·) 0
        Run.changeWorld fun world => world.advance stream (min length left.length)
        let keeps := (value? 't').isNone
        let values := chosen.map fun (part, ended) =>
          String.ofList (part ++ if ended && keeps then [delimiter] else [])
        match value? 'O' with
        | none => Run.assignList name values
        | some _ =>
            let items ← Run.items name
            let put (items : Items) (entry : String × Nat) : Items :=
              items.put (decimal (number 'O' + entry.2)) entry.1
            Run.assignItems name (values.zipIdx.foldl put items)

end CatalogSeed.Script.Extended
