import CatalogSeed.Document.Kind
import CatalogSeed.Document.Skip

/-!
Reading a document by kind. The reader looks at each byte once and stops at the first thing that
is wrong, so what it reports depends on nothing behind that place. Arrays and objects nest up to
127 levels.
-/

namespace CatalogSeed.Document

/-- What stands at a byte that begins nothing of the wanted kind. -/
def wrongType (wanted : String) (bytes : List UInt8) : Failure :=
  let report (found : Except Failure (Found × List UInt8)) : Failure :=
    match found with
    | .ok (found, rest) => .here (.wrongType found wanted) rest
    | .error failure => failure
  match bytes with
  | [] => .next .endInValue []
  | b :: rest =>
      if b = 0x6E then report ((word wordNull rest).map (.null, ·))
      else if b = 0x74 then report ((word wordTrue rest).map (.flag true, ·))
      else if b = 0x66 then report ((word wordFalse rest).map (.flag false, ·))
      else if b = 0x2D then report ((number true rest).map fun (n, rest) => (.number n, rest))
      else if isDigit b then
        report ((number false (b :: rest)).map fun (n, rest) => (.number n, rest))
      else if b = 0x22 then report ((string rest).map fun (s, rest) => (.text s, rest))
      else if b = 0x5B then .here (.wrongType .sequence wanted) (b :: rest)
      else if b = 0x7B then .here (.wrongType .map wanted) (b :: rest)
      else .next .valueWanted (b :: rest)

/-- Goes on to the next element of an array: `false` when its bracket closed instead. -/
def nextElement (first : Bool) : Reader Bool := fun bytes =>
  match skipBlanks bytes with
  | [] => .error (.next .endInArray [])
  | b :: rest =>
      if b = 0x5D then .ok (false, rest)
      else if first then .ok (true, b :: rest)
      else if b = 0x2C then
        match skipBlanks rest with
        | [] => .error (.next .endInValue [])
        | c :: later =>
            if c = 0x5D then .error (.next .trailingComma (c :: later))
            else .ok (true, c :: later)
      else .error (.next .arrayGoesOn (b :: rest))

/-- Goes on to the next member of an object and reads its key: `none` when its brace closed
instead. -/
def nextKey (first : Bool) : Reader (Option String) := fun bytes =>
  let key (rest : List UInt8) := (string rest).map fun (key, rest) => (some key, rest)
  match skipBlanks bytes with
  | [] => .error (.next .endInObject [])
  | b :: rest =>
      if b = 0x7D then .ok (none, rest)
      else if first then
        if b = 0x22 then key rest else .error (.next .keyNotString (b :: rest))
      else if b = 0x2C then
        match skipBlanks rest with
        | [] => .error (.next .endInValue [])
        | c :: later =>
            if c = 0x22 then key later
            else if c = 0x7D then .error (.next .trailingComma (c :: later))
            else .error (.next .keyNotString (c :: later))
      else .error (.next .objectGoesOn (b :: rest))

def colon (bytes : List UInt8) : Except Failure (List UInt8) :=
  match skipBlanks bytes with
  | [] => .error (.next .endInObject [])
  | b :: rest => if b = 0x3A then .ok rest else .error (.next .colonWanted (b :: rest))

/-- Reads elements up to and with the closing bracket; `before` holds those already read, the
latest first. -/
def elements {α : Type} (item : Reader α) : Nat → List α → Reader (List α)
  | 0, _, bytes => .error (.here .endInArray bytes)
  | fuel + 1, before, bytes => do
      let (more, rest) ← nextElement before.isEmpty bytes
      if more then
        let (value, rest) ← item rest
        elements item fuel (value :: before) rest
      else .ok (before.reverse, rest)

/-- Reads members up to and with the closing brace. What is behind a key, its colon too, is read
by `member`, which knows the key and what came before. -/
def members {σ : Type} (member : σ → String → Reader σ) : Nat → Bool → σ → Reader σ
  | 0, _, _, bytes => .error (.here .endInObject bytes)
  | fuel + 1, first, state, bytes => do
      match ← nextKey first bytes with
      | (none, rest) => .ok (state, rest)
      | (some key, rest) =>
          let (state, rest) ← member state key rest
          members member fuel false state rest

def array {α : Type} (item : Reader α) : Reader (List α) := fun bytes =>
  elements item (bytes.length + 1) [] bytes

def object {σ : Type} (member : σ → String → Reader σ) (start : σ) : Reader σ := fun bytes =>
  members member (bytes.length + 1) true start bytes

/-- A member of an open object. -/
def bagMember (value : Reader Json) (bag : Bag) (key : String) : Reader Bag := fun bytes => do
  let (found, rest) ← colon bytes >>= value
  .ok (bag.put key found, rest)

/-- Reads any value; `nesting` levels of arrays and objects are still allowed. -/
def json (nesting : Nat) : Reader Json := fun bytes =>
  match skipBlanks bytes with
  | [] => .error (.next .endInValue [])
  | b :: rest =>
      if b = 0x6E then (word wordNull rest).map (.null, ·)
      else if b = 0x74 then (word wordTrue rest).map (.bool true, ·)
      else if b = 0x66 then (word wordFalse rest).map (.bool false, ·)
      else if b = 0x2D then (number true rest).map fun (n, rest) => (.number n, rest)
      else if isDigit b then (number false (b :: rest)).map fun (n, rest) => (.number n, rest)
      else if b = 0x22 then (string rest).map fun (s, rest) => (.string s, rest)
      else if b = 0x5B then
        match nesting with
        | 0 => .error (.next .nestedTooDeep (b :: rest))
        | nesting + 1 => (array (json nesting) rest).map fun (items, rest) => (.array items, rest)
      else if b = 0x7B then
        match nesting with
        | 0 => .error (.next .nestedTooDeep (b :: rest))
        | nesting + 1 =>
            (object (bagMember (json nesting)) [] rest).map fun (bag, rest) => (.object bag, rest)
      else .error (.next .valueWanted (b :: rest))

/-- Reads a member's value: a null stands for none where it may. -/
def memberValue (presence : Presence) (value : Reader Datum) : Reader (Option Datum) :=
  fun bytes =>
    match presence, skipBlanks bytes with
    | .lenient, 0x6E :: rest => (word wordNull rest).map (none, ·)
    | _, bytes => (value bytes).map fun (found, rest) => (some found, rest)

/-- What a record has got so far, the latest first. -/
abbrev Gathered := List (String × Option Datum)

/-- Where a key that came twice is reported: behind it, and behind a brace that closes there. -/
def behindKey (bytes : List UInt8) : List UInt8 :=
  match skipBlanks bytes with
  | 0x7D :: rest => rest
  | rest => rest

/-- A member of a record: a known one is read once, any other is passed over. -/
def recordMember (value : Kind → Reader Datum) (known : List (Member Kind)) (gathered : Gathered)
    (key : String) : Reader Gathered := fun bytes =>
  match known.find? (·.key = key) with
  | none => do
      let rest ← colon bytes >>= skipValue
      .ok (gathered, rest)
  | some member =>
      if (gathered.lookup key).isSome then
        .error (.here (.repeatedMember key) (behindKey bytes))
      else do
        let (found, rest) ← colon bytes >>= memberValue member.presence (value member.kind)
        .ok ((key, found) :: gathered, rest)

/-- The members in their own order; a required one must be there. -/
def arrange (known : List (Member Kind)) (gathered : Gathered) :
    Except Cause (List (Option Datum)) :=
  known.mapM fun member =>
    match gathered.lookup member.key, member.presence with
    | some found, _ => .ok found
    | none, .required => .error (.missingMember member.key)
    | none, _ => .ok none

/-- The end of an array that has no more elements to give. -/
def closeArray (bytes : List UInt8) : Except Failure (List UInt8) :=
  match skipBlanks bytes with
  | [] => .error (.next .endInArray [])
  | b :: rest =>
      if b = 0x5D then .ok rest
      else if b = 0x2C then
        match skipBlanks rest with
        | 0x5D :: later => .error (.next .trailingComma (0x5D :: later))
        | later => .error (.next .trailingBytes later)
      else .error (.next .trailingBytes (b :: rest))

/-- Reads a record written as an array: elements in the order of its members, the last ones left
out where they may be. `count` members came before. -/
def positional (value : Kind → Reader Datum) (label : String) (total count : Nat) :
    List (Member Kind) → Reader (List (Option Datum))
  | [], bytes => (closeArray bytes).map ([], ·)
  | member :: later, bytes => do
      let (more, rest) ← nextElement (count = 0) bytes
      if more then
        let (found, rest) ← memberValue member.presence (value member.kind) rest
        let (values, rest) ← positional value label total (count + 1) later rest
        .ok (found :: values, rest)
      else
        match (member :: later).findIdx? (·.presence = .required) with
        | some index =>
            .error (.here (.tooFewElements (count + index) label total) rest)
        | none => .ok ((member :: later).map fun _ => none, rest)

/-- Reads one of a few names. -/
def name (known : List String) : Reader String := fun bytes => do
  let (found, rest) ← string bytes
  if found ∈ known then .ok (found, rest)
  else .error (.here (.unknownName found known) rest)

/-- A name may also be the only key of an object whose value is null. -/
def nameObject (known : List String) : Reader String := fun bytes => do
  let (found, rest) ← match skipBlanks bytes with
    | 0x22 :: rest => name known rest
    | [] => .error (.next .endInObject [])
    | 0x7D :: rest => .error (.next .valueWanted (0x7D :: rest))
    | bytes => .error (.next .keyNotString bytes)
  let rest ← colon rest
  let rest ← match skipBlanks rest with
    | 0x6E :: rest => word wordNull rest
    | bytes => .error (wrongType "unit" bytes)
  match skipBlanks rest with
  | [] => .error (.here .endInObject [])
  | 0x7D :: rest => .ok (found, rest)
  | rest => .error (.here .valueWanted rest)

/-- Reads a value of a kind that stands between brackets or braces. -/
def bracketed (value : Kind → Reader Datum) (json : Reader Json) (kind : Kind) : Reader Datum :=
  fun bytes =>
    match kind, bytes with
    | .list item, 0x5B :: rest =>
        (array (value item) rest).map fun (items, rest) => (.list items, rest)
    | .table item, 0x7B :: rest => do
        let entry (entries : List (String × Datum)) (key : String) : Reader _ := fun bytes => do
          let (found, rest) ← colon bytes >>= value item
          .ok (entries ++ [(key, found)], rest)
        (object entry [] rest).map fun (entries, rest) => (.table entries, rest)
    | .bag, 0x7B :: rest =>
        (object (bagMember json) [] rest).map fun (bag, rest) => (.bag bag, rest)
    | .record label known, 0x5B :: rest =>
        (positional value label known.length 0 known rest).map fun (values, rest) =>
          (.record values, rest)
    | .record _ known, 0x7B :: rest => do
        let (gathered, rest) ← object (recordMember value known) [] rest
        match arrange known gathered with
        | .ok values => .ok (.record values, rest)
        | .error cause => .error (.here cause rest)
    | .choice known, 0x7B :: rest =>
        (nameObject known rest).map fun (found, rest) => (.choice found, rest)
    | kind, bytes => .error (wrongType kind.wanted bytes)

/-- Whether values of a kind are written with this bracket. -/
def opens : Kind → UInt8 → Bool
  | .list _, b => b = 0x5B
  | .table _, b | .bag, b | .choice _, b => b = 0x7B
  | .record _ _, b => b = 0x5B || b = 0x7B
  | _, _ => false

/-- Reads a value that stands without brackets. -/
def scalar (kind : Kind) : Reader Datum := fun bytes =>
  match kind, bytes with
  | .text, 0x22 :: rest => (string rest).map fun (s, rest) => (.text s, rest)
  | .flag, 0x74 :: rest => (word wordTrue rest).map (.flag true, ·)
  | .flag, 0x66 :: rest => (word wordFalse rest).map (.flag false, ·)
  | .choice known, 0x22 :: rest =>
      (name known rest).map fun (found, rest) => (.choice found, rest)
  | .choice _, bytes => .error (.next .valueWanted bytes)
  | .integer, b :: rest =>
      if b = 0x2D ∨ isDigit b then do
        let (n, rest) ← if b = 0x2D then number true rest else number false (b :: rest)
        match n with
        | .real _ => .error (.here (.wrongType (.number n) Kind.integer.wanted) rest)
        | .whole value =>
            match value.toInt64? with
            | some value => .ok (.integer value, rest)
            | none => .error (.here (.integerTooLarge value) rest)
      else .error (wrongType Kind.integer.wanted (b :: rest))
  | kind, bytes => .error (wrongType kind.wanted bytes)

/-- Reads a value of the given kind; `nesting` levels of arrays and objects are still allowed. -/
def value (nesting : Nat) (kind : Kind) : Reader Datum := fun bytes =>
  match kind, skipBlanks bytes with
  | .json, bytes => (json nesting bytes).map fun (found, rest) => (.json found, rest)
  | _, [] => .error (.next .endInValue [])
  | kind, b :: rest =>
      if opens kind b then
        match nesting with
        | 0 => .error (.next .nestedTooDeep (b :: rest))
        | nesting + 1 => bracketed (value nesting) (json nesting) kind (b :: rest)
      else scalar kind (b :: rest)

def nestingLimit : Nat := 127

/-- Reads a whole document of the given kind; only blanks may follow it. -/
def read (kind : Kind) (document : List UInt8) : Except DocumentError Datum :=
  let outcome : Except Failure Datum := do
    let (found, rest) ← value nestingLimit kind document
    match skipBlanks rest with
    | [] => .ok found
    | rest => .error (.next .trailingBytes rest)
  outcome.mapError (DocumentError.locate document)

end CatalogSeed.Document
