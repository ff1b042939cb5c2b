import CatalogSeed.Utility.Awk.Value

/-!
The tokens of programs over records, each with its line. A slash begins an expression to search
for where a value may begin, and divides elsewhere.
-/

namespace CatalogSeed.Utility.Awk

inductive Token
  | number (number : Float)
  | text (text : String)
  | regex (text : String)
  | name (name : String)
  /-- A name right in front of a parenthesis. -/
  | function (name : String)
  | builtin (name : String)
  | word (name : String)
  | sign (text : String)
  | lineEnd

def reservedWords : List String :=
  ["BEGIN", "END", "function", "func", "if", "else", "while", "for", "do", "break", "continue",
    "next", "nextfile", "exit", "return", "delete", "in", "getline", "print", "printf"]

/-- The functions that need no definition, each with the fewest and the most values it takes. -/
def builtins : List (String × Nat × Nat) :=
  [("length", 0, 1), ("substr", 2, 3), ("index", 2, 2), ("split", 2, 3), ("sub", 2, 3),
    ("gsub", 2, 3), ("match", 2, 2), ("sprintf", 1, 255), ("sin", 1, 1), ("cos", 1, 1),
    ("atan2", 2, 2), ("exp", 1, 1), ("log", 1, 1), ("sqrt", 1, 1), ("int", 1, 1), ("rand", 0, 0),
    ("srand", 0, 1), ("tolower", 1, 1), ("toupper", 1, 1), ("system", 1, 1), ("close", 1, 1),
    ("fflush", 0, 1)]

/-- The signs, longer ones before those that they begin with. -/
def signs : List String :=
  ["&&", "||", "++", "--", "+=", "-=", "*=", "/=", "%=", "^=", "==", "<=", ">=", "!=", "!~", ">>",
    "\x7b", "\x7d", "(", ")", "[", "]", ";", ",", "+", "-", "*", "/", "%", "^", "!", "<", ">",
    "|", "?", ":", "~", "$", "="]

namespace Token

/-- A token as complaints show it. -/
def shown : Token → String
  | number value => match integer? value with
      | some n => toString n
      | none => specialText value
  | text t => "\"" ++ t ++ "\""
  | regex t => "/" ++ t ++ "/"
  | name n | function n | builtin n | word n => n
  | sign t => t
  | lineEnd => "end of line"

def isSign (token : Token) (expected : String) : Bool :=
  match token with
  | sign t => t = expected
  | _ => false

def isWord (token : Token) (expected : String) : Bool :=
  match token with
  | word w => w = expected
  | _ => false

/-- Whether a slash behind the token divides. -/
def endsValue : Token → Bool
  | number _ | text _ | name _ | builtin _ => true
  | sign t => t = ")" || t = "]" || t = "$" || t = "++" || t = "--"
  | _ => false

end Token

def isOctal (c : Char) : Bool := '0' ≤ c && c ≤ '7'

/-- The characters that escapes in a text stand for; those without a meaning stay as they are. -/
def unescape (text : List Char) : List Char :=
  go (text.length + 1) text
where
  go : Nat → List Char → List Char
    | 0, _ => []
    | _ + 1, [] => []
    | fuel + 1, '\\' :: c :: rest =>
        let letters := [('"', '"'), ('\\', '\\'), ('a', '\x07'), ('b', '\x08'), ('f', '\x0c'),
          ('n', '\n'), ('r', '\r'), ('t', '\t'), ('v', '\x0b')]
        match letters.lookup c with
        | some meant => meant :: go fuel rest
        | none =>
            if isOctal c then
              let digits := (c :: rest.take 2).takeWhile isOctal
              let value := digits.foldl (fun value d => 8 * value + (d.toNat - 48)) 0
              Char.ofNat (value % 256) :: go fuel ((c :: rest).drop digits.length)
            else
              let (hex, behind) := (rest.take 2).span isHexDigit
              if c = 'x' ∧ hex ≠ [] then
                let value := hex.foldl (fun value d => 16 * value + hexValue d) 0
                Char.ofNat value :: go fuel (behind ++ rest.drop 2)
              else '\\' :: c :: go fuel rest
    | fuel + 1, c :: rest => c :: go fuel rest

/-- Reads up to a mark on the same line. A backslash keeps the character behind it; one before a
slash mark disappears, and a slash within a set is no mark. -/
def upTo (mark : Char) : Bool → List Char → List Char → Option (List Char × List Char)
  | within, before, '\\' :: c :: rest =>
      if c = '\n' then upTo mark within before rest
      else if c = mark ∧ mark = '/' then upTo mark within (c :: before) rest
      else upTo mark within (c :: '\\' :: before) rest
  | within, before, c :: rest =>
      if c = mark && !within then some (before.reverse, rest)
      else if c = '\n' then none
      else
        let opens := mark = '/' && c = '[' && !within
        let closes := c = ']' && before.head? ≠ some '[' && before.take 2 ≠ ['^', '[']
        upTo mark (if within then !closes else opens) (c :: before) rest
  | _, _, [] => none

def isNameStart (c : Char) : Bool := c.isAlpha || c = '_'

/-- Reads one token that is no blank. -/
def readToken (line : Nat) (divides : Bool) (text : List Char) :
    Except String (Token × List Char) :=
  let runaway (what : String) : Except String (Token × List Char) :=
    .error ("line " ++ toString line ++ ": runaway " ++ what ++ " " ++
      String.ofList (text.take 10) ++ " ...")
  let unexpected (c : Char) : Except String (Token × List Char) :=
    .error (toString line ++ ": unexpected character '" ++ c.toString ++ "'")
  match text with
  | '\n' :: rest => .ok (.lineEnd, rest)
  | '"' :: rest =>
      match upTo '"' false [] rest with
      | some (inside, rest) => .ok (.text (String.ofList (unescape inside)), rest)
      | none => runaway "string constant"
  | c :: rest =>
      if c = '/' && !divides then
        match upTo '/' false [] rest with
        | some (inside, rest) => .ok (.regex (String.ofList inside), rest)
        | none => runaway "regular expression"
      else if isNameStart c then
        let (letters, rest) := text.span fun c => isNameStart c || c.isDigit
        let name := String.ofList letters
        let token : Token :=
          if reservedWords.contains name then .word (if name = "func" then "function" else name)
          else if (builtins.lookup name).isSome then .builtin name
          else if rest.head? = some '(' then .function name
          else .name name
        .ok (token, rest)
      else if c.isDigit || c = '.' && (rest.head?.map Char.isDigit).getD false then
        match numberAtFront? text with
        | some (number, rest) => .ok (.number number, rest)
        | none => unexpected c
      else match signs.find? fun sign => (text.take sign.length) = sign.toList with
        | some sign => .ok (.sign sign, text.drop sign.length)
        | none => unexpected c
  | [] => .ok (.lineEnd, [])

/-- Reads all tokens; the ones before come the last first. -/
def readTokens :
    Nat → Nat → List Char → List (Token × Nat) → Except String (List (Token × Nat))
  | 0, _, _, before => .ok before.reverse
  | _ + 1, _, [], before => .ok before.reverse
  | fuel + 1, line, text, before =>
      match text with
      | '\\' :: '\n' :: rest => readTokens fuel (line + 1) rest before
      | '\\' :: '\r' :: '\n' :: rest => readTokens fuel (line + 1) rest before
      | '#' :: rest => readTokens fuel line (rest.dropWhile (· ≠ '\n')) before
      | c :: rest =>
          if c ≠ '\n' ∧ isBlank c then readTokens fuel line rest before
          else
            let divides := (before.head?.map fun (token, _) => token.endsValue).getD false
            match readToken line divides text with
            | .error message => .error message
            | .ok (token, rest) =>
                readTokens fuel (line + if c = '\n' then 1 else 0) rest ((token, line) :: before)
      | [] => .ok before.reverse

end CatalogSeed.Utility.Awk
