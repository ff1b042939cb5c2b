/-!
Words as complaints show them: between quotes, so that they could be given to a shell as they
stand, or with escapes. Texts are octets.
-/

namespace CatalogSeed.ShellQuoted

def isPrintable (c : Char) : Bool :=
  32 ≤ c.toNat && c.toNat < 127

/-- A byte in three octal digits behind a backslash, or a letter for a common control
character. -/
def escaped (c : Char) : List Char :=
  match [('\x07', 'a'), ('\x08', 'b'), ('\x0c', 'f'), ('\n', 'n'), ('\x0d', 'r'), ('\t', 't'),
      ('\x0b', 'v')].lookup c with
  | some letter => ['\\', letter]
  | none =>
      let digit (n : Nat) : Char := Char.ofNat (48 + n % 8)
      ['\\', digit (c.toNat / 64), digit (c.toNat / 8), digit c.toNat]

/-- Between single quotes; a quote or backslash within gets a backslash. -/
def plain (word : String) : String :=
  let body := word.toList.flatMap fun c =>
    if c = '\'' ∨ c = '\\' then ['\\', c]
    else if isPrintable c then [c]
    else escaped c
  String.ofList (['\''] ++ body ++ ['\''])

/-- Characters that mean the same in every kind of quotes. -/
def isHarmless (c : Char) : Bool :=
  c.isAlphanum || " '#~%+,-./:]_@".toList.contains c

/-- What stands behind an opening quote, with the closing one; `escapes` tells that the last
character was an escape, which stands between quotes of its own. -/
def inQuotes : Bool → List Char → List Char
  | _, [] => ['\'']
  | escapes, c :: rest =>
      let back := if escapes then "''".toList else []
      if c = '\'' then back ++ "'\\''".toList ++ inQuotes false rest
      else if isPrintable c then back ++ [c] ++ inQuotes false rest
      else (if escapes then [] else "'$'".toList) ++ escaped c ++ inQuotes true rest

/-- Between quotes that a shell understands. -/
def always (word : String) : String :=
  let chars := word.toList
  if chars.contains '\'' && chars.all isHarmless then "\"" ++ word ++ "\""
  else String.ofList ('\'' :: inQuotes false chars)

/-- Whether a word means something else to a shell than itself. -/
def needsQuotes (word : String) : Bool :=
  let chars := word.toList
  chars = [] || chars = ['\x7b'] || chars = ['\x7d'] ||
    ["#".toList, "~".toList].any (·.isPrefixOf chars) ||
    chars.any fun c => !isPrintable c || " '!\"$&()*;<=>?[\\^\x60|:".toList.contains c

/-- Between quotes where these are needed. -/
def asNeeded (word : String) : String :=
  if needsQuotes word then always word else word

end CatalogSeed.ShellQuoted
