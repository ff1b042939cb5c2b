import CatalogSeed.Text.Concealed

/-!
Texts as they stand in messages: between double quotes, with escapes for what would not show.
-/

namespace CatalogSeed.Text

def lowerHex (n : Nat) : String :=
  String.ofList (Nat.toDigits 16 n)

def showChar (c : Char) : String :=
  if c = '\x00' then "\\0"
  else if c = '\t' then "\\t"
  else if c = '\r' then "\\r"
  else if c = '\n' then "\\n"
  else if c = '"' then "\\\""
  else if c = '\\' then "\\\\"
  else if isConcealed c then "\\u\x7b" ++ lowerHex c.toNat ++ "\x7d"
  else c.toString

def quoted (text : String) : String :=
  "\"" ++ String.join (text.toList.map showChar) ++ "\""

end CatalogSeed.Text
