import CatalogSeed.Text.Utf8

/-!
Texts in which every character stands for one byte, the one of its number. They keep bytes that
are not well-formed text as they are.
-/

namespace CatalogSeed.Octets

def toChar (byte : UInt8) : Char :=
  Char.ofNat byte.toNat

def ofChar (char : Char) : UInt8 :=
  UInt8.ofNat char.toNat

def ofBytes (bytes : List UInt8) : String :=
  String.ofList (bytes.map toChar)

def toBytes (text : String) : List UInt8 :=
  text.toList.map ofChar

/-- The octets of a text of any characters. -/
def ofText (text : String) : String :=
  ofBytes (Utf8.encode text)

/-- The text that octets encode, as far as they are well formed. -/
def toText (octets : String) : String :=
  Utf8.decodeLossy (toBytes octets)

end CatalogSeed.Octets
