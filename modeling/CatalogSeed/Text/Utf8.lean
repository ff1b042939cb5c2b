/-!
Texts as bytes. Strict decoding is the core library's; this module adds where ill-formed bytes
begin, and a decoding that puts U+FFFD in their place.
-/

namespace CatalogSeed.Utf8

def encode (text : String) : List UInt8 :=
  text.toByteArray.data.toList

/-- The text these bytes stand for, if they are well formed. -/
def decode (bytes : List UInt8) : Option String :=
  String.fromUTF8? bytes.toByteArray

theorem decode_encode (text : String) : decode (encode text) = some text := by
  have same : (encode text).toByteArray = text.toByteArray := by
    simp [encode, ByteArray.ext_iff]
  simp only [decode, same, String.fromUTF8?]
  rw [dif_pos text.isValidUTF8]
  rfl

/-- How many bytes follow a leading byte, and the bounds of the first of them. -/
def continuation (lead : UInt8) : Option (Nat × UInt8 × UInt8) :=
  if lead < 0x80 then some (0, 0x80, 0xBF)
  else if lead < 0xC2 then none
  else if lead < 0xE0 then some (1, 0x80, 0xBF)
  else if lead = 0xE0 then some (2, 0xA0, 0xBF)
  else if lead = 0xED then some (2, 0x80, 0x9F)
  else if lead < 0xF0 then some (2, 0x80, 0xBF)
  else if lead = 0xF0 then some (3, 0x90, 0xBF)
  else if lead < 0xF4 then some (3, 0x80, 0xBF)
  else if lead = 0xF4 then some (3, 0x80, 0x8F)
  else none

/-- The length of the character that begins here, or of as much of it as is well formed, and
whether it is all there. -/
def stretch : List UInt8 → Nat × Bool
  | [] => (0, true)
  | lead :: rest =>
      match continuation lead with
      | none => (1, false)
      | some (0, _, _) => (1, true)
      | some (count + 1, lower, upper) =>
          match rest with
          | [] => (1, false)
          | second :: later =>
              if lower ≤ second ∧ second ≤ upper then
                let further := (later.take count).takeWhile fun b => 0x80 ≤ b && b ≤ 0xBF
                (2 + further.length, further.length = count)
              else (1, false)

/-- Takes the bytes apart into characters; each longest beginning of a character that does not
go on is `none`. -/
def characters : Nat → List UInt8 → List (Option (List UInt8))
  | 0, _ => []
  | _ + 1, [] => []
  | fuel + 1, bytes =>
      let (length, whole) := stretch bytes
      (if whole then some (bytes.take length) else none) ::
        characters fuel (bytes.drop length)

/-- How many bytes there are from the first ill-formed character on. -/
def illFormed (bytes : List UInt8) : Nat :=
  let leading := (characters bytes.length bytes).takeWhile Option.isSome
  bytes.length - (leading.flatMap fun character => character.getD []).length

/-- Decodes with U+FFFD for what is ill formed. -/
def decodeLossy (bytes : List UInt8) : String :=
  String.join <| (characters bytes.length bytes).map fun
    | some character => (decode character).getD "\uFFFD"
    | none => "\uFFFD"

end CatalogSeed.Utf8
