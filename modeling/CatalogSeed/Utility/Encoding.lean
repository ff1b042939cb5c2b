import CatalogSeed.Utility.Digest

/-!
Texts of few letters that stand for bytes.
-/

namespace CatalogSeed.Utility

namespace Encoding

/-- Letters that stand for so many bits each. A block of bytes is filled up with equals signs. -/
structure Alphabet where
  letters : List Char
  bits : Nat
  /-- How many letters a whole block has. -/
  block : Nat

def base64Letters (last : String) : List Char :=
  "ABCDEFGHIJKLMNOPQRSTUVWXYZabcdefghijklmnopqrstuvwxyz0123456789".toList ++ last.toList

def alphabet? (name : String) : Option Alphabet :=
  match name with
  | "base64" => some ⟨base64Letters "+/", 6, 4⟩
  | "base64url" => some ⟨base64Letters "-_", 6, 4⟩
  | "base32" => some ⟨"ABCDEFGHIJKLMNOPQRSTUVWXYZ234567".toList, 5, 8⟩
  | "base32hex" => some ⟨"0123456789ABCDEFGHIJKLMNOPQRSTUV".toList, 5, 8⟩
  | "base16" => some ⟨"0123456789ABCDEF".toList, 4, 2⟩
  | "base2msbf" => some ⟨"01".toList, 1, 8⟩
  | _ => none

def bitsOf (byte : UInt8) : List Bool :=
  (List.range 8).map fun place => byte.toNat / Nat.pow 2 (7 - place) % 2 = 1

def numberOf (bits : List Bool) : Nat :=
  bits.foldl (fun value bit => 2 * value + if bit then 1 else 0) 0

/-- The letters for bytes. -/
def encode (alphabet : Alphabet) (bytes : List UInt8) : List Char :=
  let parts := Digest.blocks alphabet.bits (bytes.flatMap bitsOf)
  let letters := parts.map fun bits =>
    let filled := bits ++ List.replicate (alphabet.bits - bits.length) false
    alphabet.letters.getD (numberOf filled) ' '
  let missing := (alphabet.block - letters.length % alphabet.block) % alphabet.block
  letters ++ List.replicate missing '='

/-- The bytes of one block, and whether it was good. -/
def decodeBlock (alphabet : Alphabet) (last : Bool) (block : List Char) : List UInt8 × Bool :=
  let value? (c : Char) : Option Nat := alphabet.letters.findIdx? (· = c)
  let values := (block.takeWhile fun c => (value? c).isSome).filterMap value?
  let bits := values.flatMap fun value =>
    (List.range alphabet.bits).map fun place =>
      decide (value / Nat.pow 2 (alphabet.bits - 1 - place) % 2 = 1)
  let bytes := (List.range (bits.length / 8)).map fun place =>
    UInt8.ofNat (numberOf ((bits.drop (8 * place)).take 8))
  let padding := block.drop values.length
  let good := block.length = alphabet.block && padding.all (· = '=') &&
    bits.length % 8 < alphabet.bits && (padding = [] || last && values ≠ [])
  (bytes, good)

/-- The bytes of letters, up to the first block that is not good. -/
def decode (alphabet : Alphabet) (text : List Char) : List UInt8 × Bool :=
  let blocks := Digest.blocks alphabet.block text
  blocks.zipIdx.foldl (fun (bytes, good) (block, index) =>
    if !good then (bytes, false)
    else
      let (more, fine) := decodeBlock alphabet (index + 1 = blocks.length) block
      (bytes ++ more, fine)) ([], true)

end Encoding

open Encoding in
/-- Encodes or decodes a file; a name of letters that is not given is among the options. -/
def encodeFile (job : Job) (name : Option String) : Result :=
  let kinds := ["base64", "base64url", "base32", "base32hex", "base16", "base2msbf"]
  let long := [("decode", "d", false), ("ignore-garbage", "i", false), ("wrap", "w", true)] ++
    if name.isSome then [] else kinds.map fun kind => (kind, kind, false)
  match job.call "di" "w" long false 1 with
  | .error result => result
  | .ok call =>
      let chosen := name.or ((call.options.map Prod.fst).filter kinds.contains).getLast?
      match chosen.bind alphabet?, call.operands with
      | none, _ => job.usage 1 "missing encoding type"
      | some _, _ :: extra :: _ => job.usage 1 ("extra operand " ++ quoted extra)
      | some alphabet, operands =>
          let file := operands.headD "-"
          let width := (call.value? ["w"]).getD "76"
          if width = "" ∨ !width.all Char.isDigit then
            job.fail 1 ("invalid wrap size: " ++ quoted width)
          else match job.readFile file with
          | .error .isDirectory => job.fail 1 "read error: Is a directory"
          | .error error => job.fail 1 (shown file ++ ": " ++ reason error)
          | .ok content =>
              let readsInput := Job.isInput file
              if call.has ["d"] then
                let text := content.filter fun c => c ≠ '\n' &&
                  (!call.has ["i"] || c = '=' || alphabet.letters.contains c)
                let (bytes, good) := decode alphabet text
                let pieces := [⟨false, Octets.ofBytes bytes⟩]
                if good then job.written pieces 0 readsInput
                else job.written (pieces ++ [job.complaint "invalid input"]) 1 readsInput
              else
                let letters := encode alphabet (Octets.toBytes (String.ofList content))
                let text := match width.toNat?.getD 76 with
                  | 0 => String.ofList letters
                  | width => joinLines ((Digest.blocks width letters).map String.ofList)
                job.written [⟨false, text⟩] 0 readsInput

end CatalogSeed.Utility
