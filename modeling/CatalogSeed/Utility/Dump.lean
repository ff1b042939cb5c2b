import CatalogSeed.Utility.Digest

/-!
Files as numbers and characters, line by line.
-/

namespace CatalogSeed.Utility

namespace Dump

/-- How bytes are shown: in groups of a size, as numbers or characters, and with the printable
characters behind them if wished. -/
structure View where
  letter : Char
  size : Nat
  shows : Bool
  deriving DecidableEq

/-- How many characters a group takes at most. -/
def View.width (view : View) : Nat :=
  match view.letter with
  | 'x' => 2 * view.size
  | 'o' => (8 * view.size + 2) / 3
  | 'd' => if view.size = 1 then 4 else if view.size = 2 then 6
      else if view.size = 4 then 11 else 20
  | 'u' => if view.size = 1 then 3 else if view.size = 2 then 5
      else if view.size = 4 then 10 else 20
  | _ => 3

def fillLeft (mark : Char) (width : Nat) (text : String) : String :=
  String.ofList (List.replicate (width - text.length) mark) ++ text

def namesOfControls : List String :=
  ["nul", "soh", "stx", "etx", "eot", "enq", "ack", "bel", "bs", "ht", "nl", "vt", "ff", "cr", "so",
    "si", "dle", "dc1", "dc2", "dc3", "dc4", "nak", "syn", "etb", "can", "em", "sub", "esc", "fs",
    "gs", "rs", "us", "sp"]

def digits (base value : Nat) : String := String.ofList (Nat.toDigits base value)

/-- One byte as a character. -/
def charText (byte : UInt8) : String :=
  let letters : List (Nat × String) := [(0, "\\0"), (7, "\\a"), (8, "\\b"), (9, "\\t"), (10, "\\n"),
    (11, "\\v"), (12, "\\f"), (13, "\\r")]
  match letters.lookup byte.toNat with
  | some text => text
  | none =>
      if 32 ≤ byte.toNat ∧ byte.toNat < 127 then (Char.ofNat byte.toNat).toString
      else fillLeft '0' 3 (digits 8 byte.toNat)

/-- One group of bytes. -/
def View.text (view : View) (bytes : List UInt8) : String :=
  let value := Digest.numberOf bytes
  match view.letter with
  | 'x' => fillLeft '0' view.width (digits 16 value)
  | 'o' => fillLeft '0' view.width (digits 8 value)
  | 'u' => digits 10 value
  | 'd' =>
      let half := Nat.pow 2 (8 * view.size - 1)
      if value < half then digits 10 value else "-" ++ digits 10 (2 * half - value)
  | 'a' =>
      let low := value % 128
      if low = 127 then "del" else namesOfControls.getD low (Char.ofNat low).toString
  | _ => charText (bytes.headD 0)

/-- How wide a line of so many bytes is. -/
def View.lineWidth (view : View) (width : Nat) : Nat :=
  (view.width + 1) * (width / view.size)

/-- One line of a view, spread over as many characters as the widest view takes. -/
def View.line (view : View) (wide width : Nat) (bytes : List UInt8) : String :=
  let groupWidth := wide / (width / view.size)
  let groups := (Digest.blocks view.size bytes).map fun group =>
    fillLeft ' ' groupWidth (view.text group)
  let body := String.join groups
  if !view.shows then body
  else
    let missing := width / view.size - groups.length
    let visible := bytes.map fun byte =>
      if 32 ≤ byte.toNat ∧ byte.toNat < 127 then Char.ofNat byte.toNat else '.'
    body ++ String.ofList (List.replicate (missing * groupWidth) ' ') ++ "  >" ++
      String.ofList visible ++ "<"

/-- The views that a type asks for. -/
def viewsOf : Nat → List Char → Except Char (List View)
  | 0, _ => .ok []
  | _ + 1, [] => .ok []
  | fuel + 1, letter :: rest => do
      if letter = 'c' ∨ letter = 'a' then
        let (shows, rest) := match rest with
          | 'z' :: rest => (true, rest)
          | rest => (false, rest)
        return ⟨letter, 1, shows⟩ :: (← viewsOf fuel rest)
      else if !"doux".toList.contains letter then throw letter
      else
        let (size, rest) : Nat × List Char := match rest with
          | 'C' :: rest => (1, rest)
          | 'S' :: rest => (2, rest)
          | 'I' :: rest => (4, rest)
          | 'L' :: rest => (8, rest)
          | rest =>
              let (size, behind) := rest.span Char.isDigit
              (((String.ofList size).toNat?).getD 4, behind)
        let size := if [1, 2, 4, 8].contains size then size else 4
        let (shows, rest) := match rest with
          | 'z' :: rest => (true, rest)
          | rest => (false, rest)
        return ⟨letter, size, shows⟩ :: (← viewsOf fuel rest)

/-- The places and lines of a dump; a star stands for lines that are equal to the one before. -/
def render (views : List View) (width : Nat) (all : Bool) (place : Nat → String) :
    Nat → Option (List UInt8) → Bool → List (List UInt8) → List String
  | _, _, _, [] => []
  | offset, before, starred, block :: rest =>
      let next := offset + block.length
      if !all && before = some block && rest ≠ [] then
        let more := render views width all place next before true rest
        if starred then more else "*" :: more
      else
        let wide := (views.map fun view => view.lineWidth width).foldl max 0
        let lines := views.map fun view => view.line wide width block
        let front := place offset
        let blank := String.ofList (List.replicate front.length ' ')
        let shown := lines.zipIdx.map fun (line, number) =>
          (if number = 0 then front else blank) ++ line
        shown ++ render views width all place next (some block) false rest

end Dump

open Dump in
def od (job : Job) : Result :=
  let long := [("address-radix", "A", true), ("skip-bytes", "j", true), ("read-bytes", "N", true),
    ("format", "t", true), ("output-duplicates", "v", false), ("width", "w", true)]
  match job.call "abcdosxv" "AjNtw" long false 1 with
  | .error result => result
  | .ok call =>
      let typed : Except Char (List View) := do
        let parts ← call.options.mapM fun (name, value) => match name with
          | "a" => viewsOf 2 ['a']
          | "b" => viewsOf 2 ['o', '1']
          | "c" => viewsOf 2 ['c']
          | "d" => viewsOf 2 ['u', '2']
          | "o" => viewsOf 2 ['o', '2']
          | "s" => viewsOf 2 ['d', '2']
          | "x" => viewsOf 2 ['x', '2']
          | "t" => viewsOf (value.length + 1) value.toList
          | _ => .ok []
        return parts.flatten
      let radix := (call.value? ["A"]).getD "o"
      match typed with
      | .error letter =>
          job.fail 1 ("invalid character '" ++ letter.toString ++ "' in type string " ++
            quoted ((call.value? ["t"]).getD ""))
      | .ok views =>
          if !(["o", "d", "x", "n"].contains radix) then
            job.fail 1 ("invalid output address radix '" ++ radix ++
              "'; it must be one character from [doxn]")
          else
            let views := if views = [] then [⟨'o', 2, false⟩] else views
            let number (letter : String) : Option Nat := (call.value? [letter]).bind String.toNat?
            let opens (name : String) : Bool := (job.readFile name).toOption.isSome
            job.overAll call.operands shown 1 fun text =>
              if !call.files.any opens then "" else
              let bytes := Octets.toBytes (String.ofList text)
              let skipped := (number "j").getD 0
              let bytes := bytes.drop skipped
              let bytes := ((number "N").map bytes.take).getD bytes
              let width := (number "w").getD 16
              let place (offset : Nat) : String := match radix with
                | "n" => ""
                | "d" => fillLeft '0' 7 (digits 10 offset)
                | "x" => fillLeft '0' 6 (digits 16 offset)
                | _ => fillLeft '0' 7 (digits 8 offset)
              let lines := render views width (call.has ["v"]) place skipped none false
                (Digest.blocks width bytes)
              let last := if radix = "n" then [] else [place (skipped + bytes.length)]
              joinLines (lines ++ last)

end CatalogSeed.Utility
