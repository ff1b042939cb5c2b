import CatalogSeed.Number.Extended
import CatalogSeed.Script.Arithmetic
import CatalogSeed.Script.Draft
import CatalogSeed.Text.ShellQuoted

/-!
What the two printing commands of a shell write: words with blanks between them, and formats that
are filled in with words. Both know escapes.
-/

namespace CatalogSeed.Script

def isOctal (c : Char) : Bool :=
  '0' ≤ c && c ≤ '7'

/-- The byte that octal digits stand for. -/
def octalChar (digits : List Char) : Char :=
  Char.ofNat (digits.foldl (fun value digit => 8 * value + (digit.toNat - 48)) 0 % 256)

/-- What a backslash and a letter print as. -/
def letterEscape? (c : Char) : Option Char :=
  [('a', '\x07'), ('b', '\x08'), ('e', '\x1b'), ('f', '\x0c'), ('n', '\n'), ('r', '\x0d'),
    ('t', '\t'), ('v', '\x0b'), ('\\', '\\')].lookup c

/-- Reads what stands behind a backslash. -/
def escape (text : List Char) : Char × List Char :=
  match text with
  | [] => ('\\', [])
  | c :: rest =>
      match letterEscape? c with
      | some escaped => (escaped, rest)
      | none =>
          let digits := (text.take 3).takeWhile isOctal
          if digits = [] then ('\\', text) else (octalChar digits, text.drop digits.length)

/-- Prints with escapes, the last character first. An octal number may have a zero in front of its
digits, and `\c` stops everything. -/
def unescape : Nat → List Char → List Char → List Char × Bool
  | 0, before, _ => (before, false)
  | _ + 1, before, [] => (before, false)
  | fuel + 1, before, '\\' :: rest =>
      match rest with
      | 'c' :: _ => (before, true)
      | '0' :: behind =>
          let digits := (behind.take 3).takeWhile isOctal
          unescape fuel (octalChar digits :: before) (behind.drop digits.length)
      | _ =>
          let (c, behind) := escape rest
          unescape fuel (c :: before) behind
  | fuel + 1, before, c :: rest => unescape fuel (c :: before) rest

/-- The same with more escapes: an octal number needs its zero, and hexadecimal ones are known. -/
def unescapeMore : Nat → List Char → List Char → List Char × Bool
  | 0, before, _ => (before, false)
  | _ + 1, before, [] => (before, false)
  | fuel + 1, before, '\\' :: rest =>
      match rest with
      | 'c' :: _ => (before, true)
      | '0' :: behind =>
          let digits := (behind.take 3).takeWhile isOctal
          unescapeMore fuel (octalChar digits :: before) (behind.drop digits.length)
      | c :: behind =>
          if "abeEfnrtvxuU\\".toList.contains c then
            let (chars, count) := Parser.namedEscape rest
            unescapeMore fuel (chars.reverse ++ before) (rest.drop count)
          else unescapeMore fuel (c :: '\\' :: before) behind
      | [] => ('\\' :: before, false)
  | fuel + 1, before, c :: rest => unescapeMore fuel (c :: before) rest

def echo (words : List String) : String :=
  let (words, newLine) := match words with
    | "-n" :: words => (words, false)
    | words => (words, true)
  let text := (" ".intercalate words).toList
  let (backwards, stopped) := unescape (text.length + 1) [] text
  String.ofList backwards.reverse ++ if newLine && !stopped then "\n" else ""

/-- The options in front of the words that are printed as they are given: whether a line end is
wanted, and escapes. -/
def echoOptions : Bool → Bool → List String → Bool × Bool × List String
  | newLine, escapes, word :: words =>
      match word.toList with
      | '-' :: first :: letters =>
          let letters := first :: letters
          if letters.all "neE".toList.contains then
            let last := (letters.filter (· ≠ 'n')).getLast?
            echoOptions (newLine && !letters.contains 'n')
              ((last.map (· == 'e')).getD escapes) words
          else (newLine, escapes, word :: words)
      | _ => (newLine, escapes, word :: words)
  | newLine, escapes, [] => (newLine, escapes, [])

/-- Prints words as they are given, unless options ask for escapes. -/
def echoAsGiven (words : List String) : String :=
  let (newLine, escapes, words) := echoOptions true false words
  let text := " ".intercalate words
  let (backwards, stopped) :=
    if escapes then unescapeMore (text.length + 1) [] text.toList else (text.toList.reverse, false)
  String.ofList backwards.reverse ++ if newLine && !stopped then "\n" else ""

/-- What stands between a percent sign and the letter behind it. -/
structure Placeholder where
  flags : List Char
  width : Nat
  places : Option Nat

namespace Placeholder

def left (placeholder : Placeholder) : Bool := placeholder.flags.contains '-'

/-- Fills a text up with blanks. -/
def pad (placeholder : Placeholder) (text : List Char) : List Char :=
  let blanks := List.replicate (placeholder.width - text.length) ' '
  if placeholder.left then text ++ blanks else blanks ++ text

/-- Fills a number up: with zeros behind its sign if these are wanted, or with blanks. -/
def padNumber (placeholder : Placeholder) (zeros : Bool) (sign body : List Char) : List Char :=
  if zeros && placeholder.flags.contains '0' && !placeholder.left then
    sign ++ List.replicate (placeholder.width - sign.length - body.length) '0' ++ body
  else placeholder.pad (sign ++ body)

def signOf (placeholder : Placeholder) (negative : Bool) : List Char :=
  if negative then ['-']
  else if placeholder.flags.contains '+' then ['+']
  else if placeholder.flags.contains ' ' then [' ']
  else []

def text (placeholder : Placeholder) (value : String) : List Char :=
  placeholder.pad ((placeholder.places.map value.toList.take).getD value.toList)

/-- The digits of a number, as many as there have to be. -/
def digits (placeholder : Placeholder) (base value : Nat) : List Char :=
  match placeholder.places with
  | none => Nat.toDigits base value
  | some places =>
      let digits := if value = 0 then [] else Nat.toDigits base value
      List.replicate (places - digits.length) '0' ++ digits

def signed (placeholder : Placeholder) (value : Int) : List Char :=
  placeholder.padNumber placeholder.places.isNone (placeholder.signOf (value < 0))
    (placeholder.digits 10 value.natAbs)

def unsigned (placeholder : Placeholder) (letter : Char) (value : Nat) : List Char :=
  let mark := placeholder.flags.contains '#'
  let base := if letter = 'o' then 8 else if letter = 'u' then 10 else 16
  let body := placeholder.digits base value
  let body := if mark && letter = 'o' && body.head? ≠ some '0' then '0' :: body else body
  let sign := if mark && base = 16 && value ≠ 0 then ['0', 'x'] else []
  let whole := placeholder.padNumber placeholder.places.isNone sign body
  if letter = 'X' then whole.map Char.toUpper else whole

def real (placeholder : Placeholder) (size : Extended.Size) (letter : Char) (value : Extended) :
    List Char :=
  let sign := placeholder.signOf value.negative
  let mark := placeholder.flags.contains '#'
  let whole := match value with
    | .infinite _ => placeholder.pad (sign ++ "inf".toList)
    | .notANumber _ => placeholder.pad (sign ++ "nan".toList)
    | .finite _ units =>
        let places := placeholder.places.getD 6
        match letter.toLower with
        | 'f' => placeholder.padNumber true sign (point mark (Binary64.fixedText places units))
        | 'e' =>
            placeholder.padNumber true sign (point mark (Binary64.scientificText places units))
        | 'a' =>
            placeholder.padNumber true (sign ++ ['0', 'x'])
              (Extended.hexText size placeholder.places mark units)
        | _ =>
            placeholder.padNumber true sign (point mark (Binary64.generalText places mark units))
  if letter.isUpper then whole.map Char.toUpper else whole
where
  point (mark : Bool) (text : List Char) : List Char :=
    if !mark || text.contains '.' then text
    else
      let (digits, rest) := text.span Char.isDigit
      digits ++ '.' :: rest

end Placeholder

/-- A word as it could be given to a shell, with backslashes where they are needed. -/
def escapedWord (word : String) : String :=
  let chars := word.toList
  let special := " \t!\"#$&'()*,;<>?[\\]^\x60\x7b|\x7d".toList
  if word = "" then "''"
  else if chars.any fun c => !ShellQuoted.isPrintable c then
    let letter (c : Char) : List Char :=
      if c = '\'' ∨ c = '\\' then ['\\', c]
      else if c = '\x1b' then ['\\', 'E']
      else if ShellQuoted.isPrintable c then [c]
      else ShellQuoted.escaped c
    "$'" ++ String.ofList (chars.flatMap letter) ++ "'"
  else
    let escape (entry : Char × Nat) : List Char :=
      let (c, index) := entry
      let needed := if c = '#' ∨ c = '~' then index = 0 else special.contains c
      if needed then ['\\', c] else [c]
    String.ofList (chars.zipIdx.flatMap escape)

/-- Who prints: a plain shell, one with extensions, or a program of its own. -/
inductive Printer where
  | plain
  | extended
  | program
  deriving DecidableEq

/-- A format that is being filled in: the complaints and what came before them, what is printed
behind them, the last character first, the words that are left, the status, and whether all is
over. -/
structure Filled where
  printer : Printer
  earlier : List (Bool × String)
  printed : List Char
  words : List String
  status : Nat
  finished : Bool

namespace Filled

def print (text : List Char) (filled : Filled) : Filled :=
  { filled with printed := text.reverse ++ filled.printed }

/-- Complains; a shell with extensions first shows the lines that are complete, and a program
whatever is there. -/
def warn (message : String) (filled : Filled) : Filled :=
  let (begun, lines) := match filled.printer with
    | .plain => (filled.printed, [])
    | .extended => filled.printed.span (· ≠ '\n')
    | .program => ([], filled.printed)
  let shown := if lines = [] then [] else [(false, String.ofList lines.reverse)]
  { filled with
    earlier := filled.earlier ++ shown ++ [(true, message)]
    printed := begun }

def complain (message : String) (filled : Filled) : Filled :=
  { filled.warn message with status := 1 }

/-- Complains and prints nothing more. -/
def giveUp (status : Nat) (message : String) (filled : Filled) : Filled :=
  { filled.warn message with status, finished := true }

/-- All that is printed, and which of it is a complaint. -/
def pieces (filled : Filled) : List (Bool × String) :=
  filled.earlier ++ [(false, String.ofList filled.printed.reverse)]

/-- What is printed without the complaints. -/
def text (filled : Filled) : String :=
  String.join ((filled.pieces.filter (!·.1)).map Prod.snd)

def word (filled : Filled) : String × Filled :=
  (filled.words.headD "", { filled with words := filled.words.drop 1 })

/-- Complains about a word that is not all a number. -/
def checkNumber (text rest : List Char) (filled : Filled) : Filled :=
  let word := String.ofList text
  if rest = [] then filled
  else match filled.printer with
    | .extended =>
        let kind := match text with
          | '0' :: c :: _ =>
              if c = 'x' then "hex number" else if c.isDigit then "octal number" else "number"
          | _ => "number"
        filled.complain (word ++ ": invalid " ++ kind)
    | .plain =>
        filled.complain (word ++ if rest.length = text.length then ": expected numeric value"
          else ": not completely converted")
    | .program =>
        filled.complain (ShellQuoted.plain word ++
          if rest.length = text.length then ": expected a numeric value"
          else ": value not completely converted")

def outOfRange (word : String) (filled : Filled) : Filled :=
  let message := ": Numerical result out of range"
  match filled.printer with
  | .extended => filled.warn ("warning: " ++ word ++ message)
  | .plain => filled.complain (word ++ message)
  | .program => filled.complain (ShellQuoted.plain word ++ message)

/-- The number of a character behind a quote, which should stand alone. -/
def characterNumber (text : List Char) (filled : Filled) : Nat × Filled :=
  let surplus := String.ofList (text.drop 1)
  let filled :=
    if filled.printer ≠ .program || surplus = "" then filled
    else filled.warn ("warning: " ++ surplus ++
      ": character(s) following character constant have been ignored")
  ((text.headD '\x00').toNat, filled)

/-- Takes a number within bounds from the words; behind a quote, a character stands for its
number. -/
def number (least greatest : Int) (filled : Filled) : Int × Filled :=
  match filled.words with
  | [] => (0, filled)
  | word :: words =>
      let filled := { filled with words }
      let text := word.toList
      match text with
      | '\'' :: rest | '"' :: rest =>
          let (value, filled) := filled.characterNumber rest
          (value, filled)
      | _ =>
          match integer true text with
          | none => (0, filled.checkNumber text text)
          | some (value, rest) =>
              let bounded := max least (min greatest value)
              let filled := filled.checkNumber text rest
              if bounded = value ∨ rest ≠ [] then (bounded, filled)
              else (bounded, filled.outOfRange word)

def realNumber (size : Extended.Size) (filled : Filled) : Extended × Filled :=
  match filled.words with
  | [] => (.finite false 0, filled)
  | word :: words =>
      let filled := { filled with words }
      let text := word.toList
      match text with
      | '\'' :: rest | '"' :: rest =>
          let (value, filled) := filled.characterNumber rest
          (.finite false (Binary64.ofNat value), filled)
      | _ =>
          match Extended.read? size (text.dropWhile isSpace) with
          | none => (.finite false 0, filled.checkNumber text text)
          | some (value, outside, rest) =>
              if outside ∧ rest = [] then (value, filled.outOfRange word)
              else (value, filled.checkNumber text rest)

/-- The number of digits at the front of a text, and the rest; a star takes it from the words. -/
def size (text : List Char) (filled : Filled) : Int × List Char × Filled :=
  match text with
  | '*' :: rest =>
      let (value, filled) := filled.number smallestNumber largestNumber
      (value, rest, filled)
  | _ =>
      let (digits, rest) := text.span Char.isDigit
      ((digits.foldl (fun value c => 10 * value + (c.toNat - 48)) 0 : Nat), rest, filled)

/-- Prints the next word as a letter says; false if there is no such letter. -/
def convert (letter : Char) (placeholder : Placeholder) (filled : Filled) : Option Filled :=
  if letter = 's' then
    let (word, filled) := filled.word
    some (filled.print (placeholder.text word))
  else if letter = 'b' then
    let (word, filled) := filled.word
    let (backwards, finished) :=
      if filled.printer = .plain then unescape (word.length + 1) [] word.toList
      else unescapeMore (word.length + 1) [] word.toList
    some { filled.print (placeholder.text (String.ofList backwards.reverse)) with finished }
  else if letter = 'q' ∧ filled.printer ≠ .plain then
    let (word, filled) := filled.word
    some (filled.print (placeholder.text (escapedWord word)))
  else if letter = 'c' then
    let (word, filled) := filled.word
    some (filled.print (placeholder.pad [word.toList.headD '\x00']))
  else if letter = 'd' ∨ letter = 'i' then
    let (value, filled) := filled.number smallestNumber largestNumber
    some (filled.print (placeholder.signed value))
  else if "ouxX".toList.contains letter then
    let (value, filled) := filled.number (-0xffffffffffffffff) 0xffffffffffffffff
    some (filled.print (placeholder.unsigned letter (Arithmetic.bits value)))
  else if "aAeEfFgG".toList.contains letter then
    let size := if filled.printer = .plain then Extended.double else Extended.wide
    let (value, filled) := filled.realNumber size
    some (filled.print (placeholder.real size letter value))
  else none

/-- Fills in what stands behind a percent sign. -/
def placeholder (text : List Char) (filled : Filled) : List Char × Filled :=
  let (flags, rest) := text.span "#-+ 0".toList.contains
  let (width, rest, filled) := filled.size rest
  let flags := if width < 0 then '-' :: flags else flags
  let (places, rest, filled) : Option Nat × List Char × Filled := match rest with
    | '.' :: behind =>
        let (places, rest, filled) := filled.size behind
        (if places < 0 then none else some places.toNat, rest, filled)
    | _ => (none, rest, filled)
  let rest := if filled.printer = .plain then rest else rest.dropWhile "hjlLtz".toList.contains
  match rest with
  | [] =>
      ([], match filled.printer with
        | .plain => filled.giveUp 2 "missing format character"
        | .extended => filled.giveUp 1 "\x60%': missing format character"
        | .program =>
            filled.giveUp 1 ("%" ++ String.ofList text ++ ": invalid conversion specification"))
  | letter :: behind =>
      let plainly := flags = [] && width = 0 && places.isNone
      let misfit := filled.printer = .program &&
        ((flags.contains '0' && "cs".toList.contains letter) ||
          (flags.contains '#' && "cdisu".toList.contains letter) ||
          (places.isSome && letter = 'c') || (!plainly && "bq".toList.contains letter))
      let convert := if misfit then fun _ _ => none else filled.convert
      match convert letter ⟨flags, width.natAbs, places⟩ with
      | some filled => (behind, filled)
      | none =>
          let written := text.take (text.length - behind.length)
          let written := "%" ++ String.ofList written
          ([], match filled.printer with
            | .plain => filled.giveUp 2 (written ++ ": invalid directive")
            | .extended =>
                filled.giveUp 1 ("\x60" ++ letter.toString ++ "': invalid format character")
            | .program => filled.giveUp 1 (written ++ ": invalid conversion specification"))

/-- Fills in a format once. -/
def once : Nat → List Char → Filled → Filled
  | 0, _, filled => filled
  | _ + 1, [], filled => filled
  | fuel + 1, c :: rest, filled =>
      if filled.finished then filled
      else match c, rest with
        | '\\', rest =>
            if filled.printer = .plain then
              let (c, rest) := escape rest
              once fuel rest (filled.print [c])
            else if filled.printer = .program && rest.head? = some 'c' then
              { filled with finished := true }
            else
              let (chars, count) := Parser.namedEscape rest
              once fuel (rest.drop count) (filled.print chars)
        | '%', '%' :: rest => once fuel rest (filled.print ['%'])
        | '%', rest =>
            let (rest, filled) := filled.placeholder rest
            once fuel rest filled
        | c, rest => once fuel rest (filled.print [c])

/-- Fills in a format as often as there are words left for it. -/
def repeated (format : List Char) : Nat → Filled → Filled
  | 0, filled => filled
  | fuel + 1, filled =>
      let next := once (format.length + 1) format filled
      if next.finished ∨ next.words = [] then next
      else if next.words.length = filled.words.length then
        if next.printer = .program then
          next.warn ("warning: ignoring excess arguments, starting with " ++
            ShellQuoted.plain (next.words.headD ""))
        else next
      else repeated format fuel next

end Filled

/-- Fills in a format with words. -/
def fillIn (printer : Printer) (format : String) (words : List String) : Filled :=
  Filled.repeated format.toList (words.length + 1) ⟨printer, [], [], words, 0, false⟩

end CatalogSeed.Script
