import CatalogSeed.Utility.Basic

/-!
Dates: a count of seconds since the beginning of 1970, taken apart into the parts of a day and a
calendar, and formats that show them.
-/

namespace CatalogSeed.Utility

namespace Moment

/-- The parts of a moment in the calendar. -/
structure Parts where
  seconds : Int
  year : Int
  month : Nat
  day : Nat
  dayOfYear : Nat
  weekday : Nat
  hour : Nat
  minute : Nat
  second : Nat
  nanosecond : Nat

def isLeap (year : Int) : Bool :=
  year % 4 = 0 && (year % 100 ≠ 0 || year % 400 = 0)

def monthLengths (year : Int) : List Nat :=
  [31, if isLeap year then 29 else 28, 31, 30, 31, 30, 31, 31, 30, 31, 30, 31]

/-- The days from the beginning of 1970 to the beginning of a year. -/
def daysBefore (year : Int) : Int :=
  let past := year - 1
  365 * (year - 1970) + (past / 4 - 492) - (past / 100 - 19) + (past / 400 - 4)

/-- The month and the day of the month for a day of a year; months count from one. -/
def monthAt : Nat → List Nat → Nat → Nat × Nat
  | month, [], day => (month, day + 1)
  | month, length :: rest, day =>
      if day < length then (month, day + 1) else monthAt (month + 1) rest (day - length)

def ofSeconds (seconds : Int) : Parts :=
  let days := seconds / 86400
  let rest := (seconds % 86400).toNat
  let guess := 1970 + days / 366 - 1
  let years := (List.range 4000).map fun step => guess + (step : Nat)
  let year := (years.find? fun year => days < daysBefore (year + 1)).getD 1970
  let dayOfYear := (days - daysBefore year).toNat
  let (month, day) := monthAt 1 (monthLengths year) dayOfYear
  ⟨seconds, year, month, day, dayOfYear, ((days + 4) % 7).toNat, rest / 3600, rest / 60 % 60,
    rest % 60, 0⟩

/-- The parts of a moment in nanoseconds. -/
def ofNanoseconds (moment : Int) : Parts :=
  let billion : Int := 1000000000
  { ofSeconds (moment / billion) with nanosecond := (moment % billion).toNat }

/-- The seconds at the beginning of a day. -/
def secondsOf (year : Int) (month day : Nat) : Int :=
  let before := ((monthLengths year).take (month - 1)).foldl (· + ·) 0
  86400 * (daysBefore year + (before : Nat) + (day : Nat) - 1)

def weekdays : List String :=
  ["Sunday", "Monday", "Tuesday", "Wednesday", "Thursday", "Friday", "Saturday"]

def months : List String :=
  ["January", "February", "March", "April", "May", "June", "July", "August", "September",
    "October", "November", "December"]

def filled (mark : Char) (width : Nat) (value : Int) : String :=
  let text := toString value
  String.ofList (List.replicate (width - text.length) mark) ++ text

/-- The year and the week of a moment where weeks begin on Mondays and belong to the year of their
Thursday. -/
def weekOf (parts : Parts) : Int × Int :=
  let weekday := (parts.weekday + 6) % 7
  let thursday := ofSeconds (parts.seconds + 86400 * (3 - (weekday : Int)))
  (thursday.year, (thursday.dayOfYear : Int) / 7 + 1)

/-- What a letter behind a percent sign stands for. -/
def part? (parts : Parts) (letter : Char) : Option String :=
  let two (n : Nat) : String := filled '0' 2 n
  let short (names : List String) (n : Nat) : String :=
    String.ofList ((names.getD n "").toList.take 3)
  let date := toString parts.year ++ "-" ++ two parts.month ++ "-" ++ two parts.day
  let time := two parts.hour ++ ":" ++ two parts.minute
  let half := if parts.hour % 12 = 0 then 12 else parts.hour % 12
  match letter with
  | 'Y' => some (toString parts.year)
  | 'C' => some (filled '0' 2 (parts.year / 100))
  | 'y' => some (filled '0' 2 (parts.year % 100))
  | 'm' => some (two parts.month)
  | 'd' => some (two parts.day)
  | 'e' => some (filled ' ' 2 parts.day)
  | 'H' => some (two parts.hour)
  | 'k' => some (filled ' ' 2 parts.hour)
  | 'I' => some (two half)
  | 'l' => some (filled ' ' 2 half)
  | 'M' => some (two parts.minute)
  | 'S' => some (two parts.second)
  | 'N' => some (filled '0' 9 parts.nanosecond)
  | 'q' => some (toString ((parts.month + 2) / 3))
  | 'j' => some (filled '0' 3 (parts.dayOfYear + 1 : Nat))
  | 's' => some (toString parts.seconds)
  | 'F' => some date
  | 'T' | 'X' => some (time ++ ":" ++ two parts.second)
  | 'R' => some time
  | 'D' | 'x' => some (two parts.month ++ "/" ++ two parts.day ++ "/" ++
      filled '0' 2 (parts.year % 100))
  | 'r' => some (two half ++ ":" ++ two parts.minute ++ ":" ++ two parts.second ++
      if parts.hour < 12 then " AM" else " PM")
  | 'c' => some (short weekdays parts.weekday ++ " " ++ short months (parts.month - 1) ++ " " ++
      filled ' ' 2 parts.day ++ " " ++ time ++ ":" ++ two parts.second ++ " " ++
      toString parts.year)
  | 'p' => some (if parts.hour < 12 then "AM" else "PM")
  | 'P' => some (if parts.hour < 12 then "am" else "pm")
  | 'A' => some (weekdays.getD parts.weekday "")
  | 'a' => some (short weekdays parts.weekday)
  | 'B' => some (months.getD (parts.month - 1) "")
  | 'b' | 'h' => some (short months (parts.month - 1))
  | 'u' => some (toString (if parts.weekday = 0 then 7 else parts.weekday))
  | 'w' => some (toString parts.weekday)
  | 'U' => some (two ((parts.dayOfYear + 7 - parts.weekday) / 7))
  | 'W' => some (two ((parts.dayOfYear + 7 - (parts.weekday + 6) % 7) / 7))
  | 'V' => some (filled '0' 2 (weekOf parts).2)
  | 'G' => some (toString (weekOf parts).1)
  | 'g' => some (filled '0' 2 ((weekOf parts).1 % 100))
  | 'Z' => some "UTC"
  | 'z' => some "+0000"
  | 'n' => some "\n"
  | 't' => some "\t"
  | '%' => some "%"
  | _ => none

/-- The letters whose parts are numbers, with what stands in front of short ones. -/
def numeric? (letter : Char) : Option Char :=
  if "YCymdHIMSNjsuwUWVGgq".toList.contains letter then some '0'
  else if "ekl".toList.contains letter then some ' '
  else none

/-- A part as flags and a width want it. -/
def shaped (parts : Parts) (flags : List Char) (width : Option Nat) (letter : Char) :
    Option String :=
  (part? parts letter).map fun text =>
    let text := if flags.contains '^' then text.toUpper
      else if flags.contains '#' then
        (if letter = 'p' ∨ letter = 'Z' then text.toLower else text.toUpper)
      else text
    let padding := (flags.filter "-_0".toList.contains).getLast?
    if letter = 'N' then
      let digits := text.toList.take (width.getD 9)
      if padding = some '-' then
        String.ofList (digits.reverse.dropWhile (· = '0')).reverse
      else String.ofList digits
    else match numeric? letter with
      | some mark =>
          let bare := text.toList.dropWhile fun c => c = '0' || c = ' '
          let bare := if bare = [] then ['0'] else bare
          let size := max text.length (width.getD 0)
          match padding with
          | some '-' => String.ofList bare
          | some '_' => String.ofList (List.replicate (size - bare.length) ' ' ++ bare)
          | some _ => String.ofList (List.replicate (size - bare.length) '0' ++ bare)
          | none =>
              let pads := List.replicate (size - text.length) mark
              String.ofList pads ++ text
      | none =>
          let mark := if padding = some '0' then '0' else ' '
          String.ofList (List.replicate (width.getD 0 - text.length) mark) ++ text

/-- Shows a moment as a format wants it. -/
def format (parts : Parts) : Nat → List Char → String
  | 0, _ => ""
  | _ + 1, [] => ""
  | fuel + 1, '%' :: rest =>
      let (flags, behind) := rest.span "-_0^#".toList.contains
      let (digits, behind) := behind.span Char.isDigit
      let width := (String.ofList digits).toNat?
      let behind := match behind with
        | 'E' :: letter :: more | 'O' :: letter :: more => letter :: more
        | behind => behind
      match behind with
      | ':' :: ':' :: 'z' :: more => "+00:00:00" ++ format parts fuel more
      | ':' :: 'z' :: more => "+00:00" ++ format parts fuel more
      | letter :: more =>
          match shaped parts flags width letter with
          | some text => text ++ format parts fuel more
          | none =>
              String.ofList ('%' :: rest.take (rest.length - more.length)) ++
                format parts fuel more
      | [] => String.ofList ('%' :: rest)
  | fuel + 1, c :: rest => c.toString ++ format parts fuel rest

/-- Half a year, in nanoseconds. -/
def halfYear : Int := 15778476000000000

/-- Whether a moment was not long ago. -/
def isRecent (now moment : Int) : Bool :=
  now - halfYear < moment && moment ≤ now

/-- Shows a moment in nanoseconds. -/
def render (moment : Int) (text : String) : String :=
  format (ofNanoseconds moment) (text.length + 1) text.toList

end Moment

end CatalogSeed.Utility
