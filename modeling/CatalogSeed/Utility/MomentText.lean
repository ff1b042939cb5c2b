import CatalogSeed.Utility.Moment

/-!
Moments as texts tell them: dates, times of day, days of the week, and what lies so far from
another moment.
-/

namespace CatalogSeed.Utility.MomentText

/-- What a text is made of. A number comes with its sign, its digits, and what stands behind its
point. -/
inductive Token
  | number (sign : Option Char) (digits : List Char) (fraction : List Char)
  | word (word : String)
  | mark (mark : Char)
  deriving DecidableEq

def isBlank (c : Char) : Bool :=
  c = ' ' || c = '\t' || c = '\n'

def takeNumber (sign : Option Char) (rest : List Char) : Token × List Char :=
  let (digits, behind) := rest.span Char.isDigit
  match behind with
  | c :: more =>
      let (fraction, left) := more.span Char.isDigit
      if (c = '.' || c = ',') && fraction ≠ [] then (.number sign digits fraction, left)
      else (.number sign digits [], behind)
  | [] => (.number sign digits [], [])

/-- Takes a text apart; remarks between brackets are left out. -/
def tokens : Nat → List Char → List Token
  | 0, _ => []
  | _ + 1, [] => []
  | fuel + 1, c :: rest =>
      if isBlank c then tokens fuel rest
      else if c = '(' then tokens fuel ((rest.dropWhile (· ≠ ')')).drop 1)
      else if c.isDigit then
        let (token, left) := takeNumber none (c :: rest)
        token :: tokens fuel left
      else if c = '+' ∨ c = '-' then
        match rest.dropWhile isBlank with
        | d :: more =>
            if d.isDigit then
              let (token, left) := takeNumber (some c) (d :: more)
              token :: tokens fuel left
            else .mark c :: tokens fuel rest
        | [] => [.mark c]
      else if c.isAlpha then
        let (letters, left) := (c :: rest).span fun d => d.isAlpha || d = '.'
        let word := String.ofList (letters.filter (· ≠ '.'))
        .word word.toLower :: tokens fuel left
      else .mark c :: tokens fuel rest

def valueOf (digits : List Char) : Nat :=
  digits.foldl (fun value c => 10 * value + (c.toNat - 48)) 0

def signed (sign : Option Char) (digits : List Char) : Int :=
  if sign = some '-' then -(valueOf digits : Int) else valueOf digits

/-- The billionths that digits behind a point stand for. -/
def billionths (fraction : List Char) : Nat :=
  let digits := fraction.take 9
  valueOf (digits ++ List.replicate (9 - digits.length) '0')

/-- What a text has told so far. -/
structure Told where
  date : Option (Int × Nat × Nat) := none
  /-- A day of a month without its year. -/
  yearless : Bool := false
  time : Option (Nat × Nat × Nat × Nat) := none
  zone : Option Int := none
  weekday : Option (Int × Nat) := none
  months : Int := 0
  days : Int := 0
  seconds : Int := 0
  nanoseconds : Int := 0
  relative : Bool := false

/-- The number of a name that is written in full or short. -/
def nameIndex? (names : List String) (word : String) : Option Nat :=
  let index := names.findIdx fun name =>
    word = name.toLower || word = String.ofList (name.toLower.toList.take 3)
  if index < names.length then some index else none

def month? (word : String) : Option Nat :=
  if word = "sept" then some 9 else (nameIndex? Moment.months word).map (· + 1)

def weekday? (word : String) : Option Nat :=
  if ["tues"].contains word then some 2
  else if ["wednes"].contains word then some 3
  else if ["thur", "thurs"].contains word then some 4
  else nameIndex? Moment.weekdays word

/-- The zones that have names, by their distance in minutes. -/
def zones : List (String × Int) := [
  ("gmt", 0), ("ut", 0), ("utc", 0), ("z", 0), ("wet", 0), ("west", 60), ("bst", 60),
  ("cet", 60), ("cest", 120), ("met", 60), ("eet", 120), ("eest", 180), ("msk", 180),
  ("ist", 330), ("jst", 540), ("est", -300), ("edt", -240), ("cst", -360), ("cdt", -300),
  ("mst", -420), ("mdt", -360), ("pst", -480), ("pdt", -420)]

/-- Numbers in words; there is none for two. -/
def ordinals : List (String × Int) := [
  ("last", -1), ("this", 0), ("next", 1), ("first", 1), ("third", 3), ("fourth", 4),
  ("fifth", 5), ("sixth", 6), ("seventh", 7), ("eighth", 8), ("ninth", 9), ("tenth", 10),
  ("eleventh", 11), ("twelfth", 12)]

/-- A unit of time: the months, days and seconds in it. -/
def unit? (word : String) : Option (Int × Int × Int) :=
  let single := if word.endsWith "s" ∧ 3 < word.length then
      String.ofList word.toList.dropLast
    else word
  [("year", (12, 0, 0)), ("month", (1, 0, 0)), ("fortnight", (0, 14, 0)), ("week", (0, 7, 0)),
    ("day", (0, 1, 0)), ("hour", (0, 0, 3600)), ("minute", (0, 0, 60)), ("min", (0, 0, 60)),
    ("second", (0, 0, 1)), ("sec", (0, 0, 1))].lookup single

/-- Days that words name by their distance from today. -/
def shifts : List (String × Int) :=
  [("tomorrow", 1), ("yesterday", -1), ("today", 0), ("now", 0)]

/-- Adds so many units, unless the word behind turns them around. -/
def shifted (told : Told) (count : Int) (unit : Int × Int × Int) (rest : List Token) :
    Told × List Token :=
  let (count, rest) := match rest with
    | .word "ago" :: rest => (-count, rest)
    | rest => (count, rest)
  ({ told with
      months := told.months + count * unit.1, days := told.days + count * unit.2.1
      seconds := told.seconds + count * unit.2.2, relative := true }, rest)

/-- A year as it is written: one of two digits belongs to this century or the one before. -/
def yearOf (digits : List Char) : Int :=
  let value := valueOf digits
  if digits.length ≤ 2 then (if value < 69 then 2000 + value else 1900 + value : Nat) else value

def setDate (told : Told) (year : Int) (month day : Nat) (yearless : Bool) : Option Told :=
  if told.date.isSome then none else some { told with date := some (year, month, day), yearless }

def setTime (told : Told) (hour minute second nano : Nat) : Option Told :=
  if told.time.isSome || 24 ≤ hour || 60 ≤ minute || 60 < second then none
  else some { told with time := some (hour, minute, second, nano) }

/-- The hour of a half day. -/
def halfHour? (hour : Nat) (half : String) : Option Nat :=
  if hour = 0 ∨ 12 < hour then none
  else if half = "am" then some (hour % 12)
  else if half = "pm" then some (hour % 12 + 12)
  else none

def setZone (told : Told) (minutes : Int) : Option Told :=
  if told.zone.isSome then none else some { told with zone := some minutes }

/-- A distance of a zone: hours, or hours and minutes. -/
def zoneMinutes (sign : Option Char) (digits : List Char) : Int :=
  let value := valueOf digits
  let minutes := if digits.length ≤ 2 then 60 * value else 60 * (value / 100) + value % 100
  if sign = some '-' then -(minutes : Int) else minutes

/-- What can stand behind a time of day: a half of the day, or the distance of a zone. -/
def behindTime (told : Told) (hour minute second nano : Nat) (rest : List Token) :
    Option (Told × List Token) :=
  match rest with
  | .number (some sign) digits [] :: .mark ':' :: .number none more [] :: rest => do
      let told ← setTime told hour minute second nano
      let minutes := zoneMinutes (some sign) digits
      let extra : Int := if sign = '-' then -(valueOf more : Int) else valueOf more
      return (← setZone told (minutes + extra), rest)
  | .number (some sign) digits [] :: rest => do
      let told ← setTime told hour minute second nano
      return (← setZone told (zoneMinutes (some sign) digits), rest)
  | .word half :: rest =>
      if half = "am" ∨ half = "pm" then do
        return (← setTime told (← halfHour? hour half) minute second nano, rest)
      else (setTime told hour minute second nano).map (·, .word half :: rest)
  | rest => (setTime told hour minute second nano).map (·, rest)

/-- Takes note of what the next tokens tell, with the year that counts where none is told. -/
def tell (thisYear : Int) (told : Told) : List Token → Option (Told × List Token)
  | .number none year [] :: .number (some '-') month [] :: .number (some '-') day [] :: rest => do
      let told ← setDate told (yearOf year) (valueOf month) (valueOf day) false
      match rest with
      | .word "t" :: .number none digits fraction :: rest =>
          return (told, .number none digits fraction :: rest)
      | rest => return (told, rest)
  | .number none a [] :: .mark '/' :: .number none b [] :: .mark '/' :: .number none c [] ::
      rest => do
      if 4 ≤ a.length then return (← setDate told (valueOf a) (valueOf b) (valueOf c) false, rest)
      else return (← setDate told (yearOf c) (valueOf a) (valueOf b) false, rest)
  | .number none a [] :: .mark '/' :: .number none b [] :: rest => do
      return (← setDate told thisYear (valueOf a) (valueOf b) false, rest)
  | .number none hour [] :: .mark ':' :: .number none minute [] :: .mark ':' ::
      .number none second fraction :: rest =>
      behindTime told (valueOf hour) (valueOf minute) (valueOf second) (billionths fraction) rest
  | .number none hour [] :: .mark ':' :: .number none minute [] :: rest =>
      behindTime told (valueOf hour) (valueOf minute) 0 0 rest
  | .number none day [] :: .word word :: rest =>
      match month? word, unit? word, weekday? word, word with
      | some month, _, _, _ =>
          match rest with
          | .number (some '-') year [] :: rest => do
              return (← setDate told (yearOf year) month (valueOf day) false, rest)
          | .number none year [] :: rest =>
              match rest with
              | .mark ':' :: _ => do
                  let told ← setDate told thisYear month (valueOf day) true
                  return (told, .number none year [] :: rest)
              | _ => do return (← setDate told (yearOf year) month (valueOf day) false, rest)
          | rest => do return (← setDate told thisYear month (valueOf day) true, rest)
      | none, some unit, _, _ => some (shifted told (valueOf day) unit rest)
      | none, none, some weekday, _ =>
          if told.weekday.isSome then none
          else some ({ told with weekday := some ((valueOf day : Nat), weekday) }, rest)
      | none, none, none, half =>
          if half = "am" ∨ half = "pm" then do
            return (← setTime told (← halfHour? (valueOf day) half) 0 0 0, rest)
          else bare day (.word word :: rest)
  | .number (some sign) count [] :: .word word :: rest =>
      (unit? word).map fun unit => shifted told (signed (some sign) count) unit rest
  | .number none digits [] :: rest => bare digits rest
  | .number _ _ _ :: _ => none
  | .word word :: rest =>
      match month? word, weekday? word, ordinals.lookup word, zones.lookup word with
      | some month, _, _, _ =>
          match rest with
          | .number none day [] :: .mark ',' :: .number none year [] :: rest => do
              return (← setDate told (yearOf year) month (valueOf day) false, rest)
          | .number (some '-') day [] :: .number (some '-') year [] :: rest => do
              return (← setDate told (yearOf year) month (valueOf day) false, rest)
          | .number none day [] :: rest => do
              return (← setDate told thisYear month (valueOf day) true, rest)
          | _ => none
      | none, some weekday, _, _ =>
          let rest := match rest with
            | .mark ',' :: rest => rest
            | rest => rest
          if told.weekday.isSome then none
          else some ({ told with weekday := some (0, weekday) }, rest)
      | none, none, some ordinal, _ =>
          match rest with
          | .word next :: rest =>
              match unit? next, weekday? next with
              | some unit, _ => some (shifted told ordinal unit rest)
              | none, some weekday =>
                  if told.weekday.isSome then none
                  else some ({ told with weekday := some (ordinal, weekday) }, rest)
              | none, none => none
          | _ => none
      | none, none, none, some minutes => (setZone told minutes).map (·, rest)
      | none, none, none, none =>
          match unit? word, shifts.lookup word with
          | some unit, _ => some (shifted told 1 unit rest)
          | none, some days =>
              some ({ told with days := told.days + days, relative := true }, rest)
          | none, none => none
  | .mark _ :: _ => none
  | [] => none
where
  /-- A number alone is a year where one is missing, or a date, or a time of day. -/
  bare (digits : List Char) (rest : List Token) : Option (Told × List Token) :=
    let value := valueOf digits
    match told.date with
    | some (_, month, day) =>
        if told.yearless && (told.time.isSome || 2 < digits.length) then
          some ({ told with date := some (yearOf digits, month, day), yearless := false }, rest)
        else clock value rest digits
    | none =>
        if 4 < digits.length then do
          let year := yearOf (digits.take (digits.length - 4))
          return (← setDate told year (value / 100 % 100) (value % 100) false, rest)
        else clock value rest digits
  clock (value : Nat) (rest : List Token) (digits : List Char) : Option (Told × List Token) :=
    if 4 < digits.length then none
    else if digits.length ≤ 2 then (setTime told value 0 0 0).map (·, rest)
    else (setTime told (value / 100) (value % 100) 0 0).map (·, rest)

def tellAll (thisYear : Int) : Nat → Told → List Token → Option Told
  | 0, _, _ => none
  | _ + 1, told, [] => some told
  | fuel + 1, told, tokens =>
      match tell thisYear told tokens with
      | none => none
      | some (told, rest) => tellAll thisYear fuel told rest

def billion : Int := 1000000000

/-- The moment that is told, in nanoseconds. -/
def Told.moment? (told : Told) (now : Int) : Option Int :=
  let today := Moment.ofSeconds (now / billion)
  let (year, month, day) := told.date.getD (today.year, today.month, today.day)
  let asNow := told.relative && told.date.isNone && told.weekday.isNone
  let (hour, minute, second, nano) := match told.time with
    | some time => time
    | none =>
        if asNow then (today.hour, today.minute, today.second, (now % billion).toNat)
        else (0, 0, 0, 0)
  if month < 1 ∨ 12 < month ∨ day < 1 ∨
      (Moment.monthLengths year).getD (month - 1) 0 < day then none
  else
    let weekShift : Int := match told.weekday, told.date with
      | some (ordinal, weekday), none =>
          let away : Int := ((weekday + 7 - today.weekday) % 7 : Nat)
          let less : Int := if 0 < ordinal ∧ today.weekday ≠ weekday then 1 else 0
          away + 7 * (ordinal - less)
      | _, _ => 0
    let index := year * 12 + ((month : Int) - 1) + told.months
    let start := Moment.secondsOf (index / 12) ((index % 12).toNat + 1) 1
    let days : Int := (day : Int) - 1 + told.days + weekShift
    let clock : Int := (3600 * hour + 60 * minute + second : Nat)
    let zone := (told.zone.getD 0) * 60
    some ((start + 86400 * days + clock - zone + told.seconds) * billion + (nano : Int))

/-- The moment that a text tells, in nanoseconds; what it does not tell is as it is now. -/
def parse? (now : Int) (text : String) : Option Int :=
  match tokens (text.length + 1) text.toList with
  | [.mark '@', .number sign digits fraction] =>
      let seconds := signed sign digits * billion
      let part : Int := billionths fraction
      some (if sign = some '-' then seconds - part else seconds + part)
  | all =>
      let thisYear := (Moment.ofSeconds (now / billion)).year
      (tellAll thisYear (all.length + 1) {} all).bind fun told => told.moment? now

end CatalogSeed.Utility.MomentText
