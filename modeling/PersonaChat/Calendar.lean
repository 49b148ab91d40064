import PersonaChat.Number.Binary64
import PersonaChat.Text.Digit

/-!
# Calendar dates of time stamps

A time stamp counts the seconds since the start of 1970 in universal time. Dates follow the
proleptic Gregorian calendar for the years 1 to 9999. The clock of a message is known only from the
second day of year 1 on, as its reading looks back one day for a change of the time zone.
-/

namespace PersonaChat

open Text Number

/-- A point of time in calendar form. -/
structure Calendar where
  /-- The year. -/
  year : Int
  /-- The month, from 1. -/
  month : Nat
  /-- The day of the month, from 1. -/
  day : Nat
  /-- The hour. -/
  hour : Nat
  /-- The minute. -/
  minute : Nat
  /-- The second. -/
  second : Nat
  deriving DecidableEq

namespace Calendar

/-- Seconds of a day. -/
def daySeconds : Int := 86400

/-- The first second of year 1. -/
def firstSecond : Int := -62135596800

/-- The last second of year 9999. -/
def lastSecond : Int := 253402300799

/-- Year, month and day of a day counted from the start of 1970. Years are counted from March, so
that the leap day is the last of its year, in eras of 400 years. -/
def ofDay (days : Int) : Int × Nat × Nat :=
  let shifted := days + 719468
  let era := Int.fdiv shifted 146097
  let dayOfEra := (Int.fmod shifted 146097).toNat
  let yearOfEra := (dayOfEra - dayOfEra / 1460 + dayOfEra / 36524 - dayOfEra / 146096) / 365
  let dayOfYear := dayOfEra - (365 * yearOfEra + yearOfEra / 4 - yearOfEra / 100)
  let marchMonth := (5 * dayOfYear + 2) / 153
  let day := dayOfYear - (153 * marchMonth + 2) / 5 + 1
  let month := if marchMonth < 10 then marchMonth + 3 else marchMonth - 9
  ((yearOfEra : Int) + era * 400 + (if month ≤ 2 then 1 else 0), month, day)

/-- The calendar form of a time stamp. -/
def ofSeconds (seconds : Int) : Calendar :=
  let (year, month, day) := ofDay (Int.fdiv seconds daySeconds)
  let rest := (Int.fmod seconds daySeconds).toNat
  ⟨year, month, day, rest / 3600, rest / 60 % 60, rest % 60⟩

/-- Why a time stamp has no calendar form. -/
inductive Fault where
  /-- The year is not known, or the time stamp is no number. -/
  | yearUnknown
  /-- The time stamp lies so far away that its year cannot be counted. -/
  | yearTooLarge
  /-- The time stamp cannot be told in whole seconds. -/
  | tooLarge
  deriving DecidableEq, Repr

/-- The last second whose year can be counted. -/
def lastCounted : Int := 67768036191676799

/-- The first second whose year can be counted. -/
def firstCounted : Int := -67768040609740800

/-- The calendar form of a time stamp, from a given first second of the years that are known. -/
def within (first seconds : Int) : Except Fault Calendar :=
  if seconds < -(Int.pow 2 63) ∨ Int.pow 2 63 ≤ seconds then .error .tooLarge
  else if seconds < firstCounted ∨ lastCounted < seconds then .error .yearTooLarge
  else if seconds < first ∨ lastSecond < seconds then .error .yearUnknown
  else .ok (ofSeconds seconds)

/-- The calendar form of a time stamp on the universal clock. -/
def onUniversalClock (seconds : Int) : Except Fault Calendar := within firstSecond seconds

/-- The calendar form of a time stamp on a local clock, which looks back one day. -/
def onLocalClock (seconds : Int) : Except Fault Calendar :=
  within (firstSecond + daySeconds) seconds

/-- What a clock shows that tells seconds as a floating-point number. -/
def clockSeconds (seconds : Int) : Int :=
  ((Binary64.ofInt seconds).truncate?).getD seconds

/-- Two digits. -/
def two (n : Nat) : List Char := paddedChars 2 n

/-- Month, day, hour and minute: `11-14 22:13`. -/
def short (t : Calendar) : String :=
  String.ofList (two t.month ++ '-' :: two t.day ++ ' ' :: two t.hour ++ ':' :: two t.minute)

/-- Date and time: `2023-11-14 22:13:20`. The year has no leading zeros. -/
def long (t : Calendar) : String :=
  String.ofList (intChars t.year ++ '-' :: two t.month ++ '-' :: two t.day ++ ' ' ::
    two t.hour ++ ':' :: two t.minute ++ ':' :: two t.second)

/-- Date and time as one run of digits, for file names: `20231114221320`. -/
def stamp (t : Calendar) : String :=
  String.ofList (intChars t.year ++ two t.month ++ two t.day ++ two t.hour ++ two t.minute ++
    two t.second)

/-- Date and time with a `T` between them and, unless they are zero, the microseconds; the `Z` at
the end tells the universal clock. -/
def zulu (t : Calendar) (microseconds : Nat) : String :=
  String.ofList (paddedChars 4 t.year.toNat ++ '-' :: two t.month ++ '-' :: two t.day ++ 'T' ::
    two t.hour ++ ':' :: two t.minute ++ ':' :: two t.second ++
    (if microseconds = 0 then [] else '.' :: paddedChars 6 microseconds) ++ ['Z'])

/-- Whole seconds and microseconds of a moment. The part of a second is told in microseconds by a
multiplication that rounds, and then rounded to a whole number; both go to the nearest, ties to
even. -/
def splitMoment : Binary64 → Except Fault (Int × Nat)
  | .finite negative m e =>
    let (n, d) := Binary64.ratio m e
    let whole : Int := (n / d : Nat)
    let part : Int := match Binary64.ofRatio false (n % d * 1000000) d with
      | .finite _ m e => let (n, d) := Binary64.ratio m e; Binary64.roundDiv n d
      | _ => 0
    let total := whole * 1000000 + part
    let total := if negative then -total else total
    .ok (Int.fdiv total 1000000, (Int.fmod total 1000000).toNat)
  | .infinite _ => .error .tooLarge
  | .notANumber => .error .yearUnknown

end Calendar
end PersonaChat
