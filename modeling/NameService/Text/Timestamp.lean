import NameService.Text.Decimal

/-!
# Timestamps

Milliseconds since the epoch as a date and a time of day in universal time. The
calendar is the Gregorian one, counted backwards where needed; its years are
bounded, and what lies outside is shown as the epoch.
-/

namespace NameService
namespace Text

/-- A day of the Gregorian calendar. -/
structure Date where
  year : Int
  /-- The month, from one to twelve. -/
  month : Nat
  /-- The day of the month, from one on. -/
  day : Nat
  deriving DecidableEq, Repr

namespace Date

/-- The days from the first of March of the year zero to the epoch. -/
def epochOffset : Int := 719468

/-- How many days four hundred years have. -/
def daysPerEra : Int := 146097

/-- The year of an era, counted from March, in which a day of the era lies. The
last day of four years, of a century that keeps no leap day, and of the era
itself need a correction. -/
def yearOfEra (day : Nat) : Nat :=
  (day - day / 1460 + day / 36524 - day / 146096) / 365

/-- The first day of a year of an era, counted from March. -/
def firstOfYear (year : Nat) : Nat := 365 * year + year / 4 - year / 100

/-- The month, counted from March, in which a day of a year lies. Five months in
a row have 153 days. -/
def monthIndex (day : Nat) : Nat := (5 * day + 2) / 153

/-- The first day of a month, counted from March. -/
def firstOfMonth (month : Nat) : Nat := (153 * month + 2) / 5

/-- The date of a day counted from the epoch. -/
def ofEpochDay (day : Int) : Date :=
  let shifted := day + epochOffset
  let dayOfEra := (shifted % daysPerEra).toNat
  let year := yearOfEra dayOfEra
  let dayOfYear := dayOfEra - firstOfYear year
  let month := monthIndex dayOfYear
  let sinceMarch : Int := shifted / daysPerEra * 400 + year
  ⟨if month < 10 then sinceMarch else sinceMarch + 1,
    if month < 10 then month + 3 else month - 9,
    dayOfYear - firstOfMonth month + 1⟩

example :
    ofEpochDay 0 = ⟨1970, 1, 1⟩ ∧ ofEpochDay 11016 = ⟨2000, 2, 29⟩ ∧
      ofEpochDay (-1) = ⟨1969, 12, 31⟩ := by decide

end Date

namespace Timestamp

/-- A numeral with zeros in front up to a width. -/
def padded (width number : Nat) : List Char :=
  let digits := decimal number
  List.replicate (width - digits.length) '0' ++ digits

/-- A year: four digits, and a sign outside of them. -/
def year (year : Int) : List Char :=
  if year < 0 then '-' :: padded 4 year.natAbs
  else if 9999 < year then '+' :: padded 4 year.natAbs
  else padded 4 year.natAbs

/-- How many milliseconds a day has. -/
def millisecondsPerDay : Int := 86400000

/-- Whether a year is one of the calendar. -/
def yearInRange (year : Int) : Bool := -262143 ≤ year && year ≤ 262142

/-- A time of day in milliseconds. -/
def timeOfDay (milliseconds : Nat) : List Char :=
  padded 2 (milliseconds / 3600000) ++ ':' ::
    padded 2 (milliseconds / 60000 % 60) ++
    ':' :: padded 2 (milliseconds / 1000 % 60) ++ '.' ::
    padded 3 (milliseconds % 1000)

/-- A date with dashes. -/
def date (date : Date) : List Char :=
  year date.year ++ '-' :: padded 2 date.month ++ '-' :: padded 2 date.day

/-- The moment of a number of milliseconds since the epoch. -/
def ofMilliseconds (milliseconds : Int) : List Char :=
  let day := Date.ofEpochDay (milliseconds / millisecondsPerDay)
  let rest := (milliseconds % millisecondsPerDay).toNat
  date day ++ 'T' :: timeOfDay rest ++ ['Z']

/-- The moment of a word, which counts milliseconds in two's complement. -/
def ofWord (word : Nat) : String :=
  let milliseconds := Int.bmod word (Nat.pow 2 64)
  let inRange :=
    yearInRange (Date.ofEpochDay (milliseconds / millisecondsPerDay)).year
  String.ofList (ofMilliseconds (if inRange then milliseconds else 0))

example : ofWord 1700000000123 = "2023-11-14T22:13:20.123Z" := by decide +kernel

example : ofWord (Nat.pow 2 64 - 1) = "1969-12-31T23:59:59.999Z" := by
  decide +kernel

end Timestamp
end Text
end NameService
