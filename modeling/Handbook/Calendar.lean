/-!
Dates. Days are counted from the first of January 1970 in the Gregorian calendar, and years are taken to
begin in March, so that a leap day is the last day of its year.
-/

namespace Handbook.Calendar

structure Date where
  year : Int
  month : Nat
  day : Nat
  deriving Repr, DecidableEq

/-- The number of a day. -/
def dayNumber (date : Date) : Int :=
  let year := if date.month ≤ 2 then date.year - 1 else date.year
  let era := Int.fdiv year 400
  let yearOfEra := year - era * 400
  let month := (date.month + 9) % 12
  let dayOfYear : Int := (153 * month + 2) / 5 + date.day - 1
  let dayOfEra := yearOfEra * 365 + yearOfEra / 4 - yearOfEra / 100 + dayOfYear
  era * 146097 + dayOfEra - 719468

/-- The day of a number. -/
def dateOf (number : Int) : Date :=
  let shifted := number + 719468
  let era := Int.fdiv shifted 146097
  let dayOfEra := (shifted - era * 146097).toNat
  let yearOfEra := (dayOfEra - dayOfEra / 1460 + dayOfEra / 36524 - dayOfEra / 146096) / 365
  let dayOfYear := dayOfEra - (365 * yearOfEra + yearOfEra / 4 - yearOfEra / 100)
  let place := (5 * dayOfYear + 2) / 153
  let day := dayOfYear - (153 * place + 2) / 5 + 1
  let month := if place < 10 then place + 3 else place - 9
  let year : Int := yearOfEra + era * 400
  ⟨if month ≤ 2 then year + 1 else year, month, day⟩

/-- An instant: seconds since the start of 1970 in universal time. -/
structure Instant where
  seconds : Int
  deriving Repr, DecidableEq

/-- The instant of a date and a time of day, in seconds, that are given for a place whose clocks are ahead
of universal time by an offset. -/
def instantOf (date : Date) (timeOfDay : Nat) (offset : Int) : Instant :=
  ⟨dayNumber date * 86400 + timeOfDay - offset⟩

/-- The day of an instant in universal time. -/
def Instant.date (instant : Instant) : Date := dateOf (Int.fdiv instant.seconds 86400)

/-- Whether a day has a name: years have four digits, and the first one is the year 1. -/
def Date.hasName (date : Date) : Bool := 1 ≤ date.year && date.year ≤ 9999

/-- A number with at least so many digits. -/
def padded (width number : Nat) : String :=
  let digits := Nat.toDigits 10 number
  String.ofList (List.replicate (width - digits.length) '0' ++ digits)

/-- A day as text: year, month and day with hyphens between them. -/
def Date.text (date : Date) : String :=
  s!"{padded 4 date.year.toNat}-{padded 2 date.month}-{padded 2 date.day}"

example : dateOf (dayNumber ⟨2024, 2, 29⟩) = ⟨2024, 2, 29⟩ := by decide
example : (instantOf ⟨1, 1, 1⟩ 3599 3600).date.hasName = false := by decide
example : (instantOf ⟨2024, 1, 1⟩ 3600 7200).date = ⟨2023, 12, 31⟩ := by decide

end Handbook.Calendar
