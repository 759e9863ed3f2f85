import Storefront.Decimal.Exact

/-! # The civil calendar

Moments as year, month, day and time of day, and the count of days that relates them to a number of
seconds.  `timestamp` writes the moment that lies a number of seconds after the start of 1970. -/

namespace Storefront.Calendar

/-- A moment to the second. -/
structure Moment where
  year : Int
  month : Nat
  day : Nat
  hour : Nat
  minute : Nat
  second : Nat
  deriving DecidableEq, Repr

/-- Whether a year has a 29th of February. -/
def isLeap (year : Int) : Bool := year % 4 = 0 && (year % 100 ≠ 0 || year % 400 = 0)

/-- The number of days of a month. -/
def daysInMonth (year : Int) (month : Nat) : Nat :=
  if month = 2 then if isLeap year then 29 else 28
  else if month ∈ [4, 6, 9, 11] then 30 else 31

/-- The number of days from the start of 1970 to a date, negative before it.  Years are counted from
March, so that a leap day is the last of its year. -/
def dayNumber (year : Int) (month day : Nat) : Int :=
  let y := if month ≤ 2 then year - 1 else year
  let era := y / 400
  let yearOfEra := y - era * 400
  let m : Int := (month + 9) % 12
  let dayOfYear := (153 * m + 2) / 5 + day - 1
  let dayOfEra := yearOfEra * 365 + yearOfEra / 4 - yearOfEra / 100 + dayOfYear
  era * 146097 + dayOfEra - 719468

/-- The year, month and day of a number of days since the start of 1970. -/
def civil (days : Int) : Int × Nat × Nat :=
  let z := days + 719468
  let era := z / 146097
  let dayOfEra := z - era * 146097
  let yearOfEra := (dayOfEra - dayOfEra / 1460 + dayOfEra / 36524 - dayOfEra / 146096) / 365
  let dayOfYear := dayOfEra - (365 * yearOfEra + yearOfEra / 4 - yearOfEra / 100)
  let m := (5 * dayOfYear + 2) / 153
  let day := dayOfYear - (153 * m + 2) / 5 + 1
  let month := if m < 10 then m + 3 else m - 9
  let year := yearOfEra + era * 400 + if month ≤ 2 then 1 else 0
  (year, month.toNat, day.toNat)

/-- The day of the week of a number of days since the start of 1970, Monday being 0. -/
def weekday (days : Int) : Int := (days + 3) % 7

/-- The moment a number of seconds after the start of 1970. -/
def Moment.ofSeconds (seconds : Int) : Moment :=
  let (year, month, day) := civil (seconds / 86400)
  let rest := (seconds % 86400).toNat
  ⟨year, month, day, rest / 3600, rest / 60 % 60, rest % 60⟩

/-- The text of a moment, in the form `2024-01-02T03:04:05Z`. -/
def timestamp (seconds : Int) : String :=
  let m := Moment.ofSeconds seconds
  let two := Decimal.padded 2
  String.ofList (Decimal.padded 4 m.year.toNat ++ '-' :: two m.month ++ '-' :: two m.day ++
    'T' :: two m.hour ++ ':' :: two m.minute ++ ':' :: two m.second ++ ['Z'])

end Storefront.Calendar
