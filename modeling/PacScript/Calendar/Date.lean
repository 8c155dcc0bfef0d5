/-!
# Calendar dates

The proleptic Gregorian calendar. Days are numbered from the first of January of year 1, which is
day `0` and a Monday; `Date.dayNumber` and `Date.ofDayNumber` pass between the two.
-/

namespace PacScript

/-- A calendar date. -/
structure Date where
  year : Nat
  month : Nat
  day : Nat
  deriving DecidableEq

namespace Date

def isLeap (year : Nat) : Bool := year % 4 == 0 && (year % 100 != 0 || year % 400 == 0)

/-- The lengths of the twelve months. -/
def monthLengths (leap : Bool) : List Nat :=
  [31, if leap then 29 else 28, 31, 30, 31, 30, 31, 31, 30, 31, 30, 31]

/-- The length of a month; `0` for what is no month. -/
def daysInMonth (year month : Nat) : Nat :=
  match month with
  | 0 => 0
  | m + 1 => (monthLengths (isLeap year))[m]?.getD 0

/-- The number of days before the first of January. -/
def daysBeforeYear (year : Nat) : Nat :=
  let y := year - 1
  y * 365 + y / 4 + y / 400 - y / 100

/-- The number of days between the first of January and the first of the month. -/
def daysBeforeMonth (year month : Nat) : Nat :=
  ((monthLengths (isLeap year)).take (month - 1)).foldl (· + ·) 0

/-- The days since the first of January of year 1. -/
def dayNumber (d : Date) : Nat :=
  daysBeforeYear d.year + daysBeforeMonth d.year d.month + (d.day - 1)

/-- Whether the date occurs in the calendar of the years 1 to 9999. -/
def isValid (d : Date) : Bool :=
  1 ≤ d.year && d.year ≤ 9999 && 1 ≤ d.month && d.month ≤ 12 && 1 ≤ d.day
    && d.day ≤ daysInMonth d.year d.month

/-- The month and day that lie `rest` days after the first day of the given month. -/
def inMonths : (lengths : List Nat) → (month rest : Nat) → Nat × Nat
  | [], month, rest => (month, rest + 1)
  | length :: more, month, rest =>
    if rest < length then (month, rest + 1) else inMonths more (month + 1) (rest - length)

/-- The date of a day number. -/
def ofDayNumber (n : Nat) : Date :=
  let fourCenturies := n / 146097
  let r := n % 146097
  let centuries := min 3 (r / 36524)
  let r := r - centuries * 36524
  let fourYears := r / 1461
  let r := r % 1461
  let years := min 3 (r / 365)
  let r := r - years * 365
  let year := fourCenturies * 400 + centuries * 100 + fourYears * 4 + years + 1
  let (month, day) := inMonths (monthLengths (isLeap year)) 1 r
  { year, month, day }

/-- The day of the week of a day number, counted from Sunday. -/
def weekdayOf (dayNumber : Nat) : Nat := (dayNumber + 1) % 7

/-- The number of days from year 1 to the end of year 9999. -/
def calendarDays : Nat := 3652059

end Date

end PacScript
