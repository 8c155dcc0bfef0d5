import PacScript.Calendar.Date
import PacScript.Text.Basic

/-!
# Instants

An instant is a reading of a clock face, in microseconds since the beginning of year 1, together
with the offset of that clock from universal time, in microseconds too. Without an offset it is a
reading of the system clock. The ISO text of an instant is written here.
-/

namespace PacScript

/-- What tells a time zone from others: the name of a region, or the number of an object. -/
inductive ZoneId
  | region (name : String)
  | object (number : Nat)
  deriving DecidableEq

/-- A clock reading with its offset from universal time, and the zone on whose clocks it was made,
as far as there is one. -/
structure Instant where
  wall : Int
  offset : Option Int
  zone : Option ZoneId := none
  deriving DecidableEq

namespace Instant

open PacScript.Text (decimalDigits)

def microsPerSecond : Int := 1000000

def microsPerMinute : Int := 60 * microsPerSecond

def microsPerDay : Int := 86400 * microsPerSecond

/-- Whether a clock reading lies in the years 1 to 9999. -/
def inCalendar (wall : Int) : Bool := 0 ≤ wall && wall < Date.calendarDays * microsPerDay

/-- The number of the day shown by the clock. -/
def dayNumber (i : Instant) : Nat := (i.wall / microsPerDay).toNat

def date (i : Instant) : Date := Date.ofDayNumber i.dayNumber

/-- The second of the day shown by the clock. -/
def secondOfDay (i : Instant) : Nat := (i.wall % microsPerDay / microsPerSecond).toNat

def microsecond (i : Instant) : Nat := (i.wall % microsPerSecond).toNat

def hour (i : Instant) : Nat := i.secondOfDay / 3600

def minute (i : Instant) : Nat := i.secondOfDay / 60 % 60

def second (i : Instant) : Nat := i.secondOfDay % 60

/-- The day of the week, counted from Sunday. -/
def weekday (i : Instant) : Nat := Date.weekdayOf i.dayNumber

/-- The reading at a date and a time of day. -/
def ofParts (d : Date) (second microsecond : Nat) (offset : Option Int) : Instant where
  wall := d.dayNumber * microsPerDay + second * microsPerSecond + microsecond
  offset := offset

/-- An offset as a sign, hours and minutes; seconds and a fraction unless they are zero. -/
def offsetChars (offset : Int) : List Char :=
  let seconds := offset.natAbs / 1000000
  let micros := offset.natAbs % 1000000
  let fraction := if micros = 0 then [] else '.' :: decimalDigits 6 micros
  let rest :=
    if seconds % 60 = 0 ∧ micros = 0 then [] else ':' :: decimalDigits 2 (seconds % 60) ++ fraction
  (if offset < 0 then '-' else '+') :: decimalDigits 2 (seconds / 3600) ++
    ':' :: decimalDigits 2 (seconds / 60 % 60) ++ rest

def dateChars (d : Date) : List Char :=
  decimalDigits 4 d.year ++ '-' :: decimalDigits 2 d.month ++ '-' :: decimalDigits 2 d.day

/-- Hours, minutes and seconds, and a fraction unless it is zero. -/
def timeChars (i : Instant) : List Char :=
  decimalDigits 2 i.hour ++ ':' :: decimalDigits 2 i.minute ++ ':' :: decimalDigits 2 i.second ++
    (if i.microsecond = 0 then [] else '.' :: decimalDigits 6 i.microsecond)

/-- Whether two readings are of one point in time. A reading with an offset is never the same as one
without. -/
def isSame (i j : Instant) : Bool :=
  match i.offset, j.offset with
  | none, none => i.wall == j.wall
  | some a, some b => i.wall - a == j.wall - b
  | _, _ => false

/-- The ISO text, with the given character between date and time. -/
def isoChars (separator : Char) (i : Instant) : List Char :=
  dateChars i.date ++ separator :: i.timeChars ++
    (match i.offset with
      | none => []
      | some offset => offsetChars offset)

end Instant

end PacScript
