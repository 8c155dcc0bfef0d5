import PacScript.Calendar.Zone

/-!
# Periods

Inclusive ranges of weekdays, of seconds of the day and of dates, and whether an instant lies in
them. A range whose end precedes its start wraps around, except for dates with a year, where it is
empty.
-/

namespace PacScript

namespace Period

/-- Lexicographic order of rows of numbers. -/
def rowLe : List Int → List Int → Bool
  | [], _ => true
  | _ :: _, [] => false
  | a :: as, b :: bs => a < b || (a == b && rowLe as bs)

/-- Whether a row of numbers lies between two bounds. -/
def between (value start stop : List Int) (wraps : Bool) : Bool :=
  if rowLe start stop then rowLe start value && rowLe value stop
  else if wraps then rowLe start value || rowLe value stop
  else false

end Period

/-- A range of weekdays, counted from Sunday. -/
structure WeekdayRange where
  start : Int
  stop : Int
  gmt : Bool
  single : Bool
  deriving DecidableEq

/-- A range of seconds of the day. -/
structure TimeRange where
  start : Int
  stop : Int
  gmt : Bool
  single : Bool
  deriving DecidableEq

/-- A component of a date. -/
inductive DateField
  | year
  | month
  | day
  deriving DecidableEq

namespace DateField

def name : DateField → String
  | .year => "year"
  | .month => "month"
  | .day => "day"

/-- The component of a date. -/
def of (d : Date) : DateField → Int
  | .year => d.year
  | .month => d.month
  | .day => d.day

end DateField

/-- A range of dates of which only some components are given: the fields, largest first, and their
values in the two bounds. -/
structure DateRange where
  fields : List DateField
  start : List Int
  stop : List Int
  gmt : Bool
  single : Bool
  deriving DecidableEq

/-- Whether an instant, read on universal or local clocks, lies in the range of weekdays. -/
def WeekdayRange.includes (r : WeekdayRange) (system : SystemClock) (now : Instant)
    (local? : Option Zone) : Except CalendarFault Bool := do
  let moment ← now.project system r.gmt local?
  .ok (Period.between [(moment.weekday : Int)] [r.start] [r.stop] true)

/-- Whether an instant, read on universal or local clocks, lies in the range of times. -/
def TimeRange.includes (r : TimeRange) (system : SystemClock) (now : Instant)
    (local? : Option Zone) : Except CalendarFault Bool := do
  let moment ← now.project system r.gmt local?
  .ok (Period.between [(moment.secondOfDay : Int)] [r.start] [r.stop] true)

/-- Whether an instant, read on universal or local clocks, lies in the range of dates. -/
def DateRange.includes (r : DateRange) (system : SystemClock) (now : Instant)
    (local? : Option Zone) : Except CalendarFault Bool := do
  let moment ← now.project system r.gmt local?
  let value := r.fields.map (DateField.of moment.date)
  .ok (Period.between value r.start r.stop (!r.fields.contains .year))

end PacScript
