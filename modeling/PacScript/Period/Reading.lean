import PacScript.Period.Argument
import PacScript.Period.Range

/-!
# Reading periods

The overloads of the temporal predicates. How many arguments there are, and for dates which of them
are names, years or days, decides what they mean.
-/

namespace PacScript

open PacScript.Period

/-- One weekday, or two as a range. -/
def WeekdayRange.ofArgs (args : List Value) : Except PeriodFault WeekdayRange := do
  let (values, gmt) := splitGmt args
  match values with
  | [v] =>
    let d ← weekday v
    .ok { start := d, stop := d, gmt, single := true }
  | [v, w] =>
    let start ← weekday v
    let stop ← weekday w
    .ok { start, stop, gmt, single := false }
  | _ => .error (.badCount values.length)

namespace TimeRange

def hour : Value → Except PeriodFault Int := bounded 0 23 "hour of day"

def minute : Value → Except PeriodFault Int := bounded 0 59 "minute"

def second : Value → Except PeriodFault Int := bounded 0 59 "second"

/-- The whole of one hour. -/
def ofHour (h : Int) (gmt : Bool) : TimeRange :=
  { start := h * 3600, stop := h * 3600 + 3599, gmt, single := true }

/-- Hours, hours and minutes, or hours, minutes and seconds, once or as a range. What is not given
of the end is the last moment of its hour or minute; two different hours end with the first minute
of the second. -/
def ofArgs (args : List Value) : Except PeriodFault TimeRange := do
  let (values, gmt) := splitGmt args
  match values with
  | [v] => .ok (ofHour (← hour v) gmt)
  | [v, w] =>
    let h ← hour v
    let k ← hour w
    if h = k then .ok (ofHour h gmt)
    else .ok { start := h * 3600, stop := k * 3600 + 59, gmt, single := false }
  | [h₁, m₁, h₂, m₂] =>
    let start := (← hour h₁) * 3600 + (← minute m₁) * 60
    let stop := (← hour h₂) * 3600 + (← minute m₂) * 60 + 59
    .ok { start, stop, gmt, single := false }
  | [h₁, m₁, s₁, h₂, m₂, s₂] =>
    let start := (← hour h₁) * 3600 + (← minute m₁) * 60 + (← second s₁)
    let stop := (← hour h₂) * 3600 + (← minute m₂) * 60 + (← second s₂)
    .ok { start, stop, gmt, single := false }
  | _ => .error (.badCount values.length)

end TimeRange

namespace DateRange

/-- The range of exactly one partial date. -/
def exactly (gmt : Bool) (fields : List DateField) (bound : List Int) : DateRange :=
  { fields, start := bound, stop := bound, gmt, single := true }

/-- The range between two partial dates. -/
def spanning (gmt : Bool) (fields : List DateField) (start stop : List Int) : DateRange :=
  { fields, start, stop, gmt, single := false }

/-- A day and a month, as month and day. -/
def monthDay (d m : Value) : Except PeriodFault (List Int) := do
  let d ← Period.day d
  let m ← Period.month m
  .ok [m, d]

/-- A month and a year, as year and month. -/
def yearMonth (m y : Value) : Except PeriodFault (List Int) := do
  let m ← Period.month m
  let y ← Period.year y
  .ok [y, m]

/-- A day, a month and a year, as year, month and day. -/
def yearMonthDay (d m y : Value) : Except PeriodFault (List Int) := do
  let d ← Period.day d
  let m ← Period.month m
  let y ← Period.year y
  .ok [y, m, d]

/-- A month, a year or a day. -/
def ofOne (gmt : Bool) (v : Value) : Except PeriodFault DateRange := do
  if isMonthName v then .ok (exactly gmt [.month] [← Period.month v])
  else if isYear v then .ok (exactly gmt [.year] [← Period.year v])
  else if isDay v then .ok (exactly gmt [.day] [← Period.day v])
  else .error (.badArgument v)

/-- A day of a month, a month of a year, or a range of months, years or days. -/
def ofTwo (gmt : Bool) (v w : Value) : Except PeriodFault DateRange := do
  if isDay v && (isMonthName w || isMonthNumber w) then
    .ok (exactly gmt [.month, .day] (← monthDay v w))
  else if isMonthName v && isYear w then .ok (exactly gmt [.year, .month] (← yearMonth v w))
  else if isMonthName v then
    let start ← namedMonth v
    let stop ← namedMonth w
    .ok (spanning gmt [.month] [start] [stop])
  else if isYear v then
    let start ← Period.year v
    let stop ← Period.year w
    .ok (spanning gmt [.year] [start] [stop])
  else if isDay v then
    let start ← Period.day v
    let stop ← Period.day w
    .ok (spanning gmt [.day] [start] [stop])
  else .error (.badArgument v)

/-- A range of months of years, or of days of months. -/
def ofFour (gmt : Bool) (a b c d : Value) : Except PeriodFault DateRange := do
  if isMonthName a then
    let start ← yearMonth a b
    let stop ← yearMonth c d
    .ok (spanning gmt [.year, .month] start stop)
  else if isDay a then
    let start ← monthDay a b
    let stop ← monthDay c d
    .ok (spanning gmt [.month, .day] start stop)
  else .error (.badArgument a)

/-- The range that the arguments of the date predicate describe. -/
def ofArgs (args : List Value) : Except PeriodFault DateRange := do
  let (values, gmt) := splitGmt args
  match values with
  | [v] => ofOne gmt v
  | [v, w] => ofTwo gmt v w
  | [d, m, y] => .ok (exactly gmt [.year, .month, .day] (← yearMonthDay d m y))
  | [a, b, c, d] => ofFour gmt a b c d
  | [d₁, m₁, y₁, d₂, m₂, y₂] =>
    let start ← yearMonthDay d₁ m₁ y₁
    let stop ← yearMonthDay d₂ m₂ y₂
    .ok (spanning gmt [.year, .month, .day] start stop)
  | _ => .error (.badCount values.length)

end DateRange

end PacScript
