import PacScript.Calendar.Instant
import PacScript.Yaml.Cursor

/-!
# Points in time in documents

A date, or a date and a time of day with an optional fraction and an optional zone.
-/

namespace PacScript.Yaml

/-- The time of day of a timestamp; its zone in minutes, when it has one. -/
structure TimeOfDay where
  hour : Nat
  minute : Nat
  second : Nat
  fraction : List Char
  zone : Option Int

/-- A timestamp as it is written; its numbers need not make a date. -/
structure Timestamp where
  date : Date
  time : Option TimeOfDay

namespace Timestamp

/-- The number written by exactly `width` ASCII digits at the front, and the rest. -/
def number? (width : Nat) (cs : List Char) : Option (Nat × List Char) :=
  let front := cs.take width
  if front.length == width && front.all Char.isDigit then some (Text.ofDigits front, cs.drop width)
  else none

/-- The rest after an expected character. -/
def after? (c : Char) : List Char → Option (List Char)
  | d :: rest => if c == d then some rest else none
  | [] => none

/-- The microseconds of the digits of a fraction, of which six count. -/
def microsOfFraction (fraction : List Char) : Nat :=
  Text.ofDigits ((fraction ++ List.replicate 6 '0').take 6)

/-- A number of one or two digits, and the rest. -/
def shortNumber? (cs : List Char) : Option (Nat × List Char) :=
  (number? 2 cs).orElse fun _ => number? 1 cs

def isGap (c : Char) : Bool := c == ' ' || c == '\t'

/-- What separates date and time: one letter, or blanks. -/
def afterSeparator? : List Char → Option (List Char)
  | [] => none
  | c :: rest =>
    if c == 'T' || c == 't' then some rest
    else if isGap c then some (rest.dropWhile isGap)
    else none

/-- The zone at the end of a timestamp. -/
def zone? (cs : List Char) : Option (Option Int) :=
  match cs.dropWhile isGap with
  | [] => if cs.isEmpty then some none else none
  | ['Z'] => some (some 0)
  | sign :: rest =>
    if sign == '+' || sign == '-' then do
      let (hours, rest) ← shortNumber? rest
      let (minutes, rest) ←
        match rest with
        | ':' :: more => number? 2 more
        | _ => some (0, rest)
      let size : Int := hours * 60 + minutes
      if rest.isEmpty then some (some (if sign == '-' then -size else size)) else none
    else none

def time? (cs : List Char) : Option TimeOfDay := do
  let (hour, cs) ← shortNumber? cs
  let (minute, cs) ← number? 2 (← after? ':' cs)
  let (second, cs) ← number? 2 (← after? ':' cs)
  let (fraction, cs) :=
    match cs with
    | '.' :: rest => (rest.takeWhile Char.isDigit, rest.dropWhile Char.isDigit)
    | _ => ([], cs)
  some { hour, minute, second, fraction, zone := ← zone? cs }

/-- A timestamp; month and day have one or two digits. -/
def ofChars? (cs : List Char) : Option Timestamp := do
  let (year, cs) ← number? 4 cs
  let (month, cs) ← shortNumber? (← after? '-' cs)
  let (day, cs) ← shortNumber? (← after? '-' cs)
  if cs.isEmpty then some ⟨{ year, month, day }, none⟩
  else some ⟨{ year, month, day }, some (← time? (← afterSeparator? cs))⟩

/-- Whether an untagged scalar is a timestamp: without a time of day it has all its digits. -/
def isPlain (cs : List Char) : Bool :=
  match ofChars? cs with
  | none => false
  | some t => t.time.isSome || cs.length == 10

/-- The reading of a timestamp with a time of day, if its numbers make one. -/
def instant (d : Date) (t : TimeOfDay) : Except Fault Instant :=
  let zoneOk :=
    match t.zone with
    | none => true
    | some minutes => minutes.natAbs < 1440
  if d.isValid && t.hour < 24 && t.minute < 60 && t.second < 60 && zoneOk then
    let second := t.hour * 3600 + t.minute * 60 + t.second
    let offset := t.zone.map (· * Instant.microsPerMinute)
    .ok (Instant.ofParts d second (microsOfFraction t.fraction) offset)
  else .error .badScalar

end Timestamp

end PacScript.Yaml
