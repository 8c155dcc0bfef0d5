import PacScript.Calendar.Instant

/-!
# Time zones

A zone says how far its clocks are from universal time at any moment. Which zones there are and what
their rules are is not known here; nor is what the clock of the system shows. `Instant.inZone` reads
an instant on the clocks of a zone.
-/

namespace PacScript

/-- A time zone: how far its clocks are ahead of universal time at a moment, in microseconds, and
what tells it from other zones, if readings can be made on its clocks. -/
structure Zone where
  id : Option ZoneId
  offsetAt : Int → Int

/-- Universal time. -/
def Zone.utc : Zone where
  id := none
  offsetAt _ := 0

/-- Why an instant cannot be read on other clocks. -/
inductive CalendarFault
  /-- The system offset of the first day of the calendar cannot be found, because that takes the
  clock reading of a day before. -/
  | beforeCalendar
  /-- The reading would lie outside the years 1 to 9999. -/
  | outsideCalendar
  deriving DecidableEq

/-- The clock of the system: how far it is ahead at a moment of universal time, and how far it is
taken to be ahead while it shows a reading. -/
structure SystemClock where
  offsetAt : Int → Int
  offsetOf : Int → Except CalendarFault Int

/-- Why there is no zone of a name: no zone has it, or looking for one fails in a way of its own. -/
inductive ZoneFault
  | unknown
  | other (fault : String)
  deriving DecidableEq

/-- The clock of the system, and what is found under the names of zones. -/
structure Zones where
  system : SystemClock
  find : String → Except ZoneFault Zone

/-- A machine whose clock shows universal time, without the zones of any names. -/
def Zones.universal : Zones where
  system :=
    { offsetAt := fun _ => 0
      offsetOf := fun wall =>
        if wall < Instant.microsPerDay then .error .beforeCalendar else .ok 0 }
  find _ := .error .unknown

namespace Instant

/-- The reading was made on the clocks of the zone. -/
def isOn (i : Instant) (z : Zone) : Bool := i.zone.isSome && i.zone == z.id

variable (system : SystemClock)

/-- The instant's reading of universal time. -/
def utcWall (i : Instant) : Except CalendarFault Int := do
  let offset ←
    match i.offset with
    | none => system.offsetOf i.wall
    | some offset => .ok offset
  let utc := i.wall - offset
  if inCalendar utc then .ok utc else .error .outsideCalendar

/-- The same instant on the clocks of a zone. A reading that was made on them is taken as it is. -/
def inZone (i : Instant) (z : Zone) : Except CalendarFault Instant :=
  if i.isOn z then .ok i
  else do
    let utc ← i.utcWall system
    let offset := z.offsetAt utc
    let wall := utc + offset
    if inCalendar wall then .ok { wall, offset := some offset, zone := z.id }
    else .error .outsideCalendar

/-- The instant on universal clocks, on those of a local zone, or on the system clock, which a
reading without offset shows already. -/
def project (i : Instant) (gmt : Bool) (local? : Option Zone) : Except CalendarFault Instant :=
  if gmt then i.inZone system .utc
  else
    match local? with
    | some z => i.inZone system z
    | none =>
      if i.offset.isNone then .ok i
      else i.inZone system { id := none, offsetAt := system.offsetAt }

end Instant

end PacScript
