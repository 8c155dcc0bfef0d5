import PacScript.Value.Display
import PacScript.Text.Case

/-!
# Arguments of temporal predicates

How the arguments of a temporal predicate are read: absent ones are left out, a trailing `GMT` asks
for universal time, and the rest are names or whole numbers. A whole number may be given as such, as
a floating-point number without fraction, or as a numeral.
-/

namespace PacScript

/-- What is wrong with the arguments of a temporal predicate. Most causes are worded with the value
that is refused (`PeriodFault.message`); one that cannot be written is refused in another way. -/
inductive PeriodFault
  | notWhole (v : Value)
  | outOfBounds (n low high : Int) (what : String)
  | unknownWeekday (v : Value)
  | unknownMonth (v : Value)
  | notYear (v : Value)
  | notDay (v : Value)
  | badArgument (v : Value)
  | badCount (count : Nat)

def PeriodFault.message : PeriodFault → String
  | .notWhole v => "value " ++ v.shown ++ " is not an integer"
  | .outOfBounds n low high what =>
    "value " ++ toString n ++ " is not a valid " ++ what ++ " (" ++ toString low ++ "-" ++
      toString high ++ ")"
  | .unknownWeekday v => "Unknown weekday name: " ++ v.shown
  | .unknownMonth v => "Unknown month name: " ++ v.shown
  | .notYear v => "value " ++ v.shown ++ " is not a valid year"
  | .notDay v => "value " ++ v.shown ++ " is not a valid day of month"
  | .badArgument v => "invalid argument: " ++ v.shown
  | .badCount count => "invalid number of arguments: " ++ toString count

/-- Whether the value that is refused can be written, as the message has to. -/
def PeriodFault.isWritable : PeriodFault → Bool
  | .notWhole v | .unknownWeekday v | .unknownMonth v | .notYear v | .notDay v | .badArgument v =>
    v.isWritable
  | .outOfBounds n _ _ _ => (Value.int n).isWritable
  | .badCount _ => true

namespace Period

open PacScript.Text

def isGmt : Value → Bool
  | .text s => upper (trim s.toList) == "GMT".toList
  | _ => false

def isAbsent : Value → Bool
  | .null => true
  | _ => false

/-- The arguments that are present, without a trailing `GMT`, and whether there was one. -/
def splitGmt (args : List Value) : List Value × Bool :=
  let values := args.filter (!isAbsent ·)
  match values.getLast? with
  | none => (values, false)
  | some last => if isGmt last then (values.dropLast, true) else (values, false)

/-- The whole number that a value denotes. Truth values denote none. -/
def whole? : Value → Option Int
  | .int n => some n
  | .float x => if x.isWhole then x.truncate? else none
  | .text s => Numeral.readInt? 10 (trim s.toList)
  | _ => none

def whole (v : Value) : Except PeriodFault Int :=
  match whole? v with
  | some n => .ok n
  | none => .error (.notWhole v)

/-- A whole number between two bounds. -/
def bounded (low high : Int) (what : String) (v : Value) : Except PeriodFault Int := do
  let n ← whole v
  if low ≤ n ∧ n ≤ high then .ok n else .error (.outOfBounds n low high what)

/-- Names of the days of the week, Sunday first. -/
def weekdayNames : List (List Char) :=
  ["SUN", "MON", "TUE", "WED", "THU", "FRI", "SAT"].map String.toList

/-- Names of the months. -/
def monthNames : List (List Char) :=
  ["JAN", "FEB", "MAR", "APR", "MAY", "JUN", "JUL", "AUG", "SEP", "OCT", "NOV", "DEC"].map
    String.toList

/-- The place of a value's text in a list of names. -/
def namePlace? (names : List (List Char)) : Value → Option Nat
  | .text s => names.idxOf? (upper (trim s.toList))
  | _ => none

/-- A day of the week by its name, counted from Sunday. -/
def weekday (v : Value) : Except PeriodFault Int :=
  match namePlace? weekdayNames v with
  | some i => .ok i
  | none => .error (.unknownWeekday v)

def isMonthName (v : Value) : Bool := (namePlace? monthNames v).isSome

def isYear (v : Value) : Bool :=
  match whole? v with
  | some n => 1000 ≤ n
  | none => false

def isDay (v : Value) : Bool :=
  match whole? v with
  | some n => 1 ≤ n && n ≤ 31
  | none => false

def isMonthNumber (v : Value) : Bool :=
  match whole? v with
  | some n => 1 ≤ n && n ≤ 12
  | none => false

/-- A month by its name. -/
def namedMonth (v : Value) : Except PeriodFault Int :=
  match namePlace? monthNames v with
  | some i => .ok (i + 1)
  | none => .error (.unknownMonth v)

/-- A month by its name or its number. -/
def month (v : Value) : Except PeriodFault Int :=
  if !isMonthName v && (whole? v).isSome then bounded 1 12 "month" v else namedMonth v

def year (v : Value) : Except PeriodFault Int :=
  if isYear v then whole v else .error (.notYear v)

def day (v : Value) : Except PeriodFault Int :=
  if isDay v then whole v else .error (.notDay v)

end Period

end PacScript
