import PacScript.Value.Basic
import PacScript.Address.Printer
import PacScript.Number.Numeral
import PacScript.Number.Shortest
import PacScript.Text.Quoted

/-!
# Texts of values

`Value.shown` is the text of a value inside a message or a container, where texts are quoted;
`Value.plain` is the text that a script gets, where a text stands for itself. A whole number with
more digits than numerals may have cannot be written.
-/

namespace PacScript.Value

open PacScript.Text

mutual

/-- Whether every whole number in the value is short enough to be written. -/
def isWritable : Value → Bool
  | .int n => n.natAbs < Nat.pow 10 Numeral.digitLimit
  | .list items => allWritable items
  | .tuple items => allWritable items
  | .set items => allWritable items
  | .dict entries => entriesWritable entries
  | _ => true

def allWritable : List Value → Bool
  | [] => true
  | v :: rest => isWritable v && allWritable rest

def entriesWritable : List (Value × Value) → Bool
  | [] => true
  | (k, v) :: rest => isWritable k && isWritable v && entriesWritable rest

end

/-- An offset of a zone, in days, seconds and microseconds as far as they are not zero. -/
def shownOffset (offset : Int) : String :=
  if offset = 0 then "datetime.timezone.utc"
  else
    let parts :=
      [("days", offset / Instant.microsPerDay),
       ("seconds", offset % Instant.microsPerDay / Instant.microsPerSecond),
       ("microseconds", offset % Instant.microsPerSecond)].filter fun part => part.2 ≠ 0
    let shown := parts.map fun (name, n) => name ++ "=" ++ toString n
    "datetime.timezone(datetime.timedelta(" ++ ", ".intercalate shown ++ "))"

def shownDate (d : Date) : String :=
  "datetime.date(" ++ ", ".intercalate ([d.year, d.month, d.day].map toString) ++ ")"

def shownInstant (i : Instant) : String :=
  let d := i.date
  let seconds :=
    if i.second = 0 ∧ i.microsecond = 0 then []
    else if i.microsecond = 0 then [i.second]
    else [i.second, i.microsecond]
  let numbers := [d.year, d.month, d.day, i.hour, i.minute] ++ seconds
  let zone :=
    match i.zone, i.offset with
    | some (.region name), _ => ["tzinfo=zoneinfo.ZoneInfo(key=" ++ quoted name ++ ")"]
    | _, some offset => ["tzinfo=" ++ shownOffset offset]
    | _, none => []
  "datetime.datetime(" ++ ", ".intercalate (numbers.map toString ++ zone) ++ ")"

def shownAddress (a : Address) : String :=
  match a with
  | .v4 _ => "IPv4Address(" ++ quoted a.text ++ ")"
  | .v6 _ _ => "IPv6Address(" ++ quoted a.text ++ ")"

mutual

/-- The text of a value inside a message. -/
def shown : Value → String
  | .null => "None"
  | .bool b => if b then "True" else "False"
  | .int n => toString n
  | .float x => x.text
  | .text s => quoted s
  | .list items => "[" ++ ", ".intercalate (shownAll items) ++ "]"
  | .dict entries => "\x7b" ++ ", ".intercalate (shownEntries entries) ++ "\x7d"
  | .tuple items =>
    match shownAll items with
    | [item] => "(" ++ item ++ ",)"
    | texts => "(" ++ ", ".intercalate texts ++ ")"
  | .set items =>
    match shownAll items with
    | [] => "set()"
    | texts => "\x7b" ++ ", ".intercalate texts ++ "\x7d"
  | .bytes content => quotedBytes content
  | .date d => shownDate d
  | .instant i => shownInstant i
  | .address a => shownAddress a
  | .recurring isList => if isList then "[...]" else "\x7b...\x7d"

def shownAll : List Value → List String
  | [] => []
  | v :: rest => shown v :: shownAll rest

def shownEntries : List (Value × Value) → List String
  | [] => []
  | (k, v) :: rest => (shown k ++ ": " ++ shown v) :: shownEntries rest

end

/-- The text of a value by itself. -/
def plain : Value → String
  | .text s => s
  | .date d => String.ofList (Instant.dateChars d)
  | .instant i => String.ofList (i.isoChars ' ')
  | .address a => a.text
  | v => v.shown

end PacScript.Value
