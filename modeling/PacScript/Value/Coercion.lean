import PacScript.Value.Display

/-!
# Coercions of values

A dynamic value as a truth value, a number or a text. Every value has a truth value; the other
coercions may fail.
-/

namespace PacScript

/-- Why a value cannot be coerced. -/
inductive CoercionFault
  /-- The value is of a kind that has no such reading. -/
  | unsuitable
  /-- The value is of a suitable kind, but not well formed or not in range. -/
  | malformed
  /-- The value is too large for the result. -/
  | tooLarge
  deriving DecidableEq

namespace Value

/-- Bytes as a numeral is read from them: nothing outside ASCII has a meaning. -/
def numeralChars (content : List UInt8) : List Char :=
  content.map fun b => if b < 128 then Char.ofNat b.toNat else '?'

/-- A whole number; floating-point numbers are cut off toward zero. -/
def toInt : Value → Except CoercionFault Int
  | .bool b => .ok (if b then 1 else 0)
  | .int n => .ok n
  | .float x =>
    match x.truncate? with
    | some n => .ok n
    | none => .error (if x.isNan then .malformed else .tooLarge)
  | .text s =>
    match Numeral.readInt? 10 s.toList with
    | some n => .ok n
    | none => .error .malformed
  | .bytes content =>
    match Numeral.readInt? 10 (numeralChars content) with
    | some n => .ok n
    | none => .error .malformed
  | _ => .error .unsuitable

/-- A floating-point number. -/
def toFloat : Value → Except CoercionFault Binary64
  | .bool b => .ok (Binary64.ofInt (if b then 1 else 0))
  | .int n =>
    let x := Binary64.ofInt n
    if x.isInfinite then .error .tooLarge else .ok x
  | .float x => .ok x
  | .text s =>
    match Numeral.readFloat? s.toList with
    | some x => .ok x
    | none => .error .malformed
  | .bytes content =>
    match Numeral.readFloat? (numeralChars content) with
    | some x => .ok x
    | none => .error .malformed
  | _ => .error .unsuitable

/-- A text. -/
def toText (v : Value) : Except CoercionFault String :=
  if v.isWritable then .ok v.plain else .error .malformed

end Value

end PacScript
