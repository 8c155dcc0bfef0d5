import PacScript.Yaml.Tag
import PacScript.Yaml.Cursor

/-!
# Styles of scalars

How a text is written so that it reads back: plain if nothing in it would be taken for an indicator
or for another type, between single quotes if it holds only printable ASCII and its blanks survive,
and otherwise between double quotes.
-/

namespace PacScript.Yaml

/-- The ways in which texts are written. -/
inductive Style
  | plain
  | single
  | double
  deriving DecidableEq

namespace Style

/-- Characters that begin something else than a plain scalar. -/
def leadingIndicators : List Char := "#,[]\x7b\x7d&*!|>'\"%@\x60".toList

/-- Whether some character of the text has a property, given the ones before and after it. -/
def anyBetween (p : Option Char → Char → Option Char → Bool) : (before : Option Char) →
    List Char → Bool
  | _, [] => false
  | before, c :: rest => p before c rest.head? || anyBetween p (some c) rest

/-- Whether a null character, a blank or the end of the text is here. -/
def isGap : Option Char → Bool
  | none => true
  | some c => c == '\x00' || c == '\r' || endsBlank (some c)

/-- Whether a text would be taken for something else at its beginning or inside. -/
def hasIndicator (cs : List Char) : Bool :=
  cs.take 3 == ['-', '-', '-'] || cs.take 3 == ['.', '.', '.'] ||
    (match cs with
      | [] => false
      | c :: rest =>
        leadingIndicators.contains c || ((c == '?' || c == '-') && isGap rest.head?)) ||
    anyBetween (fun before c after =>
      (c == ':' && isGap after) || (c == '#' && isGap before)) none cs

/-- Whether a character needs an escape. -/
def isSpecial (c : Char) : Bool := !(c == '\n' || (' ' ≤ c && c ≤ '~'))

def hasBreak (cs : List Char) : Bool := cs.any isBreak

def isBlankEnd : Option Char → Bool
  | none => false
  | some c => c == ' ' || isBreak c

/-- Whether a space follows a line break or precedes one. -/
def hasBlankAtBreak (cs : List Char) : Bool :=
  anyBetween (fun before c _ =>
    match before with
    | none => false
    | some b => (c == ' ' && isBreak b) || (isBreak c && b == ' ')) none cs

/-- Whether a text may be written without quotation marks. -/
def allowsPlain (cs : List Char) : Bool :=
  !(hasIndicator cs || hasBreak cs || cs.any isSpecial || isBlankEnd cs.head? ||
    isBlankEnd cs.getLast?)

/-- Whether a text may be written between single quotes. -/
def allowsSingle (cs : List Char) : Bool := !(cs.any isSpecial || hasBlankAtBreak cs)

/-- The style of a text. As a key that is not marked, a text takes one line. -/
def of (asKey : Bool) (text : String) : Style :=
  let cs := text.toList
  if Tag.ofPlain text == .str && allowsPlain cs then .plain
  else if allowsSingle cs && !(asKey && hasBreak cs) then .single
  else .double

end Style

end PacScript.Yaml
