import PacScript.Address.Parser
import PacScript.Number.Numeral
import PacScript.Text.Case

/-!
# Authorities

The part of an address reference that names a host: credentials up to the last `@`, a host, and a
port after a colon. An IPv6 or future address stands in brackets. The authority ends where a path, a
query or a fragment begins.
-/

namespace PacScript.Authority

open PacScript.Text

/-- Characters outside ASCII whose compatibility form holds one of the characters that separate the
parts of a reference. -/
def maskedSeparators : List (Nat × Nat) :=
  [(0x2047, 0x2049), (0x2100, 0x2101), (0x2105, 0x2106), (0x2a74, 0x2a74), (0xfe13, 0xfe13),
   (0xfe16, 0xfe16), (0xfe55, 0xfe56), (0xfe5f, 0xfe5f), (0xfe6b, 0xfe6b), (0xff03, 0xff03),
   (0xff0f, 0xff0f), (0xff1a, 0xff1a), (0xff1f, 0xff20)]

/-- The text up to the first path, query or fragment. -/
def extent (cs : List Char) : List Char :=
  cs.takeWhile fun c => !(c == '/' || c == '?' || c == '#')

/-- Host and port as they are written; the port is empty when there is none. -/
structure Written where
  host : List Char
  port : List Char

/-- The text after the last `@`. -/
def hostInfo (authority : List Char) : List Char :=
  match cutLast? '@' authority with
  | some (_, after) => after
  | none => authority

/-- What stands before and after the first occurrence of a character, the second part empty when
there is no occurrence. -/
def cutOr (separator : Char) (cs : List Char) : List Char × List Char :=
  (cut? separator cs).getD (cs, [])

/-- Host and port of the text after the credentials. -/
def written (info : List Char) : Written :=
  match cut? '[' info with
  | some (_, bracketed) =>
    let (host, rest) := cutOr ']' bracketed
    { host, port := (cutOr ':' rest).2 }
  | none =>
    let (host, port) := cutOr ':' info
    { host, port }

/-- A future address: `v`, a hexadecimal version, a point, and at least one more character. -/
def isFuture (host : List Char) : Bool :=
  match host with
  | 'v' :: rest =>
    let version := rest.takeWhile isHexDigit
    match rest.dropWhile isHexDigit with
    | '.' :: more => !version.isEmpty && !more.isEmpty
    | _ => false
  | _ => false

/-- Whether brackets may hold the host. -/
def isBracketHost (host : List Char) : Bool :=
  if host.head? == some 'v' then isFuture host
  else
    match Address.ofChars? host with
    | some a => a.family == .v6
    | none => false

/-- Whether the brackets of an authority, if there are any, stand where they may. -/
def bracketsOk (authority : List Char) : Bool :=
  let opens := authority.contains '['
  let closes := authority.contains ']'
  if opens != closes then false
  else if !opens then true
  else
    let info := hostInfo authority
    let around :=
      match cut? '[' info with
      | none => true
      | some (before, bracketed) =>
        let (_, after) := cutOr ']' bracketed
        before.isEmpty && (after.isEmpty || after.head? == some ':')
    around && isBracketHost (written info).host

/-- The host in lower case, except for a zone. -/
def foldHost (host : List Char) : List Char :=
  match cut? '%' host with
  | some (name, zone) => lower name ++ '%' :: zone
  | none => lower host

/-- A port number, or none when nothing is written. -/
def port? (cs : List Char) : Option (Option Nat) :=
  if cs.isEmpty then some none
  else if !cs.all Char.isDigit || cs.length > Numeral.digitLimit then none
  else if ofDigits cs ≤ 65535 then some (some (ofDigits cs)) else none

/-- Host and port of a reference; the host may be empty. -/
def parse? (reference : List Char) : Option (List Char × Option Nat) :=
  let authority := extent reference
  if !bracketsOk authority then none
  else if authority.any fun c => inRanges maskedSeparators c.toNat then none
  else
    let w := written (hostInfo authority)
    (port? w.port).map fun port => (foldHost w.host, port)

end PacScript.Authority
