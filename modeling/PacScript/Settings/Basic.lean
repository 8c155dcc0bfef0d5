import PacScript.Fault

/-!
# Settings

The settings of the library. They are read from dynamic values; whatever cannot be used is refused,
and keys of no meaning are reported. `Settings.toEntries` writes them back.
-/

namespace PacScript

/-- The zone of a name: universal time in any case of letters, else what is found under the name. -/
def Zones.ofName (zones : Zones) (name : String) : Except Fault Zone :=
  let folded := Text.upper name.toList
  if folded == "UTC".toList || folded == "GMT".toList then .ok .utc
  else
    match zones.find name with
    | .ok z => .ok z
    | .error .unknown => .error (.settings (.unknownZone (.text name)))
    | .error (.other fault) => .error (.foreign (.other fault) none)

/-- The settings. The time limit of a look-up and the lifetime of its answer are in seconds. -/
structure Settings where
  preferV6 : Bool := false
  resolveTimeout : Binary64 := Binary64.ofInt 5
  cacheTtl : Binary64 := Binary64.ofInt 0
  globCapacity : Nat := 256
  clientVersion : String := "1.0"
  timezone : Option String := none
  provider : Value := .null
  globCapacity_pos : 0 < globCapacity := by decide

namespace Settings

/-- The settings when nothing is said. -/
def standard : Settings := {}

/-- The zone of local time; none means that of the system. -/
def localZone (zones : Zones) (s : Settings) : Except Fault (Option Zone) :=
  match s.timezone with
  | none => .ok none
  | some name => some <$> zones.ofName name

/-- The names of the settings. -/
def keys : List String :=
  ["prefer_ipv6_addresses", "resolve_timeout", "dns_cache_ttl", "glob_cache_capacity",
   "client_version", "timezone", "provider"]

/-- The value given for a setting, or else the usual one. -/
def given (entries : List (Value × Value)) (key : String) (usual : Value) : Value :=
  (Value.lookup? (.text key) entries).getD usual

/-- The faults of a number: a kind or a text without one, or a number too large. -/
def numeric {α : Type} (r : Except CoercionFault α) : Except Fault α :=
  match r with
  | .ok x => .ok x
  | .error .tooLarge => .error (.coercion .tooLarge)
  | .error _ => .error (.settings .notNumeric)

/-- Whether bytes are a path that does not begin at the root and of which no part can be left out.
Only parts at its front lead outwards. -/
def isRelativePath (content : List UInt8) : Bool :=
  let cs := content.map fun b => Char.ofNat b.toNat
  let inner := (Text.pieces '/' cs).dropWhile (· == ['.', '.'])
  let isSpare (part : List Char) : Bool := part.isEmpty || part == ['.'] || part == ['.', '.']
  cs == ['.'] || !(cs.contains '\x00' || inner.any isSpare)

/-- A name of a zone, or none. Bytes that are a path are refused as such. -/
def zoneName (zones : Zones) (v : Value) : Except Fault (Option String) :=
  match v with
  | .null => .ok none
  | .text name => do
    let _ ← zones.ofName name
    .ok (some name)
  | .bytes content =>
    .error (if isRelativePath content then .badCall else .settings (.unknownZone (.bytes content)))
  | _ => .error .noMember

/-- A truth value; nothing else will do, but of something else the text is told. -/
def boolean (v : Value) : Except Fault Bool :=
  match v with
  | .bool b => .ok b
  | v => do
    let _ ← v.written
    .error (.settings (.notBoolean v))

/-- Settings from values whose keys are known. -/
def ofKnown (zones : Zones) (entries : List (Value × Value)) : Except Fault Settings := do
  let preferV6 ← boolean (given entries "prefer_ipv6_addresses" (.bool false))
  let resolveTimeout ← numeric (given entries "resolve_timeout" (.int 5)).toFloat
  let cacheTtl ← numeric (given entries "dns_cache_ttl" (.int 0)).toFloat
  let capacity ← numeric (given entries "glob_cache_capacity" (.int 256)).toInt
  if resolveTimeout.le Binary64.zero then .error (.settings .timeoutNotPositive)
  else if cacheTtl.lt Binary64.zero then .error (.settings .negativeTtl)
  else if h : 0 < capacity.toNat then
    let clientVersion ← (given entries "client_version" (.text "1.0")).written
    let timezone ← zoneName zones (given entries "timezone" .null)
    .ok
      { preferV6, resolveTimeout, cacheTtl, globCapacity := capacity.toNat, clientVersion, timezone,
        provider := given entries "provider" .null, globCapacity_pos := h }
  else .error (.settings .noCapacity)

/-- Whether a key is the name of a setting. -/
def isKnown : Value → Bool
  | .text key => keys.contains key
  | _ => false

/-- The warning about a key that is not known. If the key cannot be written, its blank is not
filled. -/
def unknownWarning (key : Value) : String :=
  if key.isWritable then "Ignore unknown PAC setting " ++ key.shown
  else "Ignore unknown PAC setting %r"

/-- Settings from a dictionary, and the reports of keys that are not known. -/
def ofEntries (zones : Zones) (entries : List (Value × Value)) :
    List Record × Except Fault Settings :=
  let unknown := entries.filter fun e => !isKnown e.1
  (unknown.map fun e => ⟨.warning, .settings, unknownWarning e.1⟩,
    ofKnown zones (entries.filter fun e => isKnown e.1))

/-- The settings as a dictionary, without those that are not set. -/
def toEntries (s : Settings) : List (Value × Value) :=
  let all : List (String × Value) :=
    [("prefer_ipv6_addresses", .bool s.preferV6),
     ("resolve_timeout", .float s.resolveTimeout),
     ("dns_cache_ttl", .float s.cacheTtl),
     ("glob_cache_capacity", .int s.globCapacity),
     ("client_version", .text s.clientVersion),
     ("timezone", (s.timezone.map Value.text).getD .null),
     ("provider", s.provider)]
  (all.filter fun e => match e.2 with
    | .null => false
    | _ => true).map fun e => (.text e.1, e.2)

/-- The settings as a dictionary of its own. A provider that is inside itself cannot be copied into
it. -/
def copyEntries (s : Settings) : Except Fault (List (Value × Value)) :=
  if s.provider.isTree then .ok s.toEntries else .error .endless

/-- Equality of settings, as their values compare. -/
def eqv (s t : Settings) : Bool :=
  s.preferV6 == t.preferV6 && s.resolveTimeout.eqv t.resolveTimeout && s.cacheTtl.eqv t.cacheTtl
    && s.globCapacity == t.globCapacity && s.clientVersion == t.clientVersion
    && s.timezone == t.timezone && s.provider.eqv t.provider

end Settings

end PacScript
