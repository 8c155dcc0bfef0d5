import PacScript.Proofs.Fallible
import PacScript.Proofs.Number.Order
import PacScript.Settings.Basic

/-!
# What settings are read from

Only the values given for known keys matter (`ofEntries_eq_ofKnown`), and settings are read just if
each of these values can be: a truth value, numbers that are not too small, something with a text,
and the name of a zone or none (`ofEntries_eq_ok_iff`).

A number is refused when a comparison finds it too small, which none does for what is not a number.
So settings that are read are usable just if neither of the two numbers of seconds is given as such
(`valid_iff`).
-/

namespace PacScript

/-- A machine that shows universal time and knows one region, where clocks are always nine hours
ahead. -/
def Zones.tokyo : Zones where
  system := Zones.universal.system
  find name :=
    if name = "Asia/Tokyo" then
      .ok { id := some (.region name), offsetAt := fun _ => 540 * Instant.microsPerMinute }
    else .error .unknown

theorem Zones.ofName_tokyo : ∃ z, Zones.tokyo.ofName "Asia/Tokyo" = .ok z := by
  have hfolded : (Text.upper "Asia/Tokyo".toList == "UTC".toList ||
      Text.upper "Asia/Tokyo".toList == "GMT".toList) = false := by
    decide +kernel
  simp only [ofName, hfolded, tokyo]
  exact ⟨_, rfl⟩

namespace Settings

variable {zones : Zones} {entries : List (Value × Value)} {s : Settings} {key : String}
  {v usual : Value}

/-! ## Known keys -/

theorem eqv_text_iff : v.eqv (.text key) = true ↔ v = .text key := by
  cases v <;> simp [Value.eqv, Value.number?]

theorem given_nil : given [] key usual = usual := rfl

theorem given_cons {other : String} : given ((.text other, v) :: entries) key usual =
    if other = key then v else given entries key usual := by
  by_cases hkey : other = key <;> simp [given, Value.lookup?, Value.eqv, hkey]

/-- What is given for a known key is given among the known keys. -/
theorem given_known (hkey : key ∈ keys) :
    given (entries.filter fun e => isKnown e.1) key usual = given entries key usual := by
  have hfind : (entries.filter fun e => isKnown e.1).find? (fun e => e.1.eqv (.text key)) =
      entries.find? fun e => e.1.eqv (.text key) := by
    rw [List.find?_filter]
    congr 1
    funext e
    rcases heqv : e.1.eqv (.text key) with _ | _
    · simp
    · simp [eqv_text_iff.1 heqv, isKnown, hkey]
  rw [given, Value.lookup?, hfind]
  rfl

/-- Keys that are not known are reported, and that is all. -/
theorem ofEntries_eq_ofKnown : (ofEntries zones entries).2 = ofKnown zones entries := by
  have hgiven (key : String) (hkey : key ∈ keys) (usual : Value) :
      given (entries.filter fun e => isKnown e.1) key usual = given entries key usual :=
    given_known hkey
  simp only [ofEntries, ofKnown]
  rw [hgiven _ (by decide), hgiven _ (by decide), hgiven _ (by decide), hgiven _ (by decide),
    hgiven _ (by decide), hgiven _ (by decide), hgiven _ (by decide)]

/-! ## Single values -/

theorem boolean_ok_iff {b : Bool} : boolean v = .ok b ↔ v = .bool b := by
  unfold boolean
  split
  · simp
  · rename_i hv
    simp only [bind_ok_iff, reduceCtorEq, and_false, exists_false, false_iff]
    exact hv b

theorem numeric_ok_iff {α : Type} {r : Except CoercionFault α} {x : α} :
    numeric r = .ok x ↔ r = .ok x := by
  unfold numeric
  split <;> simp

theorem toFloat_int {n : Int} (h : (Binary64.ofInt n).isInfinite = false) :
    (Value.int n).toFloat = .ok (Binary64.ofInt n) := by
  simp [Value.toFloat, h]

theorem known_of_zoneName {zone : Option String} (h : zoneName zones v = .ok zone) :
    ∀ name ∈ zone, ∃ z, zones.ofName name = .ok z := by
  unfold zoneName at h
  split at h
  · cases h
    simp
  · obtain ⟨z, hz, heq⟩ := bind_ok_iff.1 h
    cases heq
    simpa using ⟨z, hz⟩
  · cases h
  · cases h

theorem zoneName_text {name : String} {z : Zone} (h : zones.ofName name = .ok z) :
    zoneName zones (.text name) = .ok (some name) := by
  rw [zoneName, h]
  rfl

/-! ## All values together -/

/-- The truth value and the three numbers that are given. -/
structure Numbers (entries : List (Value × Value)) (preferV6 : Bool) (timeout ttl : Binary64)
    (capacity : Int) : Prop where
  preference : given entries "prefer_ipv6_addresses" (.bool false) = .bool preferV6
  timeout : (given entries "resolve_timeout" (.int 5)).toFloat = .ok timeout
  ttl : (given entries "dns_cache_ttl" (.int 0)).toFloat = .ok ttl
  capacity : (given entries "glob_cache_capacity" (.int 256)).toInt = .ok capacity

/-- None of the numbers is found to be too small. -/
structure InBounds (timeout ttl : Binary64) (capacity : Int) : Prop where
  timeout : timeout.le Binary64.zero = false
  ttl : ttl.lt Binary64.zero = false
  capacity : 0 < capacity

/-- The settings are what the values given for them are read as. -/
structure Reads (zones : Zones) (entries : List (Value × Value)) (s : Settings) : Prop where
  numbers : Numbers entries s.preferV6 s.resolveTimeout s.cacheTtl s.globCapacity
  bounds : InBounds s.resolveTimeout s.cacheTtl s.globCapacity
  version : (given entries "client_version" (.text "1.0")).written = .ok s.clientVersion
  zone : zoneName zones (given entries "timezone" .null) = .ok s.timezone
  provider : s.provider = given entries "provider" .null

section Numbers

variable {preferV6 : Bool} {timeout ttl : Binary64} {capacity : Int}
  (hnumbers : Numbers entries preferV6 timeout ttl capacity)

include hnumbers

/-- Numbers that are given are checked first. -/
theorem inBounds_or_refused :
    InBounds timeout ttl capacity ∨ ∃ cause, ofKnown zones entries = .error (.settings cause) := by
  rw [ofKnown, boolean_ok_iff.2 hnumbers.preference, numeric_ok_iff.2 hnumbers.timeout,
    numeric_ok_iff.2 hnumbers.ttl, numeric_ok_iff.2 hnumbers.capacity]
  -- nothing is left of the chain but the checks, in their order
  change _ ∨ ∃ cause, (if timeout.le Binary64.zero = true then _ else _) = Except.error _
  split
  · exact .inr ⟨_, rfl⟩
  · rename_i hpositive
    split
    · exact .inr ⟨_, rfl⟩
    · rename_i hnegative
      split
      · rename_i hpos
        exact .inl ⟨by simpa using hpositive, by simpa using hnegative,
          Int.pos_iff_toNat_pos.2 hpos⟩
      · exact .inr ⟨_, rfl⟩

/-- Then the version and the zone are read. -/
theorem ofKnown_of_inBounds (hbounds : InBounds timeout ttl capacity) :
    ofKnown zones entries = (do
    let clientVersion ← (given entries "client_version" (.text "1.0")).written
    let timezone ← zoneName zones (given entries "timezone" .null)
    .ok
      { preferV6, resolveTimeout := timeout, cacheTtl := ttl, globCapacity := capacity.toNat,
        clientVersion, timezone, provider := given entries "provider" .null,
        globCapacity_pos := Int.pos_iff_toNat_pos.1 hbounds.capacity }) := by
  rw [ofKnown, boolean_ok_iff.2 hnumbers.preference, numeric_ok_iff.2 hnumbers.timeout,
    numeric_ok_iff.2 hnumbers.ttl, numeric_ok_iff.2 hnumbers.capacity]
  change (if timeout.le Binary64.zero = true then _ else _) = _
  rw [if_neg (by simp [hbounds.timeout]), if_neg (by simp [hbounds.ttl]),
    dif_pos (Int.pos_iff_toNat_pos.1 hbounds.capacity)]

end Numbers

theorem ofKnown_eq_ok_iff : ofKnown zones entries = .ok s ↔ Reads zones entries s := by
  constructor
  · intro h
    have hread := h
    simp only [ofKnown, bind_ok_iff, boolean_ok_iff, numeric_ok_iff] at hread
    obtain ⟨preferV6, hprefer, timeout, htimeout, ttl, httl, capacity, hcapacity, -⟩ := hread
    have hnumbers : Numbers entries preferV6 timeout ttl capacity :=
      ⟨hprefer, htimeout, httl, hcapacity⟩
    rcases inBounds_or_refused hnumbers with hbounds | ⟨cause, hrefused⟩
    · rw [ofKnown_of_inBounds hnumbers hbounds] at h
      obtain ⟨version, hversion, h⟩ := bind_ok_iff.1 h
      obtain ⟨zone, hzone, h⟩ := bind_ok_iff.1 h
      cases h
      have hcast : ((capacity.toNat : Nat) : Int) = capacity :=
        Int.toNat_of_nonneg (Int.le_of_lt hbounds.capacity)
      refine ⟨?_, ?_, hversion, hzone, rfl⟩
      · rw [← hcast] at hnumbers
        exact hnumbers
      · rw [← hcast] at hbounds
        exact hbounds
    · rw [hrefused] at h
      cases h
  · rintro ⟨hnumbers, hbounds, hversion, hzone, hprovider⟩
    rw [ofKnown_of_inBounds hnumbers hbounds, hversion, hzone, ← hprovider]
    rfl

/-- Settings are read from a dictionary just if they are what its values are read as. -/
theorem ofEntries_eq_ok_iff : (ofEntries zones entries).2 = .ok s ↔ Reads zones entries s := by
  rw [ofEntries_eq_ofKnown, ofKnown_eq_ok_iff]

/-- What is used when nothing is given passes all checks. -/
theorem reads_standard : Reads zones [] standard where
  numbers := by
    refine ⟨rfl, ?_, ?_, rfl⟩
    · rw [given_nil, standard, toFloat_int (by decide +kernel)]
    · rw [given_nil, standard, toFloat_int (by decide +kernel)]
  bounds := ⟨by decide +kernel, by decide +kernel, by decide⟩
  version := rfl
  zone := rfl
  provider := rfl

/-- Of two numbers of seconds and nothing else settings are read, if the numbers are not found to be
too small. -/
theorem reads_seconds {timeout ttl : Value} {x y : Binary64} (hx : timeout.toFloat = .ok x)
    (hy : ttl.toFloat = .ok y) (hpositive : x.le Binary64.zero = false)
    (hnegative : y.lt Binary64.zero = false) :
    Reads zones [(.text "resolve_timeout", timeout), (.text "dns_cache_ttl", ttl)]
      { standard with resolveTimeout := x, cacheTtl := y } := by
  have hother (key : String) (hkey : "resolve_timeout" ≠ key ∧ "dns_cache_ttl" ≠ key)
      (usual : Value) : given [(.text "resolve_timeout", timeout), (.text "dns_cache_ttl", ttl)]
        key usual = given [] key usual := by
    rw [given_cons, if_neg hkey.1, given_cons, if_neg hkey.2]
  have hstandard : Reads zones [] standard := reads_standard
  have hnumbers := hstandard.numbers
  refine ⟨⟨?_, ?_, ?_, ?_⟩, ⟨hpositive, hnegative, hstandard.bounds.capacity⟩, ?_, ?_, ?_⟩
  · rw [hother _ (by decide)]
    exact hnumbers.preference
  · rw [given_cons, if_pos rfl]
    exact hx
  · rw [given_cons, if_neg (by decide), given_cons, if_pos rfl]
    exact hy
  · rw [hother _ (by decide)]
    exact hnumbers.capacity
  · rw [hother _ (by decide)]
    exact hstandard.version
  · rw [hother _ (by decide)]
    exact hstandard.zone
  · rw [hother _ (by decide)]
    exact hstandard.provider

/-- A zone in front of settings that have none. -/
theorem Reads.withZone (h : Reads zones entries s) {zone : Option String}
    (hzone : zoneName zones v = .ok zone) :
    Reads zones ((.text "timezone", v) :: entries) { s with timezone := zone } := by
  have hother (key : String) (hkey : "timezone" ≠ key) (usual : Value) :
      given ((.text "timezone", v) :: entries) key usual = given entries key usual := by
    rw [given_cons, if_neg hkey]
  refine ⟨⟨?_, ?_, ?_, ?_⟩, h.bounds, ?_, ?_, ?_⟩
  · rw [hother _ (by decide)]
    exact h.numbers.preference
  · rw [hother _ (by decide)]
    exact h.numbers.timeout
  · rw [hother _ (by decide)]
    exact h.numbers.ttl
  · rw [hother _ (by decide)]
    exact h.numbers.capacity
  · rw [hother _ (by decide)]
    exact h.version
  · rw [given_cons, if_pos rfl]
    exact hzone
  · rw [hother _ (by decide)]
    exact h.provider

/-! ## Usable settings -/

/-- Callers wait for some time, answers are kept for some time or not at all, at least one pattern
is kept, and the zone is known. -/
structure Valid (zones : Zones) (s : Settings) : Prop where
  timeout : Binary64.zero.lt s.resolveTimeout = true
  ttl : Binary64.zero.le s.cacheTtl = true
  capacity : 1 ≤ s.globCapacity
  zone : ∀ name ∈ s.timezone, ∃ z, zones.ofName name = .ok z

theorem Reads.valid_iff_ne_nan (h : Reads zones entries s) :
    s.Valid zones ↔ s.resolveTimeout ≠ .nan ∧ s.cacheTtl ≠ .nan := by
  have hzero : Binary64.zero ≠ .nan := by decide
  constructor
  · intro hvalid
    exact ⟨(Binary64.ne_nan_of_lt hvalid.timeout).2, (Binary64.ne_nan_of_le hvalid.ttl).2⟩
  · rintro ⟨htimeout, httl⟩
    exact ⟨Binary64.lt_of_not_le htimeout hzero h.bounds.timeout,
      Binary64.le_of_not_lt httl hzero h.bounds.ttl, s.globCapacity_pos, known_of_zoneName h.zone⟩

/-- Settings that are read are usable just if neither number of seconds is given as one that is not
a number. The preference is the truth value that is given for it, and the version is the text of
what is given. -/
theorem valid_iff (h : (ofEntries zones entries).2 = .ok s) :
    (s.Valid zones ↔ (given entries "resolve_timeout" (.int 5)).toFloat ≠ .ok .nan ∧
      (given entries "dns_cache_ttl" (.int 0)).toFloat ≠ .ok .nan) ∧
    given entries "prefer_ipv6_addresses" (.bool false) = .bool s.preferV6 ∧
    (given entries "client_version" (.text "1.0")).written = .ok s.clientVersion := by
  have hreads := ofEntries_eq_ok_iff.1 h
  refine ⟨?_, hreads.numbers.preference, hreads.version⟩
  rw [hreads.valid_iff_ne_nan, hreads.numbers.timeout, hreads.numbers.ttl]
  simp

theorem valid_iff_text :
    let entries :=
      [(Value.text "timezone", .text "Asia/Tokyo"), (.text "resolve_timeout", .text "2.5"),
        (.text "dns_cache_ttl", .bool true)]
    let s : Settings :=
      { standard with
        resolveTimeout := Binary64.ofDecimal false 25 (-1)
        cacheTtl := Binary64.ofInt 1
        timezone := some "Asia/Tokyo" }
    (ofEntries Zones.tokyo entries).2 = .ok s ∧
      (s.Valid Zones.tokyo ↔ (given entries "resolve_timeout" (.int 5)).toFloat ≠ .ok .nan ∧
        (given entries "dns_cache_ttl" (.int 0)).toFloat ≠ .ok .nan) ∧
      given entries "prefer_ipv6_addresses" (.bool false) = .bool s.preferV6 ∧
      (given entries "client_version" (.text "1.0")).written = .ok s.clientVersion := by
  intro entries s
  have hnumeral : Numeral.readFloat? "2.5".toList = some (Binary64.ofDecimal false 25 (-1)) := by
    decide +kernel
  have htimeout : (Value.text "2.5").toFloat = .ok (Binary64.ofDecimal false 25 (-1)) := by
    simp only [Value.toFloat, hnumeral]
  have httl : (Value.bool true).toFloat = .ok (Binary64.ofInt 1) := rfl
  have hseconds : Reads Zones.tokyo _ _ :=
    reads_seconds htimeout httl (by decide +kernel) (by decide +kernel)
  obtain ⟨z, hz⟩ := Zones.ofName_tokyo
  have hreads := hseconds.withZone (zoneName_text hz)
  dsimp only at hreads
  have hread : (ofEntries Zones.tokyo entries).2 = .ok s := ofEntries_eq_ok_iff.2 hreads
  exact ⟨hread, valid_iff hread⟩

/-- A lifetime that is not a number is read. Answers are kept then, and none of them expires. -/
theorem ofEntries_nan : ∃ s, (ofEntries Zones.tokyo
    [(.text "resolve_timeout", .int 5), (.text "dns_cache_ttl", .float .nan)]).2 = .ok s ∧
      ¬s.Valid Zones.tokyo ∧ s.cacheTtl.le Binary64.zero = false ∧
        ∀ time now : Binary64, (time.add s.cacheTtl).lt now = false := by
  have hreads : Reads Zones.tokyo _ _ := reads_seconds (toFloat_int (n := 5) (by decide +kernel))
    (rfl : (Value.float .nan).toFloat = _) (by decide +kernel) rfl
  refine ⟨_, ofEntries_eq_ok_iff.2 hreads, fun hvalid => ?_, rfl, fun time now => ?_⟩
  · exact (Binary64.ne_nan_of_le hvalid.ttl).2 rfl
  · cases time <;> rfl

end Settings

end PacScript
