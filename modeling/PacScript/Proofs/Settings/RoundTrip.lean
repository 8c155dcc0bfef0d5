import PacScript.Proofs.Settings.Reading
import PacScript.Settings.File

/-!
# Settings that are kept

What settings write is read as those settings (`ofEntries_toEntries`). The document in which they
are kept is a plain one (`isPlain_document`). So if only loading undoes dumping for such documents
(`Codec.Undoes`), the settings in the file are those that were kept (`round_trip`).
-/

namespace PacScript

/-- A text, a truth value, a whole number, or a floating-point number that is a number. -/
inductive Value.IsScalar : Value → Prop
  | text (s : String) : IsScalar (.text s)
  | bool (b : Bool) : IsScalar (.bool b)
  | int (n : Int) : IsScalar (.int n)
  | float {x : Binary64} (h : x ≠ .nan) : IsScalar (.float x)

/-- A mapping of names to scalars, under a name. -/
inductive Value.IsPlain : Value → Prop
  | mapping (name : String) {fields : List (String × Value)}
      (hnames : (fields.map (·.1)).Nodup) (hscalars : ∀ f ∈ fields, f.2.IsScalar) :
      IsPlain (.dict [(.text name, .dict (fields.map fun f => (.text f.1, f.2)))])

/-- Loading undoes dumping for the document, if it is plain. -/
def Codec.Undoes (codec : Codec) (d : Value) : Prop :=
  d.IsPlain → ∃ content, codec.dump d = .ok content ∧ codec.load content = .ok d

namespace Settings

variable {zones : Zones} {entries : List (Value × Value)} {s : Settings} {key : String}
  {v usual : Value}

/-! ## Dictionaries -/

/-- All settings with their names, those that are not set included. -/
def fields (s : Settings) : List (String × Value) :=
  [("prefer_ipv6_addresses", .bool s.preferV6),
   ("resolve_timeout", .float s.resolveTimeout),
   ("dns_cache_ttl", .float s.cacheTtl),
   ("glob_cache_capacity", .int s.globCapacity),
   ("client_version", .text s.clientVersion),
   ("timezone", (s.timezone.map Value.text).getD .null),
   ("provider", s.provider)]

def isSet : Value → Bool
  | .null => false
  | _ => true

/-- The fields that are set, as entries of a dictionary. -/
def entriesOf (fields : List (String × Value)) : List (Value × Value) :=
  (fields.filter fun e => isSet e.2).map fun e => (.text e.1, e.2)

theorem toEntries_eq : s.toEntries = entriesOf s.fields := rfl

theorem names_fields (s : Settings) : s.fields.map (·.1) = keys := rfl

theorem entriesOf_cons {fields : List (String × Value)} : entriesOf ((key, v) :: fields) =
    if isSet v then (.text key, v) :: entriesOf fields else entriesOf fields := by
  simp only [entriesOf, List.filter_cons]
  split <;> rfl

theorem given_of_not_mem {fields : List (String × Value)} (h : key ∉ fields.map (·.1)) :
    given (entriesOf fields) key usual = usual := by
  induction fields with
  | nil => rfl
  | cons e rest ih =>
    rw [List.map_cons, List.mem_cons, not_or] at h
    rw [entriesOf_cons]
    split
    · rw [given_cons, if_neg fun heq => h.1 heq.symm, ih h.2]
    · exact ih h.2

/-- A field that is set is given, and for one that is not the usual value counts. -/
theorem given_of_mem {fields : List (String × Value)} (hnames : (fields.map (·.1)).Nodup)
    (h : (key, v) ∈ fields) :
    given (entriesOf fields) key usual = if isSet v then v else usual := by
  induction fields with
  | nil => cases h
  | cons e rest ih =>
    obtain ⟨hnew, hrest⟩ := List.nodup_cons.1 hnames
    rcases List.mem_cons.1 h with rfl | h
    · rw [entriesOf_cons]
      split
      · rw [given_cons, if_pos rfl]
      · exact given_of_not_mem hnew
    · have hne : e.1 ≠ key := fun heq => hnew (List.mem_map.2 ⟨(key, v), h, heq.symm⟩)
      rw [entriesOf_cons]
      split
      · rw [given_cons, if_neg hne, ih hrest h]
      · exact ih hrest h

theorem given_toEntries (h : (key, v) ∈ s.fields) :
    given s.toEntries key usual = if isSet v then v else usual := by
  have hnames : (s.fields.map (·.1)).Nodup := by
    rw [names_fields]
    decide
  rw [toEntries_eq]
  exact given_of_mem hnames h

theorem reads_toEntries (h : Reads zones entries s) : Reads zones s.toEntries s where
  numbers := by
    refine ⟨?_, ?_, ?_, ?_⟩
    · rw [given_toEntries (v := .bool s.preferV6) (by simp [fields])]
      rfl
    · rw [given_toEntries (v := .float s.resolveTimeout) (by simp [fields])]
      rfl
    · rw [given_toEntries (v := .float s.cacheTtl) (by simp [fields])]
      rfl
    · rw [given_toEntries (v := .int s.globCapacity) (by simp [fields])]
      rfl
  bounds := h.bounds
  version := by
    rw [given_toEntries (v := .text s.clientVersion) (by simp [fields])]
    rfl
  zone := by
    rw [given_toEntries (v := (s.timezone.map Value.text).getD .null) (by simp [fields])]
    rcases htimezone : s.timezone with _ | name
    · rfl
    · obtain ⟨z, hz⟩ := known_of_zoneName h.zone name (by simp [htimezone])
      exact zoneName_text hz
  provider := by
    rw [given_toEntries (v := s.provider) (by simp [fields])]
    cases s.provider <;> rfl

theorem isKnown_of_mem_toEntries {e : Value × Value} (h : e ∈ s.toEntries) :
    isKnown e.1 = true := by
  obtain ⟨f, hf, rfl⟩ := List.mem_map.1 h
  have hname : f.1 ∈ keys := names_fields s ▸ List.mem_map_of_mem (List.mem_filter.1 hf).1
  simpa [isKnown] using hname

theorem ofEntries_toEntries (h : Reads zones entries s) :
    ofEntries zones s.toEntries = ([], .ok s) := by
  have hread := ofEntries_eq_ok_iff.2 (reads_toEntries h)
  have hunknown : s.toEntries.filter (fun e => !isKnown e.1) = [] := by
    rw [List.filter_eq_nil_iff]
    intro e he
    simp [isKnown_of_mem_toEntries he]
  refine Prod.ext ?_ hread
  simp only [ofEntries, hunknown, List.map_nil]

/-! ## Keeping settings -/

section Kept

variable (htimeout : s.resolveTimeout ≠ .nan) (httl : s.cacheTtl ≠ .nan)
  (hprovider : s.provider = .null ∨ ∃ name, s.provider = .text name)

include htimeout httl hprovider

theorem isPlain_document : (document s.toEntries).IsPlain := by
  have hnames : ((s.fields.filter fun f => isSet f.2).map (·.1)).Nodup := by
    refine List.Nodup.sublist (List.filter_sublist.map _) ?_
    rw [names_fields]
    decide
  refine .mapping "pac" hnames fun f hf => ?_
  obtain ⟨hf, hset⟩ := List.mem_filter.1 hf
  simp only [List.mem_cons, List.not_mem_nil, or_false] at hf
  rcases hf with rfl | rfl | rfl | rfl | rfl | rfl | rfl
  · exact .bool _
  · exact .float htimeout
  · exact .float httl
  · exact .int _
  · exact .text _
  · rcases htimezone : s.timezone with _ | name
    · simp [htimezone] at hset
    · exact .text name
  · rcases hprovider with hnull | ⟨name, hname⟩
    · simp [hnull] at hset
    · simpa [hname] using .text name

theorem eqv_self : s.eqv s = true := by
  have hsame (v : Value) (hv : v = .null ∨ ∃ name, v = .text name) : v.eqv v = true := by
    rcases hv with rfl | ⟨name, rfl⟩ <;> simp [Value.eqv]
  simp [eqv, (Binary64.eqv_iff htimeout htimeout).2, (Binary64.eqv_iff httl httl).2,
    hsame _ hprovider]

omit htimeout httl in
theorem copyEntries_eq : s.copyEntries = .ok s.toEntries := by
  rcases hprovider with hnull | ⟨name, hname⟩
  · simp [copyEntries, hnull, Value.isTree]
  · simp [copyEntries, hname, Value.isTree]

end Kept

/-- What is under the one key of a document is found. -/
theorem section?_document (file : String) : section? file (document entries) = .ok entries := by
  have hfound : Value.lookup? (.text "pac") [(Value.text "pac", Value.dict entries)] =
      some (.dict entries) := by
    simp [Value.lookup?, Value.eqv]
  show entriesOr _ ((Value.lookup? (.text "pac") [(.text "pac", .dict entries)]).getD .null) = _
  rw [hfound]
  rfl

/-- Settings that have been read are the same when what they write is read again, and they write the
same again. If no more is known of how documents are kept in files than that loading undoes dumping
for the plain document that is written for these settings, then the file that keeps them is read as
these settings, without reports. -/
theorem round_trip (h : (ofEntries zones entries).2 = .ok s) (htimeout : s.resolveTimeout ≠ .nan)
    (httl : s.cacheTtl ≠ .nan) (hprovider : s.provider = .null ∨ ∃ name, s.provider = .text name) :
    ∃ saved, s.copyEntries = .ok saved ∧ (document saved).IsPlain ∧
      ofEntries zones saved = ([], .ok s) ∧
      (ofEntries zones saved).2 >>= copyEntries = .ok saved ∧ s.eqv s = true ∧
      ∀ codec : Codec, codec.Undoes (document saved) →
        ∃ content, s.fileContent codec = .ok content ∧
          ∀ file, ofFile zones codec file (some content) = ([], .ok s) := by
  have hreads := ofEntries_toEntries (ofEntries_eq_ok_iff.1 h)
  have hcopy := copyEntries_eq hprovider
  have hplain := isPlain_document htimeout httl hprovider
  refine ⟨s.toEntries, hcopy, hplain, hreads, ?_, eqv_self htimeout httl hprovider, ?_⟩
  · rw [hreads]
    exact hcopy
  · intro codec hundoes
    obtain ⟨content, hdump, hload⟩ := hundoes hplain
    refine ⟨content, ?_, fun file => ?_⟩
    · rw [fileContent, hcopy]
      exact hdump
    · simp only [ofFile, hload, section?_document, hreads]

/-- A codec that knows one document. -/
def onlyCodec (text : String) (d : Value) : Codec where
  load content := if content.data == text.toUTF8.data then .ok d else .error .notDocument
  dump _ := .ok text.toUTF8

theorem onlyCodec_undoes (text : String) (d : Value) : (onlyCodec text d).Undoes d :=
  fun _ => ⟨_, rfl, if_pos (beq_self_eq_true _)⟩

theorem fileContent_onlyCodec (h : s.copyEntries = .ok entries) (text : String) (d : Value) :
    s.fileContent (onlyCodec text d) = .ok text.toUTF8 := by
  rw [fileContent, h]
  rfl

/-- Numbers that are given as a text and as a truth value, and a zone. -/
theorem round_trip_unbounded :
    let entries :=
      [(Value.text "timezone", .text "Asia/Tokyo"), (.text "resolve_timeout", .text "inf"),
        (.text "dns_cache_ttl", .bool true)]
    let s : Settings :=
      { standard with
        resolveTimeout := .infinite false
        cacheTtl := Binary64.ofInt 1
        timezone := some "Asia/Tokyo" }
    let text := "pac:\n  prefer_ipv6_addresses: false\n  resolve_timeout: .inf\n" ++
      "  dns_cache_ttl: 1.0\n  glob_cache_capacity: 256\n  client_version: '1.0'\n" ++
      "  timezone: Asia/Tokyo\n"
    let codec := onlyCodec text (document s.toEntries)
    (ofEntries Zones.tokyo entries).2 = .ok s ∧ s.copyEntries = .ok s.toEntries ∧
      ofEntries Zones.tokyo s.toEntries = ([], .ok s) ∧ s.eqv s = true ∧
      s.fileContent codec = .ok text.toUTF8 ∧
      ofFile Zones.tokyo codec "settings.yaml" (some text.toUTF8) = ([], .ok s) := by
  intro entries s text codec
  have hnumeral : Numeral.readFloat? "inf".toList = some (.infinite false) := by decide +kernel
  have htimeout : (Value.text "inf").toFloat = .ok (.infinite false) := by
    simp only [Value.toFloat, hnumeral]
  have httl : (Value.bool true).toFloat = .ok (Binary64.ofInt 1) := rfl
  have hseconds : Reads Zones.tokyo _ _ :=
    reads_seconds htimeout httl rfl (by decide +kernel)
  obtain ⟨z, hz⟩ := Zones.ofName_tokyo
  have hreads := hseconds.withZone (zoneName_text hz)
  dsimp only at hreads
  have hread : (ofEntries Zones.tokyo entries).2 = .ok s := ofEntries_eq_ok_iff.2 hreads
  obtain ⟨saved, hcopy, -, hagain, -, hsame, hfile⟩ :=
    round_trip hread (by decide) (by decide +kernel) (.inl rfl)
  obtain rfl : saved = s.toEntries := by
    rw [copyEntries_eq (.inl rfl)] at hcopy
    exact (Except.ok.inj hcopy).symm
  have hwritten : s.fileContent codec = .ok text.toUTF8 := fileContent_onlyCodec hcopy text _
  obtain ⟨content, hcontent, hload⟩ := hfile codec (onlyCodec_undoes text _)
  rw [Except.ok.inj (hcontent.symm.trans hwritten)] at hload
  exact ⟨hread, hcopy, hagain, hsame, hwritten, hload "settings.yaml"⟩

end Settings

end PacScript
