import PacScript.Proofs.Proxy.Entries

/-!
# What is accepted

Whether a line can be read does not depend on what is accepted, and of the entries that it gives
those are left out that are not accepted, but for direct connections (`parse_accept`).

`parseAsking` reads a line as it is read by a program that asks about each entry as soon as it has
read it, and records what it has asked. It gives the same as `parse`, and asks about no direct
connection.
-/

namespace PacScript.ProxyLine

open PacScript.Text

/-- Asks whether an entry is accepted, and records that it has asked. -/
def ask (accept : ProxyInfo → Bool) (i : ProxyInfo) : StateM (List ProxyInfo) Bool := do
  modify (· ++ [i])
  return accept i

/-- The entries that are not blank. Each one that is no direct connection is asked about before the
next is read. -/
def entriesAsking (accept : ProxyInfo → Bool) :
    List (List Char) → ExceptT ProxyFault (StateM (List ProxyInfo)) (List ProxyInfo)
  | [] => pure []
  | cs :: rest => do
    match ← ExceptT.mk (pure (entry cs)) with
    | none => entriesAsking accept rest
    | some info =>
      let kept ← if info.type.isDirect then pure true else ask accept info
      let infos ← entriesAsking accept rest
      return if kept then info :: infos else infos

/-- The usable entries of a line, with a record of what was asked. -/
def parseAsking (line : String) (accept : ProxyInfo → Bool) :
    StateM (List ProxyInfo) (Except ProxyLineFault (List ProxyInfo)) :=
  if (trim line.toList).isEmpty then pure (.ok [.direct])
  else do
    let result ← (entriesAsking accept (pieces ';' line.toList)).run
    return result.mapError fun fault => { line, fault }

/-- What is asked about pieces: of the entries in front of the first piece that cannot be read, all
but the direct connections. -/
def questions : List (List Char) → List ProxyInfo
  | [] => []
  | cs :: rest =>
    match entry cs with
    | .error _ => []
    | .ok none => questions rest
    | .ok (some info) => if info.type.isDirect then questions rest else info :: questions rest

variable {accept : ProxyInfo → Bool}

/-- Pieces are asked about as `questions` has it, and give what they give without questions. -/
theorem entriesAsking_run : ∀ (cut : List (List Char)) (asked : List ProxyInfo),
    (entriesAsking accept cut).run.run asked = (entries accept cut, asked ++ questions cut)
  | [], asked => by
    rw [questions, List.append_nil]
    rfl
  | cs :: rest, asked => by
    have ih := entriesAsking_run rest
    -- an entry that is kept is put in front of what is read later
    have hmap (f : List ProxyInfo → List ProxyInfo) (asked : List ProxyInfo) :
        (f <$> entriesAsking accept rest).run.run asked =
          (f <$> entries accept rest, asked ++ questions rest) := by
      rw [ExceptT.run_map, StateT.run_map, ih]
      rfl
    rcases hentry : entry cs with fault | _ | i
    · simp only [entriesAsking, entries, questions, hentry, List.append_nil]
      rfl
    · have hread : (ExceptT.mk (pure (.ok none)) : ExceptT ProxyFault (StateM (List ProxyInfo))
          (Option ProxyInfo)) = pure none := rfl
      simp only [entriesAsking, entries, questions, hentry, hread, pure_bind, ih]
      rcases entries accept rest with _ | _ <;> rfl
    · have hread : (ExceptT.mk (pure (.ok (some i))) : ExceptT ProxyFault
          (StateM (List ProxyInfo)) (Option ProxyInfo)) = pure (some i) := rfl
      have hentries : entries accept (cs :: rest) =
          (fun infos => if i.type.isDirect || accept i then i :: infos else infos) <$>
            entries accept rest := by
        rw [entries, hentry]
        rcases entries accept rest with _ | _ <;> rfl
      simp only [entriesAsking, questions, hentry, hread, pure_bind, bind_pure_comp, hentries]
      rcases i.type.isDirect with _ | _
      · show ((fun infos => if accept i then i :: infos else infos) <$>
          entriesAsking accept rest).run.run (asked ++ [i]) = _
        rw [hmap, List.append_assoc]
        rfl
      · exact hmap _ asked

theorem of_mem_questions {i : ProxyInfo} : ∀ {cut : List (List Char)}, i ∈ questions cut →
    i.type ≠ .direct
  | cs :: rest, h => by
    rw [questions] at h
    split at h
    · simp at h
    · exact of_mem_questions h
    · split_ifs at h with hdirect
      · exact of_mem_questions h
      · rcases List.mem_cons.1 h with rfl | h
        · rintro hi
          exact hdirect (by rw [hi]; rfl)
        · exact of_mem_questions h

/-- Of pieces that can be read all is asked about but direct connections. -/
theorem questions_eq : ∀ {cut : List (List Char)} {infos : List ProxyInfo},
    entries (fun _ => true) cut = .ok infos →
      questions cut = infos.filter fun i => !i.type.isDirect
  | [], infos, h => by
    cases h
    rfl
  | cs :: rest, infos, h => by
    obtain ⟨first, others, hfirst, hrest, rfl⟩ := entries_cons_ok_iff.1 h
    have ih := questions_eq hrest
    rcases first with _ | i
    · simp [questions, hfirst, ih, Option.filter]
    · rcases hdirect : i.type.isDirect with _ | _ <;>
        simp [questions, hfirst, ih, Option.filter, hdirect]

/-- What is accepted decides which entries are left out, and nothing else. -/
theorem entries_accept (accept : ProxyInfo → Bool) (cut : List (List Char)) :
    entries accept cut = (entries (fun _ => true) cut).map
      (List.filter fun i => i.type.isDirect || accept i) := by
  rcases h : entries (fun _ => true) cut with fault | infos
  · exact entries_error_iff.2 (entries_error_iff.1 h)
  · obtain ⟨given, hgiven, rfl⟩ := entries_ok_iff.1 h
    refine entries_ok_iff.2 ⟨given, hgiven, ?_⟩
    simp

/-! ## Lines -/

variable {line : String}

theorem parseAsking_of_blank (h : Blank line) (asked : List ProxyInfo) :
    (parseAsking line accept).run asked = (.ok [.direct], asked) := by
  simp only [parseAsking, if_pos (isEmpty_trim_iff.2 h)]
  rfl

theorem parseAsking_of_not_blank (h : ¬Blank line) (asked : List ProxyInfo) :
    (parseAsking line accept).run asked =
      (parse (some line) accept, asked ++ questions (pieces ';' line.toList)) := by
  have hrun := @entriesAsking_run accept (pieces ';' line.toList) asked
  simp only [parseAsking, if_neg (isEmpty_trim_iff.not.2 h), StateT.run_bind, hrun,
    parse_of_not_blank h]
  rfl

/-- A line fails whatever is accepted, or else gives its entries without those that are not
accepted. Direct connections are given and are not asked about; of a line that can be read all other
entries are, each in its turn. -/
theorem parse_accept (line : String) (accept : ProxyInfo → Bool) :
    (∀ fault, parse (some line) accept = .error fault ↔
      parse (some line) (fun _ => true) = .error fault) ∧
    (∀ infos, parse (some line) (fun _ => true) = .ok infos →
      parse (some line) accept = .ok (infos.filter fun i => i.type.isDirect || accept i)) ∧
    ∃ asked, (parseAsking line accept).run [] = (parse (some line) accept, asked) ∧
      (∀ i ∈ asked, i.type ≠ .direct) ∧
      ∀ infos, parse (some line) (fun _ => true) = .ok infos →
        asked = infos.filter fun i => !i.type.isDirect := by
  by_cases hblank : Blank line
  · rw [parse_of_blank hblank, parse_of_blank hblank, parseAsking_of_blank hblank]
    refine ⟨fun fault => Iff.rfl, fun infos h => ?_, [], rfl, by simp, fun infos h => ?_⟩
    · cases h
      rfl
    · cases h
      rfl
  · refine ⟨fun fault => ?_, fun infos h => ?_, _, parseAsking_of_not_blank hblank [],
      fun i hi => ?_, fun infos h => ?_⟩
    · rw [parse_error_iff, parse_error_iff]
    · rw [parse_of_not_blank hblank, entries_accept, (parse_ok_iff hblank).1 h]
      rfl
    · exact of_mem_questions hi
    · exact questions_eq ((parse_ok_iff hblank).1 h)

end PacScript.ProxyLine
