import BuildTriage.Proofs.Triage.Course
import BuildTriage.Proofs.Triage.Frame
import Mathlib.Data.List.Forall2

/-!
# What a conversion fills in

A record of a found indication is due if it has the number of a line and no text, and the log has
a line of that number; line zero counts as the first. A conversion gives each record that is due
the text of its line, and leaves all else as it is. What it answers is the number of records that
were due, after it none is, and if none was before then nothing is written.
-/

namespace BuildTriage

variable {log : List String}

namespace FoundIndication

variable {f g : FoundIndication}

/-- A record can be filled in from a log: it has no text, and the log has its line. -/
def isDue (log : List String) (f : FoundIndication) : Bool :=
  f.matchingString.isNone && f.matchingLine.any fun line => decide (max line.toNat 1 ≤ log.length)

/-- What a conversion makes of a record. -/
inductive Filled (log : List String) : FoundIndication → FoundIndication → Prop where
  /-- A record that is due gets the text of its line and the digest of that. -/
  | due {f : FoundIndication} {line : UInt64} {text : String} (hnone : f.matchingString = none)
    (hline : f.matchingLine = some line) (htext : log[max line.toNat 1 - 1]? = some text) :
    Filled log f { f with
      matchingString := some text
      matchingHash := some (Text.Digest.ofText text) }
  /-- Any other record is left as it is. -/
  | kept {f : FoundIndication} (h : f.isDue log = false) : Filled log f f

/-- A record with a line and no text gets the text of that line, if the log has it. -/
theorem fill?_line {line : UInt64} (hnone : f.matchingString = none)
    (hline : f.matchingLine = some line) :
    f.fill? log = log[max line.toNat 1 - 1]?.map fun text => { f with
      matchingString := some text
      matchingHash := some (Text.Digest.ofText text) } := by
  have hneeds : f.needsConversion = true := by rw [needsConversion, hnone, hline]; rfl
  have hindex : max line.toNat 1 - 1 = line.toNat - 1 := by omega
  rw [fill?, if_pos hneeds, hline, hindex, Option.map_eq_bind]
  rfl

/-- A record that is due is filled in, and no other is. -/
theorem fill?_cases (log : List String) (f : FoundIndication) :
    (∃ g, f.fill? log = some g ∧ f.isDue log = true ∧ Filled log f g) ∨
      f.fill? log = none ∧ f.isDue log = false := by
  cases hstring : f.matchingString with
  | some text => exact .inr ⟨by simp [fill?, needsConversion, hstring], by simp [isDue, hstring]⟩
  | none =>
    cases hline : f.matchingLine with
    | none => exact .inr ⟨by simp [fill?, needsConversion, hline], by simp [isDue, hline]⟩
    | some line =>
      have hdue : f.isDue log = decide (max line.toNat 1 ≤ log.length) := by
        rw [isDue, hstring, hline]
        rfl
      rw [fill?_line hstring hline, hdue]
      cases htext : log[max line.toNat 1 - 1]? with
      | some text =>
        have hlt := List.getElem?_eq_some_iff.mp htext |>.1
        exact .inl ⟨_, rfl, decide_eq_true (by omega), .due hstring hline htext⟩
      | none =>
        have hle := List.getElem?_eq_none_iff.mp htext
        exact .inr ⟨rfl, decide_eq_false (by omega)⟩

theorem fill?_eq_none (h : f.isDue log = false) : f.fill? log = none := by
  obtain ⟨_, -, hdue, -⟩ | ⟨hnone, -⟩ := fill?_cases log f
  · rw [h] at hdue
    cases hdue
  · exact hnone

/-- What a conversion makes of a record is determined by the log. -/
theorem Filled.eq_getD (h : Filled log f g) : g = (f.fill? log).getD f := by
  cases h with
  | due hnone hline htext =>
    rw [fill?_line hnone hline, htext]
    rfl
  | kept h => rw [fill?_eq_none h, Option.getD_none]

/-- A record is filled in in one way only. -/
theorem Filled.unique : Relator.RightUnique (Filled log) :=
  fun _ _ _ h h' => h.eq_getD.trans h'.eq_getD.symm

/-- A record that is filled in is not due. -/
theorem Filled.not_due (h : Filled log f g) : g.isDue log = false := by
  cases h with
  | due => rfl
  | kept h => exact h

/-- None of some records is due any more once they are filled in. -/
theorem countP_filled {found filled : List FoundIndication}
    (h : List.Forall₂ (Filled log) found filled) : filled.countP (·.isDue log) = 0 := by
  induction h with
  | nil => rfl
  | cons hfilled _ ih =>
    rw [List.countP_cons_of_neg (by rw [hfilled.not_due]; exact Bool.false_ne_true), ih]

/-- Records of which none is due are left as they are. -/
theorem filled_self {found : List FoundIndication} (h : found.countP (·.isDue log) = 0) :
    List.Forall₂ (Filled log) found found :=
  List.forall₂_same.mpr fun f hf =>
    .kept (Bool.eq_false_iff.mpr (List.countP_eq_zero.mp h f hf))

/-- All records are filled in that are due, and these are counted. -/
theorem fillAll_filled (found : List FoundIndication) :
    List.Forall₂ (Filled log) found (fillAll log found).2 ∧
      (fillAll log found).1 = found.countP (·.isDue log) := by
  induction found with
  | nil => exact ⟨.nil, rfl⟩
  | cons f rest ih =>
    obtain ⟨hrest, hcount⟩ := ih
    unfold fillAll
    obtain ⟨g, hfill, hdue, hfilled⟩ | ⟨hfill, hdue⟩ := fill?_cases log f
    · rw [hfill, List.countP_cons_of_pos hdue, ← hcount]
      exact ⟨.cons hfilled hrest, rfl⟩
    · rw [hfill, List.countP_cons_of_neg (by rw [hdue]; exact Bool.false_ne_true), ← hcount]
      exact ⟨.cons (.kept hdue) hrest, rfl⟩

end FoundIndication

namespace FoundCause

/-- What a conversion makes of a found cause: its records are filled in, and everything else of
it stays. -/
def Filled (log : List String) (c d : FoundCause) : Prop :=
  d = { c with indications := d.indications } ∧
    List.Forall₂ (FoundIndication.Filled log) c.indications d.indications

/-- A found cause is filled in in one way only. -/
theorem Filled.unique : Relator.RightUnique (Filled log) := by
  rintro c d e ⟨hd, hfilled⟩ ⟨he, hfilled'⟩
  rw [hd, he, List.right_unique_forall₂' FoundIndication.Filled.unique hfilled hfilled']

/-- How many records of some causes are due. -/
def dueCount (log : List String) (causes : List FoundCause) : Nat :=
  (causes.flatMap (·.indications)).countP (·.isDue log)

theorem fillAll_filled (causes : List FoundCause) :
    List.Forall₂ (Filled log) causes (fillAll log causes).2 ∧
      (fillAll log causes).1 = dueCount log causes := by
  induction causes with
  | nil => exact ⟨.nil, rfl⟩
  | cons c rest ih =>
    obtain ⟨hrest, hcount⟩ := ih
    obtain ⟨hfilled, hown⟩ := @FoundIndication.fillAll_filled log c.indications
    refine ⟨.cons ⟨rfl, hfilled⟩ hrest, ?_⟩
    rw [dueCount, List.flatMap_cons, List.countP_append, ← hown, ← dueCount, ← hcount]
    rfl

/-- None of the records is due any more once they are filled in. -/
theorem dueCount_filled {causes filled : List FoundCause}
    (h : List.Forall₂ (Filled log) causes filled) : dueCount log filled = 0 := by
  induction h with
  | nil => rfl
  | cons hfilled _ ih =>
    rw [dueCount, List.flatMap_cons, List.countP_append, FoundIndication.countP_filled hfilled.2,
      ← dueCount, ih]

/-- Causes of which no record is due are left as they are. -/
theorem filled_self {causes : List FoundCause} (h : dueCount log causes = 0) :
    List.Forall₂ (Filled log) causes causes := by
  refine List.forall₂_same.mpr fun c hc => ⟨rfl, FoundIndication.filled_self ?_⟩
  refine List.countP_eq_zero.mpr fun f hf => ?_
  exact List.countP_eq_zero.mp h f (List.mem_flatMap.mpr ⟨c, hc, hf⟩)

end FoundCause

/-- What a conversion of a build does to a store. -/
structure BuildStore.Fills (s : BuildStore) (b : BuildRef) (n : Nat) (s' : BuildStore) : Prop where
  /-- A build that was never scanned stays so. -/
  unscanned : s.found b = .ok none → n = 0
  /-- The records that are due are filled in, and counted. -/
  scanned : ∀ causes log, s.found b = .ok (some causes) → s.log b = .ok log →
    n = FoundCause.dueCount log causes ∧ ∃ filled,
      List.Forall₂ (FoundCause.Filled log) causes filled ∧ s'.found b = .ok (some filled) ∧
      (0 < n → s.attach b filled = .ok s')
  /-- Nothing is written if nothing is filled in. -/
  unwritten : n = 0 → s' = s
  /-- The builds stay, in their order. -/
  builds : s'.builds = s.builds
  /-- What is known of the builds stays. -/
  info : ∀ other, s'.info other = s.info other
  /-- The logs stay. -/
  log : ∀ other, s'.log other = s.log other
  /-- What was found for other builds stays. -/
  others : ∀ other, other ≠ b → s'.found other = s.found other

namespace BuildStore

variable {s s' : BuildStore} {b : BuildRef} {causes filled : List FoundCause}

/-- Where no record is due, nothing changes. -/
theorem fills_nothing (h : ∀ causes log, s.found b = .ok (some causes) → s.log b = .ok log →
    FoundCause.dueCount log causes = 0) : s.Fills b 0 s where
  unscanned _ := rfl
  scanned causes log hfound hlog := by
    have hcount := h causes log hfound hlog
    exact ⟨hcount.symm, causes, FoundCause.filled_self hcount, hfound,
      fun hpos => absurd hpos (Nat.lt_irrefl 0)⟩
  unwritten _ := rfl
  builds := rfl
  info _ := rfl
  log _ := rfl
  others _ _ := rfl

/-- The causes with their records filled in are attached to the build. -/
theorem fills_attached (hfound : s.found b = .ok (some causes)) (hlog : s.log b = .ok log)
    (hfilled : List.Forall₂ (FoundCause.Filled log) causes filled)
    (hpos : FoundCause.dueCount log causes ≠ 0) (hattach : s.attach b filled = .ok s') :
    s.Fills b (FoundCause.dueCount log causes) s' where
  unscanned hnone := by rw [hfound] at hnone; cases hnone
  scanned causes' log' hfound' hlog' := by
    rw [hfound] at hfound'
    rw [hlog] at hlog'
    cases hfound'
    cases hlog'
    exact ⟨rfl, filled, hfilled, found_setFound hattach, fun _ => hattach⟩
  unwritten hzero := absurd hzero hpos
  builds := builds_setFound hattach
  info := info_setFound hattach
  log := log_setFound hattach
  others _ := found_setFound_other hattach

/-- Causes of which no record is due are converted to themselves. -/
theorem fillFound_of_dueCount (hfound : s.found b = .ok (some causes)) (hlog : s.log b = .ok log)
    (h : FoundCause.dueCount log causes = 0) : s.fillFound b = .ok (0, s) := by
  rw [Course.fillFound_some hfound hlog]
  dsimp only
  rw [(FoundCause.fillAll_filled causes).2, h]
  rfl

/-- A build that is listed is converted, and converting it again changes nothing. -/
theorem exists_fills (hb : b ∈ s.builds) : ∃ n s', s.fillFound b = .ok (n, s') ∧
    s.Fills b n s' ∧ s'.fillFound b = .ok (0, s') := by
  obtain ⟨r, hr⟩ := get_of_mem hb
  have hlog : s.log b = .ok r.log := log_of_get hr
  have hfound : s.found b = .ok r.found := by rw [BuildStore.found, hr]; rfl
  cases hr' : r.found with
  | none =>
    rw [hr'] at hfound
    have hsame := Course.fillFound_none hfound
    refine ⟨0, s, hsame, fills_nothing fun causes log hcauses _ => ?_, hsame⟩
    rw [hfound] at hcauses
    cases hcauses
  | some causes =>
    rw [hr'] at hfound
    by_cases hdue : FoundCause.dueCount r.log causes = 0
    · have hsame := fillFound_of_dueCount hfound hlog hdue
      refine ⟨0, s, hsame, fills_nothing fun causes' log' hcauses hlog' => ?_, hsame⟩
      rw [hfound] at hcauses
      rw [hlog] at hlog'
      cases hcauses
      cases hlog'
      exact hdue
    · obtain ⟨hfilled, hcount⟩ := @FoundCause.fillAll_filled r.log causes
      have hattach := setFound_ok hr (some (FoundCause.fillAll r.log causes).2)
      refine ⟨_, _, ?_, fills_attached hfound hlog hfilled hdue hattach, ?_⟩
      · rw [Course.fillFound_some hfound hlog]
        dsimp only
        rw [hcount, if_neg hdue, attach, hattach]
        rfl
      · exact fillFound_of_dueCount (found_setFound hattach) ((log_setFound hattach b).trans hlog)
          (FoundCause.dueCount_filled hfilled)

end BuildStore

namespace Triage

/-- The conversion of a build, for every host and every build. A build that is not in the store
is an error, and nothing changes. Any other is converted: exactly the records that are due are
filled in, their number is answered, everything else stays, and converting the build once more
answers zero and changes nothing. -/
theorem fillFound_fills (t : Triage) (b : BuildRef) :
    (b ∉ t.builds.builds → fillFound b t = .error ⟨b⟩ t) ∧
    (b ∈ t.builds.builds → ∃ n t', fillFound b t = .ok n t' ∧
      t' = { t with builds := t'.builds } ∧ t.builds.Fills b n t'.builds ∧
      fillFound b t' = .ok 0 t') := by
  refine ⟨fun hb => ?_, fun hb => ?_⟩
  · have hfound : t.builds.found b = .error ⟨b⟩ := by
      rw [BuildStore.found, BuildStore.get_of_notMem hb]
      rfl
    exact fillFound_error (Course.fillFound_error hfound)
  · obtain ⟨n, builds, hfirst, hfills, hagain⟩ := BuildStore.exists_fills hb
    exact ⟨n, { t with builds := builds }, fillFound_ok hfirst, rfl, hfills, fillFound_ok hagain⟩

/-- A host with a build of two lines. Of what was found for it, one record has its text, one has
neither text nor line, one has a line that the log does not have, and three are due, one of these
with line zero. -/
def mixedRecords : Triage :=
  let old (line : UInt64) := FoundIndication.lineOnly "x" "log" line
  let first := [.ofMatch "x" "log" 1 "x1", { old 1 with matchingLine := none }, old 3, old 0]
  let causes : List FoundCause := [⟨"a", "A", "", [], first⟩, ⟨"b", "B", "", [], [old 1, old 2]⟩]
  { start {} (.ofFile .inMemory) "" with
    builds := ⟨[⟨.bare ⟨"p", 1⟩ .failure, ["x1", "x2"], some causes⟩]⟩ }

theorem fillFound_fills_mixedRecords :
    ⟨"p", 2⟩ ∉ mixedRecords.builds.builds ∧
    fillFound ⟨"p", 2⟩ mixedRecords = .error ⟨⟨"p", 2⟩⟩ mixedRecords ∧
    ⟨"p", 1⟩ ∈ mixedRecords.builds.builds ∧
    ∃ t', fillFound ⟨"p", 1⟩ mixedRecords = .ok 3 t' ∧
      mixedRecords.builds.Fills ⟨"p", 1⟩ 3 t'.builds ∧ fillFound ⟨"p", 1⟩ t' = .ok 0 t' := by
  have hunknown : ⟨"p", 2⟩ ∉ mixedRecords.builds.builds := by decide
  have hknown : ⟨"p", 1⟩ ∈ mixedRecords.builds.builds := by decide
  obtain ⟨n, t', hrun, -, hfills, hagain⟩ := (fillFound_fills mixedRecords ⟨"p", 1⟩).2 hknown
  obtain rfl : n = 3 := (hfills.scanned _ _ rfl rfl).1.trans (by decide)
  exact ⟨hunknown, (fillFound_fills mixedRecords ⟨"p", 2⟩).1 hunknown, hknown,
    t', hrun, hfills, hagain⟩

end Triage

end BuildTriage
