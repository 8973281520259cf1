import BuildTriage.Proofs.Scan.Causes

/-!
# Scans whose attempts are answered in time

How long an attempt takes differs from one scan to the next, and so does what becomes of it. Only
an attempt that is not answered in time makes a difference to what is found, though: when all are
answered, a scan finds the first hit. So what is reported for a log is the same each time.
-/

namespace BuildTriage

namespace Scan

variable {α : Type}

/-- What is found of the first item that has a hit. -/
def firstFound (hit : α → Option (Nat × Nat)) (describe : α → Nat × Nat → FoundIndication)
    (items : List α) : Option FoundIndication :=
  items.findSome? fun item => (hit item).map (describe item)

namespace Scanner

/-- Answered attempts find the first hit. -/
theorem found_conduct (hit : α → Option (Nat × Nat))
    (describe : α → Nat × Nat → FoundIndication) {turns : List (Turn α)}
    (hanswered : ∀ t ∈ turns, t.ending = .answered) (a : Allowance) :
    (conduct hit describe turns a).1.found = firstFound hit describe (turns.map (·.item)) := by
  rcases conduct_answered hanswered a with
    ⟨hnone, hfound⟩ | ⟨front, item, back, bytes, hitems, hfront, hhit, hfound⟩
  · rw [hfound]
    symm
    refine List.findSome?_eq_none_iff.mpr fun item hitem => ?_
    rw [hnone item hitem]
    rfl
  · have hearlier : firstFound hit describe front = none := by
      refine List.findSome?_eq_none_iff.mpr fun earlier hearlier => ?_
      rw [hfront earlier hearlier]
      rfl
    rw [hfound, hitems, firstFound, List.findSome?_append]
    change _ = (firstFound hit describe front).or _
    rw [hearlier, Option.none_or, List.findSome?_cons, hhit]
    rfl

/-- What a scan for an indication finds if all its attempts are answered in time. -/
def first (s : Scanner) (i : Indication) (lines : List String) (file : String) :
    Option FoundIndication :=
  match i.mode with
  | .singleLine =>
    firstFound (fun item => i.compiled.find item.1.toList)
      (fun item _ => lineFound i.pattern file item) (lineItems lines)
  | .multiLine =>
    firstFound (fun w => i.compiled.find w.chars) (blockFound i.pattern file (joinLines lines))
      (s.blockItems lines)

/-- A scan for an indication, all of whose attempts are answered in time, has found something or
nothing. What it shares with other scans, and what befalls that meanwhile, may be anything. -/
inductive FindsInTime (s : Scanner) (i : Indication) (lines : List String) (file : String) :
    Option FoundIndication → Prop where
  | lines (hmode : i.mode = .singleLine) {turns : List (Turn (String × Nat))}
    (hitems : turns.map (·.item) = lineItems lines)
    (hanswered : ∀ t ∈ turns, t.ending = .answered) (a : Allowance) :
    FindsInTime s i lines file (scanLines i.compiled.find i.pattern file turns a).1.found
  | blocks (hmode : i.mode = .multiLine) {turns : List (Turn Window)}
    (hitems : turns.map (·.item) = s.blockItems lines)
    (hanswered : ∀ t ∈ turns, t.ending = .answered) (a : Allowance) :
    FindsInTime s i lines file (scanBlocks i.compiled.find i.pattern file lines turns a).1.found

/-- What it has found does not depend on how it went. -/
theorem FindsInTime.eq_first {s : Scanner} {i : Indication} {lines : List String} {file : String}
    {found : Option FoundIndication} (h : s.FindsInTime i lines file found) :
    found = s.first i lines file := by
  cases h with
  | lines hmode hitems hanswered a =>
    rw [scanLines, found_conduct _ _ hanswered a, hitems, first, hmode]
  | blocks hmode hitems hanswered a =>
    rw [scanBlocks, found_conduct _ _ hanswered a, hitems, first, hmode]

end Scanner

/-- Attempts that take no time are answered if there is any time. -/
theorem Limits.answered_of_pos {l : Limits} (hitem : 0 < l.item) (hscan : 0 < l.scan)
    (items : List α) {done : List (Turn α)} (hdone : ∀ t ∈ done, t.ending = .answered) :
    ∀ t ∈ l.turns (fun _ => .takes 0) 0 items done, t.ending = .answered := by
  induction items generalizing done with
  | nil =>
    intro t ht
    exact hdone t (List.mem_reverse.mp ht)
  | cons item rest ih =>
    have hending : l.ending 0 (.takes 0) = (.answered, 0) := by
      have hwait : 0 < min l.item (l.scan - 0) := Nat.lt_min.mpr ⟨hitem, hscan⟩
      simp only [ending, if_neg (Nat.not_le.mpr hscan), if_pos hwait]
    rw [turns, hending]
    dsimp only
    refine ih fun t ht => ?_
    rcases List.mem_cons.mp ht with rfl | hold
    · rfl
    · exact hdone t hold

/-- A scan whose attempts take no time is one whose attempts are answered in time, if there is
any. -/
theorem Scanner.scan_inTime {s : Scanner} (hline : 0 < s.lineLimits.item)
    (hlines : 0 < s.lineLimits.scan) (hblock : 0 < s.blockLimits.item)
    (hblocks : 0 < s.blockLimits.scan) (i : Indication) (lines : List String) (file : String) :
    s.FindsInTime i lines file (s.scan i lines file).found := by
  unfold scan run
  cases hmode : i.mode with
  | singleLine =>
    refine .lines hmode (map_item_lineTurns s _ lines) ?_ _
    exact Limits.answered_of_pos hline hlines _ (List.forall_mem_nil _)
  | multiLine =>
    refine .blocks hmode (map_item_blockTurns s _ lines) ?_ _
    exact Limits.answered_of_pos hblock hblocks _ (List.forall_mem_nil _)

/-- The causes that are found in a log, when it is known what is found of each indication. -/
def causesBy (finds : FailureCause → Indication → Option FoundIndication)
    (causes : List FailureCause) (build : BuildRef) : List FoundCause :=
  (causes.filter fun c => !c.isRemoved).filterMap fun c =>
    let hits := c.indications.filterMap fun i => (finds c i).map (·.withBuild build)
    if hits.isEmpty then none else some (.ofCause c hits)

theorem matchCauses_eq (s : Scanner) (causes : List FailureCause) (log : List String)
    (file : String) (build : BuildRef) :
    matchCauses s causes log file (some build) =
      causesBy (fun _ i => (s.scan i log file).found) causes build := rfl

theorem causesBy_congr {finds finds' : FailureCause → Indication → Option FoundIndication}
    {causes : List FailureCause} (build : BuildRef)
    (h : ∀ c ∈ causes, ∀ i ∈ c.indications, finds c i = finds' c i) :
    causesBy finds causes build = causesBy finds' causes build := by
  refine List.filterMap_congr fun c hc => ?_
  have hhits : c.indications.filterMap (fun i => (finds c i).map (·.withBuild build)) =
      c.indications.filterMap fun i => (finds' c i).map (·.withBuild build) := by
    refine List.filterMap_congr fun i hi => ?_
    rw [h c (List.mem_filter.mp hc).1 i hi]
  dsimp only
  rw [hhits]

end Scan

open Scan

namespace ScannerSettings

/-- What is reported for a log when every attempt to match it is answered in time. -/
def ReportsInTime (s : ScannerSettings) (causes : List FailureCause) (log : List String)
    (build : BuildRef) (found : List FoundCause) : Prop :=
  ∃ finds : FailureCause → Indication → Option FoundIndication,
    (∀ c ∈ causes, ∀ i ∈ c.indications,
      (Scanner.ofSettings s).FindsInTime i log logName (finds c i)) ∧
    found = dropFallbacks s.fallbackCategories (causesBy finds causes build)

variable {s : ScannerSettings} {causes : List FailureCause} {log : List String} {build : BuildRef}

/-- It is the same each time. -/
theorem ReportsInTime.unique {found found' : List FoundCause}
    (h : s.ReportsInTime causes log build found) (h' : s.ReportsInTime causes log build found') :
    found = found' := by
  obtain ⟨finds, hfinds, rfl⟩ := h
  obtain ⟨finds', hfinds', rfl⟩ := h'
  have hcauses : causesBy finds causes build = causesBy finds' causes build := by
    refine causesBy_congr build fun c hc i hi => ?_
    have hfirst := (hfinds c hc i hi).eq_first
    have hfirst' := (hfinds' c hc i hi).eq_first
    rw [hfirst, hfirst']
  rw [hcauses]

/-- What is reported by scans that take no time is reported in time, if there is any. -/
theorem reported_inTime (hline : 0 < s.lineTimeout.toNat) (hblock : 0 < s.blockTimeout.toNat)
    (hfile : 0 < s.fileTimeout.toNat) :
    s.ReportsInTime causes log build (s.reported causes log build) := by
  refine ⟨fun _ i => ((Scanner.ofSettings s).scan i log logName).found, fun c _ i _ => ?_, ?_⟩
  · exact Scanner.scan_inTime hline hfile hblock hfile i log logName
  · rw [reported, matchCauses_eq]

end ScannerSettings

end BuildTriage
