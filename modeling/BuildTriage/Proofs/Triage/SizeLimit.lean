import BuildTriage.Analyzer
import BuildTriage.Proofs.Triage.Gate

/-!
# The size limit of logs

The limit is set in megabytes, and any word may be set. It is multiplied by 1024 and by 1024
again, and the log of a build is refused if it is longer than the product. Below `2 ^ 44`
megabytes the product is a word, and the limit is exact. From there on it is none, and a call that
has come to the limit is broken off, although no log that fits in memory is longer than what was
set.
-/

namespace BuildTriage

/-- A build that has to be scanned, unless its log is too long: its result is one that is looked
into, and it was never scanned. -/
structure BuildRecord.Pending (s : ScannerSettings) (r : BuildRecord) : Prop where
  /-- Its result is looked into. -/
  needed : r.info.result.needsAnalysis s.skipAborted = true
  /-- It was never scanned. -/
  unscanned : r.found = none

namespace ScannerSettings

variable {s : ScannerSettings} {r : BuildRecord}

/-- Only for its log can such a build be spared. -/
theorem spared_pending (h : r.Pending s) (hlimit : s.maxLogSizeMb ≠ 0) :
    s.spared? r.info r.found =
      match s.logLimit? with
      | some limit =>
        if limit < r.info.logSize then some (.logTooLarge r.info.logSize limit) else none
      | none => some .overflow := by
  have hresult : r.info.result ≠ .success := by
    intro hsuccess
    have hneeded := h.needed
    rw [hsuccess] at hneeded
    cases hneeded
  unfold spared?
  rw [if_neg hresult, h.needed, h.unscanned, if_neg hlimit]
  rfl

/-- The limit comes to a word below `2 ^ 44` megabytes, and only there. -/
theorem logLimit?_isSome_iff : s.logLimit?.isSome = true ↔ s.maxLogSizeMb.toNat < 2 ^ 44 := by
  constructor
  · intro hsome
    refine Nat.lt_of_not_le fun hle => ?_
    rw [logLimit?_eq_none hle] at hsome
    cases hsome
  · intro hlt
    obtain ⟨limit, hword, -⟩ := logLimit?_eq_some hlt
    rw [hword]
    rfl

end ScannerSettings

/-- Services start under settings that can work, and scan builds as these say. -/
theorem Analyzer.exists_start {settings : Settings} (hcheck : settings.check = .ok ())
    (kb : KnowledgeBase) :
    ∃ a, start settings kb = .ok a ∧ a.triage.settings = settings.scanner := by
  unfold start
  rw [hcheck]
  exact ⟨_, rfl, rfl⟩

namespace Triage

/-- A call for a build refuses its log exactly if the log is longer than a bound. -/
structure Bounded (t : Triage) (b : BuildRef) (r : BuildRecord) (bound : Nat) : Prop where
  /-- A longer log is refused, and no other. -/
  refused_iff : (∃ size limit t', completed b t = .ok (.logTooLarge size limit) t') ↔
    bound < logBytes r.log
  /-- A refusal names the size of the log and the bound, and changes nothing. -/
  refusal : ∀ size limit t', completed b t = .ok (.logTooLarge size limit) t' →
    size.toNat = logBytes r.log ∧ limit.toNat = bound ∧ t' = t
  /-- Another log is scanned. -/
  scanned : logBytes r.log ≤ bound → ∃ found t', completed b t = .ok (.scanned found) t'

variable {t : Triage} {b : BuildRef} {r : BuildRecord} {limit : UInt64}

/-- A build that is spared for its log changes nothing. -/
theorem completed_spared (h : t.builds.get b = .ok r) {reason : Outcome}
    (hspared : t.settings.spared? r.info r.found = some reason) (hreason : reason ≠ .successful) :
    completed b t = .ok reason t := by
  rw [← completedBy_ownLook, completedBy_spared ownLook h hspared, spared,
    if_neg fun hall => hreason hall.1]

/-- A log that is longer than the limit is refused. -/
theorem completed_long (h : t.builds.get b = .ok r) (hpending : r.Pending t.settings)
    (hlimit : t.settings.maxLogSizeMb ≠ 0) (hword : t.settings.logLimit? = some limit)
    (hlong : limit < r.info.logSize) :
    completed b t = .ok (.logTooLarge r.info.logSize limit) t := by
  have hspared := ScannerSettings.spared_pending hpending hlimit
  rw [hword] at hspared
  exact completed_spared h (hspared.trans (if_pos hlong)) nofun

/-- Any other log is scanned. -/
theorem completed_short (h : t.builds.get b = .ok r) (hpending : r.Pending t.settings)
    (hlimit : t.settings.maxLogSizeMb ≠ 0) (hword : t.settings.logLimit? = some limit)
    (hshort : ¬limit < r.info.logSize) :
    ∃ found t', completed b t = .ok (.scanned found) t' := by
  have hspared := ScannerSettings.spared_pending hpending hlimit
  rw [hword] at hspared
  obtain ⟨found, t', hscanned, -⟩ :=
    completedBy_scanned ownLook h (hspared.trans (if_neg hshort))
  rw [completedBy_ownLook] at hscanned
  exact ⟨found, t', hscanned⟩

/-- A limit that is no word breaks the call off. -/
theorem completed_overflow (h : t.builds.get b = .ok r) (hpending : r.Pending t.settings)
    (hlimit : t.settings.maxLogSizeMb ≠ 0) (hword : t.settings.logLimit? = none) :
    completed b t = .ok .overflow t := by
  have hspared := ScannerSettings.spared_pending hpending hlimit
  rw [hword] at hspared
  exact completed_spared h hspared nofun

/-- The bound is the limit, if it comes to a word. -/
theorem bounded_limit (h : t.builds.get b = .ok r) (hsize : r.info.logSize.toNat = logBytes r.log)
    (hpending : r.Pending t.settings) (hlimit : t.settings.maxLogSizeMb ≠ 0)
    (hword : t.settings.logLimit? = some limit) : Bounded t b r limit.toNat := by
  have hlonger : limit < r.info.logSize ↔ limit.toNat < logBytes r.log := by
    rw [UInt64.lt_iff_toNat_lt, hsize]
  by_cases hlong : limit < r.info.logSize
  · have hrefused := completed_long h hpending hlimit hword hlong
    constructor
    case refused_iff => exact ⟨fun _ => hlonger.mp hlong, fun _ => ⟨_, _, _, hrefused⟩⟩
    case refusal =>
      intro size limit t' hanswer
      obtain ⟨houtcome, ht⟩ := EStateM.Result.ok.inj (hrefused.symm.trans hanswer)
      obtain ⟨rfl, rfl⟩ := Outcome.logTooLarge.inj houtcome
      exact ⟨hsize, rfl, ht.symm⟩
    case scanned => exact fun hle => absurd (hlonger.mp hlong) (Nat.not_lt_of_le hle)
  · obtain ⟨found, t', hscanned⟩ := completed_short h hpending hlimit hword hlong
    have hnever : ∀ size limit u, completed b t ≠ .ok (.logTooLarge size limit) u := by
      intro size limit u hanswer
      have houtcome := (EStateM.Result.ok.inj (hscanned.symm.trans hanswer)).1
      exact Outcome.noConfusion houtcome
    constructor
    case refused_iff =>
      refine ⟨?_, fun hlt => absurd (hlonger.mpr hlt) hlong⟩
      rintro ⟨size, limit, u, hanswer⟩
      exact absurd hanswer (hnever size limit u)
    case refusal => exact fun size limit u hanswer => absurd hanswer (hnever size limit u)
    case scanned => exact fun _ => ⟨found, t', hscanned⟩

/-- How a limit in megabytes bears on a build. -/
structure Limited (mb : UInt64) (t : Triage) (b : BuildRef) (r : BuildRecord) : Prop where
  /-- Neither multiplication leaves the words exactly if the limit is below `2 ^ 44`. -/
  word_iff : t.settings.logLimit?.isSome = true ↔ mb.toNat < 2 ^ 44
  /-- Then the bound is what was set. -/
  exact : mb.toNat < 2 ^ 44 → Bounded t b r (mb.toNat * 1048576)
  /-- Otherwise the call is broken off and changes nothing, although no log is longer than what
  was set. -/
  overflow : 2 ^ 44 ≤ mb.toNat →
    completed b t = .ok .overflow t ∧ logBytes r.log < mb.toNat * 1048576

/-- Under all settings that can work and set a size limit, services start, and whatever builds
they come to hold, a failed build that was not scanned is refused for its log exactly if the log
has more bytes than the limit in megabytes comes to, as long as that is below `2 ^ 44`; the limit
is named as it was set. With a larger limit the call is broken off. -/
theorem limited_of_start {settings : Settings} (hcheck : settings.check = .ok ())
    (hlimit : 0 < settings.scanner.maxLogSizeMb) (kb : KnowledgeBase) :
    ∃ a, Analyzer.start settings kb = .ok a ∧ ∀ t : Triage, t.settings = a.triage.settings →
      t.builds.Reached → ∀ b r, t.builds.get b = .ok r → r.Pending t.settings →
        Limited settings.scanner.maxLogSizeMb t b r := by
  obtain ⟨a, hstart, hscanner⟩ := Analyzer.exists_start hcheck kb
  refine ⟨a, hstart, fun t hsettings hreached b r hr hpending => ?_⟩
  rw [hscanner] at hsettings
  have hne : t.settings.maxLogSizeMb ≠ 0 := by
    rw [hsettings]
    exact (UInt64.pos_iff_ne_zero).mp hlimit
  have hsize := hreached.toNat_logSize r (BuildStore.mem_of_get hr)
  rw [← hsettings]
  constructor
  case word_iff => exact ScannerSettings.logLimit?_isSome_iff
  case exact =>
    intro hbelow
    obtain ⟨limit, hword, hbytes⟩ := ScannerSettings.logLimit?_eq_some hbelow
    have hbounded := bounded_limit hr hsize hpending hne hword
    rw [hbytes] at hbounded
    exact hbounded
  case overflow =>
    intro habove
    have hfits : logBytes r.log < 2 ^ 64 := hsize ▸ r.info.logSize.toNat_lt
    refine ⟨?_, by omega⟩
    exact completed_overflow hr hpending hne (ScannerSettings.logLimit?_eq_none habove)

/-- Settings with a size limit. -/
def limitedTo (mb : UInt64) : Settings := { scanner := { maxLogSizeMb := mb } }

/-- A build that failed and has a log of one short line. -/
def oneFailure : BuildRecord := .unscanned (.bare ⟨"p", 1⟩ .failure) ["x"]

/-- A host under such settings with that build. -/
def withFailure (mb : UInt64) : Triage :=
  { start (limitedTo mb).scanner (.ofFile .inMemory) "local" with
    builds := BuildStore.empty.insert oneFailure.info oneFailure.log }

/-- The largest limit that comes to a word is exact. -/
theorem limited_of_start_largest :
    (limitedTo 17592186044415).check = .ok () ∧
    0 < (limitedTo 17592186044415).scanner.maxLogSizeMb ∧
    Limited 17592186044415 (withFailure 17592186044415) ⟨"p", 1⟩ oneFailure ∧
    Bounded (withFailure 17592186044415) ⟨"p", 1⟩ oneFailure 18446744073708503040 := by
  have hcheck : (limitedTo 17592186044415).check = .ok () := by decide +kernel
  have hlimit : 0 < (limitedTo 17592186044415).scanner.maxLogSizeMb := by decide +kernel
  have hreached : (withFailure 17592186044415).builds.Reached :=
    .insert .empty _ _ (by decide +kernel)
  have hget : (withFailure 17592186044415).builds.get ⟨"p", 1⟩ = .ok oneFailure := rfl
  obtain ⟨a, hstart, hlimited⟩ := limited_of_start hcheck hlimit (.ofFile .inMemory)
  have hsettings : (withFailure 17592186044415).settings = a.triage.settings := by
    rw [← Except.ok.inj hstart]
    rfl
  have hsample := hlimited _ hsettings hreached _ _ hget ⟨rfl, rfl⟩
  exact ⟨hcheck, hlimit, hsample, hsample.exact (by decide +kernel)⟩

/-- A limit of `2 ^ 44` megabytes is accepted, and breaks the call for a log of two bytes off. -/
theorem short_log_breaks_off :
    (limitedTo 17592186044416).check = .ok () ∧
    (withFailure 17592186044416).settings = (limitedTo 17592186044416).scanner ∧
    oneFailure.Pending (withFailure 17592186044416).settings ∧
    completed ⟨"p", 1⟩ (withFailure 17592186044416) =
      .ok .overflow (withFailure 17592186044416) ∧
    ¬(17592186044416 : UInt64).toNat * 1048576 < logBytes oneFailure.log := by
  have hpending : oneFailure.Pending (withFailure 17592186044416).settings := ⟨rfl, rfl⟩
  have hget : (withFailure 17592186044416).builds.get ⟨"p", 1⟩ = .ok oneFailure := rfl
  have hbroken := completed_overflow hget hpending (by decide +kernel) (by decide +kernel)
  exact ⟨by decide +kernel, rfl, hpending, hbroken, by decide +kernel⟩

end Triage

end BuildTriage
