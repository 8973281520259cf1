import BuildTriage.Proofs.Triage.Accounts
import BuildTriage.Proofs.Triage.Racing

/-!
# How often a completed build is scanned

Several calls may come for a completed build, and each reads whether the build was scanned before
it scans it. Nothing keeps others from doing the same between that step and the one in which
what was found is attached. All calls that read before the first attaches scan the build, and
each hands over a record; the others find it scanned. So the build is scanned once exactly if at
no time two calls are between these steps.
-/

namespace BuildTriage

namespace Service

variable {v next : Service} {b : BuildRef} {info : BuildInfo} {found : Option (List FoundCause)}
  {successful : Bool} {cat : Catalog} {saved : List Statistics} {master : String}
  {writes : UInt64 → Prop}

/-- The record is one of a build. -/
def isOf (b : BuildRef) (r : Statistics) : Bool :=
  r.projectName == b.project && r.buildNumber == b.number

/-- What has become of the calls for a completed build that have come to their ends. -/
structure Completed (b : BuildRef) (info : BuildInfo) (v : Service) : Prop where
  /-- Each has scanned the build or found it scanned. -/
  verdicts : ∀ c ∈ v.calls, c.build = b → (∃ found, c.stage = .ended (.scanned info found)) ∨
    c.stage = .ended (.spared info .alreadyScanned)
  /-- One has scanned it, if there is one. -/
  scanned : (∃ c ∈ v.calls, c.build = b) → 0 < v.tally b Stage.hasGiven
  /-- Of each that has scanned it there is one record, and no other of the build. -/
  records : v.inOrder.countP (isOf b) = v.tally b Stage.hasGiven

/-- A record is one of the build that it was made for. -/
theorem isOf_ofBuild (info : BuildInfo) (found : List FoundCause) (master : String) :
    isOf b (.ofBuild info found master) = (info.build == b) := by
  have hparts : info.build = b ↔
      info.build.project = b.project ∧ info.build.number = b.number := by
    obtain ⟨project, number⟩ := b
    exact Iff.of_eq (BuildRef.mk.injEq ..)
  rw [Bool.eq_iff_iff, isOf, Bool.and_eq_true, beq_iff_eq, beq_iff_eq, beq_iff_eq, hparts]
  exact Iff.rfl

/-- A record that a call has handed over was made for what the call knew. -/
theorem exists_of_record {s : Stage} {r : Statistics} (h : s.record? master successful = some r) :
    ∃ info found, info ∈ s.info? ∧ r = .ofBuild info found master := by
  cases s with
  | ended verdict =>
    cases verdict with
    | scanned info found => exact ⟨info, found, rfl, (Option.some.inj h).symm⟩
    | spared info reason =>
      simp only [Stage.record?, Verdict.record?] at h
      split at h
      · exact ⟨info, [], rfl, (Option.some.inj h).symm⟩
      · cases h
    | withdrawn | unknown => cases h
  | called | informed | requested | forgetting | forgot | listing | matching | attaching
  | logging => cases h

/-- Each call that has scanned the build has handed over a record of it, and no other call has. -/
theorem record_of_call {c : Call} (hsound : c.Sound) (hbuild : info.build = b)
    (hverdict : c.build = b → (∃ found, c.stage = .ended (.scanned info found)) ∨
      c.stage = .ended (.spared info .alreadyScanned)) :
    ((c.record? master successful).map (isOf b)).getD false =
      (c.build == b && c.stage.hasGiven) := by
  by_cases hb : c.build = b
  · rw [beq_iff_eq.mpr hb, Bool.true_and, Call.record?]
    rcases hverdict hb with ⟨found, hstage⟩ | hstage
    · rw [hstage]
      exact (isOf_ofBuild info found master).trans (beq_iff_eq.mpr hbuild)
    · rw [hstage]
      rfl
  · rw [beq_false_of_ne hb, Bool.false_and]
    cases hrecord : c.record? master successful with
    | none => rfl
    | some r =>
      obtain ⟨known, found, hknown, rfl⟩ := exists_of_record hrecord
      have hother : known.build ≠ b := by
        rw [hsound.info known hknown]
        exact hb
      rw [Option.map_some, Option.getD_some, isOf_ofBuild]
      exact beq_false_of_ne hother

/-- What has become of such calls when they have come to their ends. -/
theorem Racing.completed (h : v.Racing b info found)
    (hbooks : v.Books writes successful cat saved master) (hbuild : info.build = b)
    (hended : ∀ c ∈ v.calls, c.build = b → c.stage.isEnded = true) : v.Completed b info := by
  have hverdicts : ∀ c ∈ v.calls, c.build = b →
      (∃ found, c.stage = .ended (.scanned info found)) ∨
        c.stage = .ended (.spared info .alreadyScanned) := by
    intro c hc hb
    have hcompleting := h.completing c hc hb
    have hisEnded := hended c hc hb
    generalize c.stage = s at hcompleting hisEnded
    cases hcompleting with
    | scanned x => exact .inl ⟨x, rfl⟩
    | spared => exact .inr rfl
    | called | informed | listing | matching | attaching | logging => cases hisEnded
  refine ⟨hverdicts, ?_, ?_⟩
  · rintro ⟨c, hc, hb⟩
    have hfound : found ≠ none := by
      intro hnone
      have hopen := (h.fresh hnone c hc hb).2
      rw [hended c hc hb] at hopen
      exact absurd hopen nofun
    obtain ⟨d, hd, hdb, hgiven⟩ := h.attached hfound
    refine List.countP_pos_iff.mpr ⟨d, hd, ?_⟩
    rw [beq_iff_eq.mpr hdb, hgiven]
    rfl
  · have hcount : v.inOrder.countP (isOf b) = (v.handed master successful).countP (isOf b) :=
      hbooks.handed_perm.countP_eq _
    rw [hcount, handed, List.countP_filterMap]
    refine List.countP_congr fun c hc => ?_
    rw [record_of_call (hbooks.sound c hc) hbuild (hverdicts c hc)]

/-- Calls for a build that is to be scanned come while nobody rescans it or changes it otherwise,
to a host that keeps statistics. When they have come to their ends each has scanned the build or
has found it scanned, and there is a record for each that has scanned it. At least one has, and
it is the only one exactly if at no time two were between reading that the build was not scanned
and attaching what they found. -/
theorem completions_of_run {settings : ScannerSettings} {kb : KnowledgeBase}
    {sizes : RescanSettings} {before steps : List ServiceStep} (hkb : kb.Reached)
    (hstatistics : kb.keepsStatistics = true)
    (hbefore : (opened (.start settings kb master) sizes).run before = some v)
    (hnew : ∀ c ∈ v.calls, c.build ≠ b) (hinfo : v.host.builds.info b = .ok info)
    (hfound : v.host.builds.found b = .ok none)
    (hunspared : v.host.settings.spared? info none = none)
    (hspares : undisturbed b v steps = true) (hrun : v.run steps = some next)
    (hcome : ∃ c ∈ next.calls, c.build = b)
    (hended : ∀ c ∈ next.calls, c.build = b → c.stage.isEnded = true)
    (htimes : ∀ r ∈ next.handed master kb.keepsSuccessful, kb.backing.Writes r.startTime) :
    next.Completed b info ∧
      (next.tally b Stage.hasGiven = 1 ↔ apart b v steps = true) := by
  obtain ⟨cat, saved, harchives⟩ := hkb.hasArchives
  rw [hstatistics] at harchives
  have hearlier : ∀ r ∈ v.handed master kb.keepsSuccessful, kb.backing.Writes r.startTime :=
    fun r hr => htimes r (handed_of_run hrun hr)
  have hbooks : v.Books kb.backing.Writes kb.keepsSuccessful cat saved master :=
    (books_opened harchives sizes).run hearlier hbefore
  have hbuild : info.build = b := BuildStore.build_of_info hinfo
  have hracing : v.Racing b info none :=
    ⟨hinfo, hfound, hunspared, fun c hc hb => absurd hb (hnew c hc),
      fun _ c hc hb => absurd hb (hnew c hc), fun hne => absurd rfl hne⟩
  have hnone : v.tally b Stage.hasPassed = 0 := by
    refine List.countP_eq_zero.mpr fun c hc => ?_
    rw [beq_false_of_ne (hnew c hc), Bool.false_and]
    exact Bool.false_ne_true
  have hraced := hracing.run hbooks hbuild hspares hrun htimes
  obtain ⟨found, hafter⟩ := hraced.racing
  have hcompleted := hafter.completed (hbooks.run htimes hrun) hbuild hended
  have htally : next.tally b Stage.hasPassed = next.tally b Stage.hasGiven := by
    refine tally_congr fun c hc hb => ?_
    rcases hcompleted.verdicts c hc hb with ⟨x, hstage⟩ | hstage
    · rw [hstage]
      rfl
    · rw [hstage]
      rfl
  have hpositive := hcompleted.scanned hcome
  refine ⟨hcompleted, fun hone => ?_, fun hapart => ?_⟩
  · by_contra hapart
    have htwo := hraced.two_le (Bool.not_eq_true _ ▸ hapart)
    omega
  · have hle := hraced.le_one hapart (by omega)
    omega

/-- A host to which nobody has come yet, with the builds of the sample. -/
def sampleHost : Service :=
  { opened (.start {} sampleBase "ci") {} with
    host := { Triage.start {} sampleBase "ci" with builds := sampleBuilds } }

/-- Two calls for a build, the second of which reads what was found when the first has attached
it. -/
def sampleCompletions : List ServiceStep :=
  [.complete ⟨"p", 1⟩, .complete ⟨"p", 1⟩, .act 0, .act 1, .act 0, .act 0, .act 0, .act 0, .act 1,
    .act 0]

/-- What is known of the build that failed. -/
def sampleInfo : BuildInfo := { BuildInfo.bare ⟨"p", 1⟩ .failure with startTime := 70 }

/-- The first call of the sample scans the build, and the second finds it scanned. -/
theorem completions_of_sampleCompletions :
    sampleBase.Reached ∧ sampleBase.keepsStatistics = true ∧
    ∃ next, sampleHost.run sampleCompletions = some next ∧
      next.Completed ⟨"p", 1⟩ sampleInfo ∧ next.tally ⟨"p", 1⟩ Stage.hasGiven = 1 := by
  have hreached : sampleBase.Reached := .perform (.table true true) _ nofun
  have hstatistics : sampleBase.keepsStatistics = true := by decide +kernel
  have hbefore : (opened (.start {} sampleBase "ci") {}).run [.replace sampleBuilds] =
      some sampleHost := rfl
  have hnew : ∀ c ∈ sampleHost.calls, c.build ≠ ⟨"p", 1⟩ :=
    fun _ hc => absurd hc List.not_mem_nil
  have hunspared : sampleHost.host.settings.spared? sampleInfo none = none := by decide +kernel
  have hspares : undisturbed ⟨"p", 1⟩ sampleHost sampleCompletions = true := by decide +kernel
  have hapart : apart ⟨"p", 1⟩ sampleHost sampleCompletions = true := by decide +kernel
  have hfar : (sampleHost.run sampleCompletions).isSome = true := by decide +kernel
  have hfacts : ∀ next ∈ sampleHost.run sampleCompletions,
      (∃ c ∈ next.calls, c.build = ⟨"p", 1⟩) ∧
      (∀ c ∈ next.calls, c.build = ⟨"p", 1⟩ → c.stage.isEnded = true) ∧
      ∀ r ∈ next.handed "ci" sampleBase.keepsSuccessful, sampleBase.backing.Writes r.startTime := by
    decide +kernel
  obtain ⟨next, hrun⟩ := Option.isSome_iff_exists.mp hfar
  obtain ⟨hcome, hended, htimes⟩ := hfacts next hrun
  obtain ⟨hcompleted, hone⟩ := completions_of_run (b := ⟨"p", 1⟩) hreached hstatistics hbefore hnew
    rfl rfl hunspared hspares hrun hcome hended htimes
  exact ⟨hreached, hstatistics, next, hrun, hcompleted, hone.mpr hapart⟩

/-- Two calls for a build, both of which read that it was not scanned before either attaches what
it finds. -/
def overlappingCompletions : List ServiceStep :=
  [.complete ⟨"p", 1⟩, .complete ⟨"p", 1⟩, .act 0, .act 1, .act 0, .act 1, .act 0, .act 0, .act 0,
    .act 0, .act 1, .act 1, .act 1, .act 1]

/-- Both scan it, and each hands over a record, though nobody rescans it. -/
theorem scanned_twice :
    sampleHost.host.builds.found ⟨"p", 1⟩ = .ok none ∧
    undisturbed ⟨"p", 1⟩ sampleHost overlappingCompletions = true ∧
    ∃ next, sampleHost.run overlappingCompletions = some next ∧
      next.calls.map (fun c => (c.build, c.stage.isEnded, c.stage.hasGiven)) =
        [(⟨"p", 1⟩, true, true), (⟨"p", 1⟩, true, true)] ∧
      next.inOrder.countP (isOf ⟨"p", 1⟩) = 2 := by
  have hspares : undisturbed ⟨"p", 1⟩ sampleHost overlappingCompletions = true := by
    decide +kernel
  have hfar : (sampleHost.run overlappingCompletions).isSome = true := by decide +kernel
  have hfacts : ∀ next ∈ sampleHost.run overlappingCompletions,
      next.calls.map (fun c => (c.build, c.stage.isEnded, c.stage.hasGiven)) =
        [(⟨"p", 1⟩, true, true), (⟨"p", 1⟩, true, true)] ∧
      next.inOrder.countP (isOf ⟨"p", 1⟩) = 2 := by decide +kernel
  obtain ⟨next, hrun⟩ := Option.isSome_iff_exists.mp hfar
  exact ⟨rfl, hspares, next, hrun, hfacts next hrun⟩

end Service

end BuildTriage
