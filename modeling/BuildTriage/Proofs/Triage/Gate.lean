import BuildTriage.Proofs.Triage.Look
import BuildTriage.Proofs.Triage.Ruling

/-!
# What a call for a completed build changes

A call for a build that is spared hands over a record at most, and only of a successful build. A
scan changes what a scan changes, and the build is spared from then on. Rescans that can list the
same causes, and whose attempts are answered in time, answer the same.
-/

namespace BuildTriage

/-- The causes that a knowledge base lists. -/
def KnowledgeBase.Lists (kb : KnowledgeBase) (causes : List FailureCause) : Prop :=
  ∃ kb', KnowledgeBase.causes kb = .ok causes kb'

/-- Whatever the log of a build is, it is read, and every attempt to match it is answered in
time. -/
def Look.InTime (look : Look) (t : Triage) (causes : List FailureCause) (build : BuildRef) : Prop :=
  ∀ log, t.builds.log build = .ok log →
    ∃ found, look t causes build = some found ∧ t.settings.ReportsInTime causes log build found

namespace Triage

/-- The host after a build was spared: a successful one is recorded without causes, if statistics
are kept of those, too. -/
def spared (t : Triage) (info : BuildInfo) (reason : Outcome) : Triage :=
  { t with recorder :=
      if reason = .successful ∧ t.kb.keepsStatistics = true ∧ t.kb.keepsSuccessful = true then
        t.recorder.take info []
      else t.recorder }

section Known

variable (look : Look) {t : Triage} {b : BuildRef} {r : BuildRecord}

/-- A call for a build that is not in the store fails and changes nothing. -/
theorem completedBy_unknown (h : t.builds.get b = .error ⟨b⟩) :
    completedBy look b t = .error ⟨b⟩ t := by
  have hask : ask (·.info b) t = .error ⟨b⟩ t := by
    refine ask_error ?_
    rw [BuildStore.info, h]
    rfl
  exact bind_error hask

/-- A build that is spared is not scanned. -/
theorem completedBy_spared (h : t.builds.get b = .ok r) {reason : Outcome}
    (hspared : t.settings.spared? r.info r.found = some reason) :
    completedBy look b t = .ok reason (t.spared r.info reason) := by
  unfold completedBy
  rw [bind_ok (ask_info h), bind_ok (ask_found h), get_bind, hspared]
  dsimp only
  rw [get_bind]
  by_cases hrecord : reason = .successful ∧ t.kb.keepsSuccessful = true
  · rw [if_pos hrecord, bind_ok (record_eq r.info [] t)]
    have hspare : t.spared r.info reason = { t with recorder :=
        if t.kb.keepsStatistics then t.recorder.take r.info [] else t.recorder } := by
      unfold spared
      rw [hrecord.1, hrecord.2]
      simp only [true_and, and_true]
    rw [hspare]
    rfl
  · have hnot : ¬ (reason = .successful ∧ t.kb.keepsStatistics = true ∧
        t.kb.keepsSuccessful = true) := fun hall => hrecord ⟨hall.1, hall.2.2⟩
    rw [if_neg hrecord, spared, if_neg hnot]
    rfl

/-- A build that is not spared is scanned. -/
theorem completedBy_scanned (h : t.builds.get b = .ok r)
    (hspared : t.settings.spared? r.info r.found = none) :
    ∃ found t', completedBy look b t = .ok (.scanned found) t' ∧ Scans look r found t t t' := by
  obtain rfl := BuildStore.build_of_get h
  obtain ⟨t', hscan, hscans⟩ := scanBy_ok look h
  refine ⟨_, t', ?_, hscans⟩
  unfold completedBy
  rw [bind_ok (ask_info h), bind_ok (ask_found h), get_bind, hspared]
  dsimp only
  rw [bind_ok hscan]
  rfl

/-- A build that was scanned is spared from then on. -/
theorem completedBy_again (h : t.builds.get b = .ok r)
    (hspared : t.settings.spared? r.info r.found = none) {found : List FoundCause} {s t' u : Triage}
    (hscans : Scans look r found s t t') (hbuilds : u.builds = t'.builds)
    (hsettings : u.settings = t'.settings) (later : Look) :
    completedBy later b u = .ok .alreadyScanned u := by
  obtain rfl := BuildStore.build_of_get h
  have hinfo : ask (·.info r.info.build) u = .ok r.info u := by
    refine ask_ok ?_
    rw [hbuilds, hscans.info, BuildStore.info, h]
    rfl
  have hfound : ask (·.found r.info.build) u = .ok (some found) u := by
    refine ask_ok ?_
    rw [hbuilds, hscans.found_eq]
  have hspare : u.settings.spared? r.info (some found) = some .alreadyScanned := by
    rw [hsettings, hscans.rest.2.1]
    exact ScannerSettings.spared_of_found hspared found
  unfold completedBy
  rw [bind_ok hinfo, bind_ok hfound, get_bind, hspare]
  rfl

/-- What is found for a build whose attempts are answered in time is what is reported in time. -/
theorem foundBy_inTime {look : Look} {causes : List FailureCause} {log : List String}
    (hcauses : t.kb.Lists causes) (hlog : t.builds.log b = .ok log)
    (hlook : look.InTime t.listed causes b) :
    t.settings.ReportsInTime causes log b (foundBy look b t) := by
  obtain ⟨kb, hkb⟩ := hcauses
  obtain ⟨found, hfound, hreports⟩ := hlook log hlog
  rw [foundBy_ok hkb, hfound]
  exact hreports

/-- A second rescan answers the same as the first, if it lists the same causes and the attempts
are answered in time both times. -/
theorem rescanBy_again (h : t.builds.get b = .ok r) {first second : Look}
    {causes : List FailureCause} {found : List FoundCause} {t' u : Triage}
    (hcauses : t.kb.Lists causes) (hfirst : first.InTime (t.forgotten b).listed causes b)
    (hrescan : rescanBy first b t = .ok found t') (hbuilds : u.builds = t'.builds)
    (hsettings : u.settings = t'.settings) (hlater : u.kb.Lists causes)
    (hsecond : second.InTime (u.forgotten b).listed causes b) :
    ∃ u', rescanBy second b u = .ok found u' := by
  obtain rfl := BuildStore.build_of_get h
  obtain ⟨t'', hok, hscans⟩ := rescanBy_ok first h
  obtain ⟨hfound, rfl⟩ := EStateM.Result.ok.inj (hok.symm.trans hrescan)
  have hlog : (t.forgotten r.info.build).builds.log r.info.build = .ok r.log :=
    (BuildStore.log_setFound (forget_ok h) _).trans (BuildStore.log_of_get h)
  have hreports := foundBy_inTime (t := t.forgotten r.info.build) hcauses hlog hfirst
  -- The build is still there, with the same log.
  have hlogs : u.builds.log r.info.build = .ok r.log := by
    rw [hbuilds, hscans.log, BuildStore.log_of_get h]
  obtain ⟨s, hs, -⟩ := BuildStore.exists_get hlogs
  have hlogu : (u.forgotten r.info.build).builds.log r.info.build = .ok r.log :=
    (BuildStore.log_setFound (forget_ok hs) _).trans hlogs
  have hreportsu := foundBy_inTime (t := u.forgotten r.info.build) hlater hlogu hsecond
  have hsame : (u.forgotten r.info.build).settings = (t.forgotten r.info.build).settings :=
    hsettings.trans hscans.rest.2.1
  rw [hsame] at hreportsu
  obtain ⟨u', hsecondok, -⟩ := rescanBy_ok second hs
  rw [hreportsu.unique hreports, hfound] at hsecondok
  exact ⟨u', hsecondok⟩

end Known

/-- A host whose attempts take no time looks in time, if it gives them any. -/
theorem ownLook_inTime {t : Triage} (hline : 0 < t.settings.lineTimeout.toNat)
    (hblock : 0 < t.settings.blockTimeout.toNat) (hfile : 0 < t.settings.fileTimeout.toNat)
    (causes : List FailureCause) (build : BuildRef) : ownLook.InTime t causes build := by
  intro log hlog
  refine ⟨_, ?_, ScannerSettings.reported_inTime hline hblock hfile⟩
  rw [ownLook, hlog]

/-- What an outcome changes. -/
inductive Effect (look : Look) (r : BuildRecord) (t : Triage) : Outcome → Triage → Prop where
  /-- What was found stays as it is for all builds, and a record is handed over of a successful
  build at most. -/
  | spared {reason : Outcome} (hreason : ∀ found, reason ≠ .scanned found) :
    Effect look r t reason (t.spared r.info reason)
  /-- The build was scanned, and it is not scanned again as long as that is kept. -/
  | scanned {found : List FoundCause} {t' : Triage} (hscans : Scans look r found t t t')
    (hagain : ∀ later u, u.builds = t'.builds → u.settings = t'.settings →
      completedBy later r.info.build u = .ok .alreadyScanned u) :
    Effect look r t (.scanned found) t'

/-- What calls for a completed build do, and rescans of it, however its log is read and
matched. -/
structure Gated (b : BuildRef) (t : Triage) : Prop where
  /-- An unknown build is an error. -/
  unknown : b ∉ t.builds.builds → ∀ look, completedBy look b t = .error ⟨b⟩ t
  /-- What becomes of a known build is decided by what is known of it. -/
  decided : b ∈ t.builds.builds → ∀ look, ∃ r outcome t', t.builds.get b = .ok r ∧
    completedBy look b t = .ok outcome t' ∧ Ruling t.settings r outcome ∧
    Effect look r t outcome t'
  /-- A known build is rescanned, whatever is known of it. -/
  rescanned : b ∈ t.builds.builds → ∀ look, ∃ r found t', t.builds.get b = .ok r ∧
    rescanBy look b t = .ok found t' ∧ Scans look r found (t.forgotten b) t t'
  /-- Two rescans in a row answer the same, if they list the same causes and the attempts are
  answered in time. -/
  again : b ∈ t.builds.builds → ∀ (first second : Look) (causes : List FailureCause)
    (found : List FoundCause) (t' u : Triage), t.kb.Lists causes →
    first.InTime (t.forgotten b).listed causes b → rescanBy first b t = .ok found t' →
    u.builds = t'.builds → u.settings = t'.settings → u.kb.Lists causes →
    second.InTime (u.forgotten b).listed causes b → ∃ u', rescanBy second b u = .ok found u'

/-- Calls for completed builds and rescans are gated on every host, as they are done and however
else logs are read and matched. -/
theorem gated_of_reached {t : Triage} (hreached : t.builds.Reached)
    (hlimit : t.settings.maxLogSizeMb.toNat < 2 ^ 44) (b : BuildRef) :
    Gated b t ∧ completedBy ownLook = completed ∧ rescanBy ownLook = rescan := by
  refine ⟨?_, completedBy_ownLook, rescanBy_ownLook⟩
  constructor
  case unknown => exact fun h look => completedBy_unknown look (BuildStore.get_of_notMem h)
  case decided =>
    intro hmem look
    obtain ⟨r, hr⟩ := BuildStore.get_of_mem hmem
    have hsize := hreached.toNat_logSize r (BuildStore.mem_of_get hr)
    cases hspared : t.settings.spared? r.info r.found with
    | some reason =>
      obtain ⟨hruling, hreason⟩ := ruling_of_spared hsize hlimit hspared
      exact ⟨r, reason, _, hr, completedBy_spared look hr hspared, hruling, .spared hreason⟩
    | none =>
      obtain ⟨found, t', hcompleted, hscans⟩ := completedBy_scanned look hr hspared
      have hruling := ruling_of_unspared hsize hlimit hspared found
      refine ⟨r, .scanned found, t', hr, hcompleted, hruling, .scanned hscans ?_⟩
      intro later u hbuilds hsettings
      rw [BuildStore.build_of_get hr]
      exact completedBy_again look hr hspared hscans hbuilds hsettings later
  case rescanned =>
    intro hmem look
    obtain ⟨r, hr⟩ := BuildStore.get_of_mem hmem
    obtain ⟨t', hrescan, hscans⟩ := rescanBy_ok look hr
    exact ⟨r, _, t', hr, hrescan, hscans⟩
  case again =>
    intro hmem first second causes found t' u hcauses hfirst hrescan
    obtain ⟨r, hr⟩ := BuildStore.get_of_mem hmem
    exact rescanBy_again hr hcauses hfirst hrescan

/-- A host with a limit of a megabyte, a build that failed and one that succeeded. -/
def sampleGate : Triage :=
  { start { maxLogSizeMb := 1 } (.ofFile ⟨[], none⟩) "ci" with
    builds := (BuildStore.empty.insert (.bare ⟨"p", 1⟩ .failure) ["x"]).insert
      (.bare ⟨"p", 2⟩ .success) [] }

/-- Calls for the failed build of the sample are gated. It is in the store, its causes can be
listed, and its log is matched in time. -/
theorem gated_of_sampleGate :
    sampleGate.builds.Reached ∧ sampleGate.settings.maxLogSizeMb.toNat < 2 ^ 44 ∧
    (Gated ⟨"p", 1⟩ sampleGate ∧ completedBy ownLook = completed ∧ rescanBy ownLook = rescan) ∧
    ⟨"p", 1⟩ ∈ sampleGate.builds.builds ∧ sampleGate.kb.Lists [] ∧
    ownLook.InTime (sampleGate.forgotten ⟨"p", 1⟩).listed [] ⟨"p", 1⟩ := by
  have hfailed : logBytes ["x"] < 2 ^ 64 := by decide +kernel
  have hempty : logBytes [] < 2 ^ 64 := by decide +kernel
  have hreached : sampleGate.builds.Reached :=
    .insert (.insert .empty _ _ hfailed) _ _ hempty
  have hlimit : sampleGate.settings.maxLogSizeMb.toNat < 2 ^ 44 := by decide +kernel
  have hmem : ⟨"p", 1⟩ ∈ sampleGate.builds.builds := by decide +kernel
  have htime : ownLook.InTime (sampleGate.forgotten ⟨"p", 1⟩).listed [] ⟨"p", 1⟩ := by
    refine ownLook_inTime ?_ ?_ ?_ [] _
    · decide +kernel
    · decide +kernel
    · decide +kernel
  have hgated := gated_of_reached hreached hlimit ⟨"p", 1⟩
  exact ⟨hreached, hlimit, hgated, hmem, ⟨_, rfl⟩, htime⟩

end Triage

end BuildTriage
