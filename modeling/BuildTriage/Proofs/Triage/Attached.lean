import BuildTriage.Proofs.Triage.Course
import BuildTriage.Proofs.Triage.Frame

/-!
# What a rescan attaches

A rescan that succeeds leaves exactly what it answers attached to its build. Each indication in
it has its text, so there is nothing that a conversion could fill in afterwards.
-/

namespace BuildTriage

open Scan

/-- What a scan reports has its text. -/
theorem Scan.Scanner.found_hasText {s : Scanner} {i : Indication} {lines : List String}
    {file : String} {f : FoundIndication} (h : (s.scan i lines file).found = some f) :
    f.needsConversion = false := by
  unfold Scanner.scan Scanner.run at h
  cases hmode : i.mode with
  | singleLine =>
    rw [hmode] at h
    obtain ⟨hit, -, rfl⟩ := Option.map_eq_some_iff.mp h
    rfl
  | multiLine =>
    rw [hmode] at h
    obtain ⟨hit, -, rfl⟩ := Option.map_eq_some_iff.mp h
    rfl

/-- What is reported for a log has its texts. -/
theorem ScannerSettings.reported_haveTexts (s : ScannerSettings) (causes : List FailureCause)
    (log : List String) (build : BuildRef) : Course.HaveTexts (s.reported causes log build) := by
  unfold Course.HaveTexts
  rw [List.any_eq_false]
  intro c hc
  have hmatched : c ∈ matchCauses (.ofSettings s) causes log logName (some build) := by
    unfold reported dropFallbacks at hc
    split at hc
    · exact hc
    · exact (List.mem_filter.mp hc).1
  obtain ⟨cause, -, hcause⟩ := List.mem_filterMap.mp hmatched
  dsimp only at hcause
  split at hcause
  · exact absurd hcause nofun
  · rw [← Option.some.inj hcause, Bool.not_eq_true, List.any_eq_false]
    intro f hf
    obtain ⟨i, -, hi⟩ := List.mem_filterMap.mp hf
    obtain ⟨g, hg, rfl⟩ := Option.map_eq_some_iff.mp hi
    have htext : g.needsConversion = false := Scanner.found_hasText hg
    rw [Bool.not_eq_true]
    exact htext

/-- A build that is scanned if it was not is spared if it was. -/
theorem ScannerSettings.spared_of_found {settings : ScannerSettings} {info : BuildInfo}
    {found : Option (List FoundCause)} (h : settings.spared? info found = none)
    (x : List FoundCause) : settings.spared? info (some x) = some .alreadyScanned := by
  unfold spared? at h ⊢
  split at h
  · exact absurd h nofun
  · next hresult =>
    rw [if_neg hresult]
    split at h
    · exact absurd h nofun
    · next hfilter =>
      rw [if_neg hfilter]
      rfl

namespace Triage

/-- What is found for a build has its texts. -/
theorem findCauses_haveTexts {build : BuildRef} {t t' : Triage} {found : List FoundCause}
    (h : findCauses build t = .ok found t') : Course.HaveTexts found := by
  obtain ⟨causes, mid, -, hrest⟩ := exists_of_bind_ok h
  cases causes with
  | none =>
    rw [← (EStateM.Result.ok.inj hrest).1]
    rfl
  | some causes =>
    have hread := (Course.reportedNow_eq causes build mid).symm.trans hrest
    split at hread
    · next log hlog =>
      rw [← (EStateM.Result.ok.inj hread).1]
      exact mid.settings.reported_haveTexts causes log build
    · rw [← (EStateM.Result.ok.inj hread).1]
      rfl

/-- Handing over a record does not change the builds. -/
theorem builds_of_record {info : BuildInfo} {causes : List FoundCause} {t t' : Triage} {u : Unit}
    (h : record info causes t = .ok u t') : t'.builds = t.builds := by
  rw [record_eq] at h
  rw [← (EStateM.Result.ok.inj h).2]

/-- What a scan answers is attached to its build, and has its texts. -/
theorem found_of_scan {info : BuildInfo} {t t' : Triage} {found : List FoundCause}
    (h : scan info t = .ok found t') :
    t'.builds.found info.build = .ok (some found) ∧ Course.HaveTexts found := by
  obtain ⟨causes, mid, hfind, hrest⟩ := exists_of_bind_ok h
  obtain ⟨_, mid', htell, hrest⟩ := exists_of_bind_ok hrest
  obtain ⟨_, mid'', hrecord, hlast⟩ := exists_of_bind_ok hrest
  obtain ⟨rfl, rfl⟩ := EStateM.Result.ok.inj hlast
  obtain ⟨builds, hattach, rfl⟩ := exists_of_tell_ok htell
  rw [builds_of_record hrecord]
  exact ⟨BuildStore.found_of_attach hattach, findCauses_haveTexts hfind⟩

/-- What a rescan answers is attached to its build, and has its texts. -/
theorem found_of_rescan {build : BuildRef} {t t' : Triage} {found : List FoundCause}
    (h : rescan build t = .ok found t') :
    t'.builds.found build = .ok (some found) ∧ Course.HaveTexts found := by
  obtain ⟨_, mid, -, hrest⟩ := exists_of_bind_ok h
  obtain ⟨info, mid', hinfo, hscan⟩ := exists_of_bind_ok hrest
  have hbuild := BuildStore.build_of_info (exists_of_ask_ok hinfo).1
  rw [← hbuild]
  exact found_of_scan hscan

/-- Where every indication has its text a conversion changes nothing. -/
theorem fillFound_of_haveTexts {build : BuildRef} {t : Triage} {found : List FoundCause}
    (h : t.builds.found build = .ok (some found)) (hs : Course.HaveTexts found) :
    fillFound build t = .ok 0 t :=
  fillFound_ok (Course.fillFound_of_haveTexts h hs)

end Triage

end BuildTriage
