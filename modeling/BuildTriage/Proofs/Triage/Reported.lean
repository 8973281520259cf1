import BuildTriage.Proofs.Scan.Causes
import BuildTriage.Proofs.Triage.Attached

/-!
# What a scan reports for a build

When the causes can be listed and the log can be read, a scan attaches to the build what is to be
reported of the causes, and answers the same.
-/

namespace BuildTriage

open Scan

/-- What is reported for a build, of a catalog and a log. -/
structure Reports (fallbacks : List String) (causes : List FailureCause) (log : List String)
    (build : BuildRef) (found : List FoundCause) : Prop where
  /-- The causes that are to be reported, in their order. -/
  snapshots : List.Forall₂ (Snapshots build log) (reportable fallbacks causes log) found
  /-- They stand in the order of the catalog. -/
  sublist : (reportable fallbacks causes log).Sublist causes
  /-- They are live. -/
  live : ∀ c ∈ reportable fallbacks causes log, c.isRemoved = false
  /-- There are none exactly if no live cause occurs. -/
  empty : found = [] ↔ ∀ c ∈ causes, c.occurs log = false

/-- Some of the causes that occur are to be reported. -/
theorem occurs_of_reportable {fallbacks : List String} {causes : List FailureCause}
    {log : List String} {c : FailureCause} (h : c ∈ reportable fallbacks causes log) :
    c.occurs log = true := by
  unfold reportable at h
  split at h
  · have hboth := (List.mem_filter.mp h).2
    rw [Bool.and_eq_true] at hboth
    exact hboth.1
  · exact (List.mem_filter.mp h).2

/-- What is reported for a log whose lines are all matched in time. -/
theorem ScannerSettings.reports {settings : ScannerSettings} {causes : List FailureCause}
    {log : List String} {build : BuildRef}
    (hmode : ∀ c ∈ causes, c.isRemoved = false → ∀ i ∈ c.indications, i.mode = .singleLine)
    (hanswered : (Scanner.ofSettings settings).AnswersLines log) :
    Reports settings.fallbackCategories causes log build (settings.reported causes log build) := by
  have hsnapshots : List.Forall₂ (Snapshots build log)
      (reportable settings.fallbackCategories causes log) (settings.reported causes log build) :=
    dropFallbacks_snapshots (Scanner.matchCauses_snapshots hanswered hmode)
  refine ⟨hsnapshots, ?_, fun c hc => ?_, ?_⟩
  · unfold reportable
    split
    · exact List.filter_sublist
    · exact List.filter_sublist
  · have hoccurs := occurs_of_reportable hc
    rw [FailureCause.occurs, Bool.and_eq_true, Bool.not_eq_true'] at hoccurs
    exact hoccurs.1
  · rw [← List.length_eq_zero_iff, ← hsnapshots.length_eq, List.length_eq_zero_iff]
    exact reportable_eq_nil_iff

namespace Triage

/-- A scan whose causes can be listed and whose log can be read attaches what is reported now. -/
theorem scan_ok {t : Triage} {info : BuildInfo} {causes : List FailureCause} {kb : KnowledgeBase}
    {log : List String} (hcauses : KnowledgeBase.causes t.kb = .ok causes kb)
    (hlog : t.builds.log info.build = .ok log) :
    ∃ t', scan info t = .ok (t.settings.reported causes log info.build) t' := by
  obtain ⟨r, hr, -⟩ := BuildStore.exists_get hlog
  have hfind : findCauses info.build t =
      .ok (t.settings.reported causes log info.build) { t with kb := kb } := by
    have hread : Course.reportedNow causes info.build { t with kb := kb } =
        .ok (t.settings.reported causes log info.build) { t with kb := kb } := by
      rw [Course.reportedNow_eq, hlog]
    rw [findCauses, bind_ok (catalog_ok hcauses)]
    exact hread
  have hattach := BuildStore.setFound_ok hr (some (t.settings.reported causes log info.build))
  rw [scan, bind_ok hfind, bind_ok (tell_ok hattach)]
  exact ⟨_, rfl⟩

/-- What a scan whose attempts are answered in time attaches to the build and answers is what is
to be reported of the causes for the log, and causes are matched one by one. -/
theorem scan_reports {t : Triage} {info : BuildInfo} {causes : List FailureCause}
    {kb : KnowledgeBase} {log : List String}
    (hcauses : KnowledgeBase.causes t.kb = .ok causes kb)
    (hlog : t.builds.log info.build = .ok log)
    (hmode : ∀ c ∈ causes, c.isRemoved = false → ∀ i ∈ c.indications, i.mode = .singleLine)
    (hanswered : (Scanner.ofSettings t.settings).AnswersLines log) :
    (∃ found t', scan info t = .ok found t' ∧
      t'.builds.found info.build = .ok (some found) ∧
      Reports t.settings.fallbackCategories causes log info.build found) ∧
    ∀ front back, matchCauses (.ofSettings t.settings) (front ++ back) log logName
        (some info.build) =
      matchCauses (.ofSettings t.settings) front log logName (some info.build) ++
        matchCauses (.ofSettings t.settings) back log logName (some info.build) := by
  obtain ⟨t', hscan⟩ := scan_ok hcauses hlog
  constructor
  · exact ⟨_, t', hscan, (found_of_scan hscan).1, ScannerSettings.reports hmode hanswered⟩
  · exact fun front back => Scanner.matchCauses_append _ front back log logName _

/-- A cause of a fallback category, one that was removed, and another. -/
def sampleCauses : List FailureCause :=
  let x := (Indication.ofPattern "x+" .singleLine).toOption.toList
  let y := (Indication.ofPattern "y" .singleLine).toOption.toList
  [⟨"a", "Anything", "", "", ["generic"], x, none, [], none⟩,
    ⟨"b", "Removed", "", "", [], x, none, [], some ⟨"u", 1⟩⟩,
    ⟨"c", "Specific", "", "", [], y ++ x, none, [], none⟩]

/-- A failed build in whose log the second line matches all causes, on a host with a fallback
category. -/
def sampleScan : Triage :=
  { start { fallbackCategories := ["generic"] } (.ofFile ⟨sampleCauses, none⟩) "ci" with
    builds := ⟨[⟨.bare ⟨"p", 1⟩ .failure, ["z", "xx", "x"], none⟩]⟩ }

/-- Of the sample only the specific cause is reported. -/
theorem scan_reports_sample :
    (∃ found t', scan (.bare ⟨"p", 1⟩ .failure) sampleScan = .ok found t' ∧
      t'.builds.found ⟨"p", 1⟩ = .ok (some found) ∧
      Reports ["generic"] (liveCauses sampleCauses) ["z", "xx", "x"] ⟨"p", 1⟩ found) ∧
    (reportable ["generic"] (liveCauses sampleCauses) ["z", "xx", "x"]).map (·.id) = ["c"] := by
  have hmode : ∀ c ∈ liveCauses sampleCauses, c.isRemoved = false →
      ∀ i ∈ c.indications, i.mode = .singleLine := by decide +kernel
  have hanswered : (Scanner.ofSettings sampleScan.settings).AnswersLines ["z", "xx", "x"] := by
    unfold Scanner.AnswersLines
    decide +kernel
  have hcauses : KnowledgeBase.causes sampleScan.kb =
      .ok (liveCauses sampleCauses) sampleScan.kb := rfl
  have hlog : sampleScan.builds.log (BuildInfo.bare ⟨"p", 1⟩ .failure).build =
      .ok ["z", "xx", "x"] := by decide +kernel
  have hids : (reportable ["generic"] (liveCauses sampleCauses) ["z", "xx", "x"]).map (·.id) =
      ["c"] := by decide +kernel
  have hreports := scan_reports hcauses hlog hmode hanswered
  exact ⟨hreports.1, hids⟩

end Triage

end BuildTriage
