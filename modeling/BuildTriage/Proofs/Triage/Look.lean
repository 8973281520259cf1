import BuildTriage.Proofs.Scan.InTime
import BuildTriage.Proofs.Triage.Attached

/-!
# Scans, however logs are read and matched

A scan sets what was found for its build, and changes nothing else of it or of other builds,
whatever it comes to: where the causes or the log cannot be read it finds nothing. That is so
however the log is read and matched, and however long that takes, so it is said of any way to do
it. The way in which a host does it is one of them.
-/

namespace BuildTriage

/-- How a host reads the log of a build and matches it against causes, if it can be read. -/
abbrev Look := Triage → List FailureCause → BuildRef → Option (List FoundCause)

namespace Triage

/-- How a host does it. -/
def ownLook : Look := fun t causes build =>
  match t.builds.log build with
  | .ok log => some (t.settings.reported causes log build)
  | .error _ => none

/-- What is found for a build in some way; nothing if the causes or the log cannot be read. -/
def findCausesBy (look : Look) (build : BuildRef) : TriageStep (List FoundCause) := do
  match ← catalog with
  | none => return []
  | some causes => return (look (← get) causes build).getD []

/-- A scan in some way. -/
def scanBy (look : Look) (info : BuildInfo) : TriageStep (List FoundCause) := do
  let found ← findCausesBy look info.build
  tell (·.attach info.build found)
  record info found
  return found

/-- What becomes of a completed build that is scanned in some way. -/
def completedBy (look : Look) (build : BuildRef) : TriageStep Outcome := do
  let info ← ask (·.info build)
  let found ← ask (·.found build)
  match (← get).settings.spared? info found with
  | some outcome =>
    if outcome = .successful ∧ (← get).kb.keepsSuccessful then record info []
    return outcome
  | none => return .scanned (← scanBy look info)

/-- A rescan in some way. -/
def rescanBy (look : Look) (build : BuildRef) : TriageStep (List FoundCause) := do
  tell (·.forget build)
  let info ← ask (·.info build)
  scanBy look info

theorem findCausesBy_ownLook : findCausesBy ownLook = findCauses := by
  funext build
  refine congrArg (catalog >>= ·) (funext fun causes => ?_)
  cases causes with
  | none => rfl
  | some causes =>
    funext t
    change EStateM.Result.ok ((ownLook t causes build).getD []) t =
      Course.reportedNow causes build t
    rw [Course.reportedNow_eq, ownLook]
    cases t.builds.log build with
    | ok log => rfl
    | error e => rfl

theorem scanBy_ownLook : scanBy ownLook = scan := by
  funext info
  rw [scanBy, findCausesBy_ownLook]
  rfl

/-- What becomes of a completed build is what becomes of it when it is scanned as it is done. -/
theorem completedBy_ownLook : completedBy ownLook = completed := by
  funext build
  unfold completedBy
  rw [scanBy_ownLook]
  rfl

/-- A rescan is one as it is done. -/
theorem rescanBy_ownLook : rescanBy ownLook = rescan := by
  funext build
  unfold rescanBy
  rw [scanBy_ownLook]
  rfl

/-- The host after the causes were listed, whether they can be or not. -/
def listed (t : Triage) : Triage := { t with kb := stateAfter KnowledgeBase.causes t.kb }

/-- What is found for a build now: nothing if the causes cannot be listed or the log cannot be
read. -/
def foundBy (look : Look) (build : BuildRef) (t : Triage) : List FoundCause :=
  match KnowledgeBase.causes t.kb with
  | .ok causes _ => (look t.listed causes build).getD []
  | .error _ _ => []

theorem listed_ok {t : Triage} {causes : List FailureCause} {kb : KnowledgeBase}
    (h : KnowledgeBase.causes t.kb = .ok causes kb) : t.listed = { t with kb := kb } := by
  rw [listed, stateAfter, h]

theorem listed_error {t : Triage} {e : KnowledgeBaseError} {kb : KnowledgeBase}
    (h : KnowledgeBase.causes t.kb = .error e kb) : t.listed = { t with kb := kb } := by
  rw [listed, stateAfter, h]

theorem foundBy_ok {t : Triage} {causes : List FailureCause} {kb : KnowledgeBase}
    (h : KnowledgeBase.causes t.kb = .ok causes kb) (look : Look) (build : BuildRef) :
    foundBy look build t = (look t.listed causes build).getD [] := by
  rw [foundBy, h]

theorem foundBy_error {t : Triage} {e : KnowledgeBaseError} {kb : KnowledgeBase}
    (h : KnowledgeBase.causes t.kb = .error e kb) (look : Look) (build : BuildRef) :
    foundBy look build t = [] := by
  rw [foundBy, h]

theorem findCausesBy_eq (look : Look) (build : BuildRef) (t : Triage) :
    findCausesBy look build t = .ok (foundBy look build t) t.listed := by
  unfold findCausesBy
  cases hcauses : KnowledgeBase.causes t.kb with
  | ok causes kb =>
    rw [bind_ok (catalog_ok hcauses), foundBy_ok hcauses, listed_ok hcauses]
    rfl
  | error e kb =>
    rw [bind_ok (catalog_error hcauses), foundBy_error hcauses, listed_error hcauses]
    rfl

/-- What a scan of a build changes, and what it leaves; `s` is the host whose log it looks at. -/
structure Scans (look : Look) (r : BuildRecord) (found : List FoundCause) (s t t' : Triage) :
    Prop where
  /-- What it answers is what was found for the build. -/
  found_eq : t'.builds.found r.info.build = .ok (some found)
  /-- What was found for other builds stays. -/
  others : ∀ other, other ≠ r.info.build → t'.builds.found other = t.builds.found other
  /-- What is known of the builds stays. -/
  info : ∀ other, t'.builds.info other = t.builds.info other
  /-- The logs stay. -/
  log : ∀ other, t'.builds.log other = t.builds.log other
  /-- A record of it is handed over if statistics are kept. -/
  recorder : t'.recorder =
    if t'.kb.keepsStatistics then t.recorder.take r.info found else t.recorder
  /-- The causes were listed, and nothing else has changed. -/
  rest : t'.kb = t.listed.kb ∧ t'.settings = t.settings ∧ t'.locks = t.locks
  /-- Nothing is found if the causes cannot be listed. -/
  unlisted : ∀ e kb, KnowledgeBase.causes t.kb = .error e kb → found = []
  /-- Nothing is found if the log cannot be read. -/
  unread : ∀ causes kb, KnowledgeBase.causes t.kb = .ok causes kb →
    look s.listed causes r.info.build = none → found = []
  /-- What is found is what the log is matched to. -/
  read : ∀ causes kb, KnowledgeBase.causes t.kb = .ok causes kb →
    ∀ reported, look s.listed causes r.info.build = some reported → found = reported

variable (look : Look) {t : Triage} {b : BuildRef} {r : BuildRecord}

theorem ask_info (h : t.builds.get b = .ok r) : ask (·.info b) t = .ok r.info t := by
  refine ask_ok ?_
  rw [BuildStore.info, h]
  rfl

theorem ask_found (h : t.builds.get b = .ok r) : ask (·.found b) t = .ok r.found t := by
  refine ask_ok ?_
  rw [BuildStore.found, h]
  rfl

/-- A scan of a build that is in the store succeeds. -/
theorem scanBy_ok (h : t.builds.get r.info.build = .ok r) :
    ∃ t', scanBy look r.info t = .ok (foundBy look r.info.build t) t' ∧
      Scans look r (foundBy look r.info.build t) t t t' := by
  have hattach := BuildStore.setFound_ok h (some (foundBy look r.info.build t))
  rw [scanBy, bind_ok (findCausesBy_eq look r.info.build t), bind_ok (tell_ok hattach),
    bind_ok (record_eq r.info _ _)]
  refine ⟨_, rfl, ?_⟩
  exact {
    found_eq := BuildStore.found_setFound hattach
    others := fun other hne => BuildStore.found_setFound_other hattach hne
    info := BuildStore.info_setFound hattach
    log := BuildStore.log_setFound hattach
    recorder := rfl
    rest := ⟨rfl, rfl, rfl⟩
    unlisted := fun e kb herror => foundBy_error herror look r.info.build
    unread := fun causes kb hcauses hlook => by rw [foundBy_ok hcauses, hlook]; rfl
    read := fun causes kb hcauses reported hlook => by rw [foundBy_ok hcauses, hlook]; rfl }

/-- The host when what was found for a build is forgotten. -/
def forgotten (t : Triage) (build : BuildRef) : Triage :=
  { t with builds := (t.builds.forget build).toOption.getD t.builds }

theorem forget_ok (h : t.builds.get b = .ok r) :
    t.builds.forget b = .ok (t.forgotten b).builds := by
  have hforget : t.builds.forget b = .ok _ := BuildStore.setFound_ok h none
  rw [forgotten, hforget]
  rfl

theorem tell_forget (h : t.builds.get b = .ok r) :
    tell (·.forget b) t = .ok () (t.forgotten b) :=
  tell_ok (forget_ok h)

/-- A rescan of a build that is in the store succeeds, and changes what a scan changes. -/
theorem rescanBy_ok (h : t.builds.get b = .ok r) :
    ∃ t', rescanBy look b t = .ok (foundBy look b (t.forgotten b)) t' ∧
      Scans look r (foundBy look b (t.forgotten b)) (t.forgotten b) t t' := by
  have hforget : t.builds.setFound b none = .ok (t.forgotten b).builds := forget_ok h
  have hget : (t.forgotten b).builds.get b = .ok { r with found := none } := by
    rw [BuildStore.get_setFound hforget b, h]
    simp only [Except.map, if_pos (BuildStore.build_of_get h)]
  obtain rfl := BuildStore.build_of_get h
  obtain ⟨t', hscan, hscans⟩ := scanBy_ok look (r := { r with found := none }) hget
  refine ⟨t', ?_, ?_⟩
  · rw [rescanBy, bind_ok (tell_forget h), bind_ok (ask_info hget)]
    exact hscan
  · exact { hscans with
      others := fun other hne =>
        (hscans.others other hne).trans (BuildStore.found_setFound_other hforget hne)
      info := fun other => (hscans.info other).trans (BuildStore.info_setFound hforget other)
      log := fun other => (hscans.log other).trans (BuildStore.log_setFound hforget other) }

end Triage

end BuildTriage
