import BuildTriage.Proofs.KnowledgeBase.Recording
import BuildTriage.Proofs.Triage.Attached

/-!
# How far a call has come

A call looks into a build that has completed, or rescans one. It reads and changes the builds,
the causes and the records in several steps, and other calls may take steps in between. A stage
says what the call knows and what it is about to do. A call that is carried through without a
break comes to what the operation comes to.
-/

namespace BuildTriage

/-- What a call came to. -/
inductive Verdict where
  /-- The build was spared for a reason, after what was known of it. -/
  | spared (info : BuildInfo) (reason : Outcome)
  /-- It was scanned as it was known, and this was found. -/
  | scanned (info : BuildInfo) (found : List FoundCause)
  /-- The request to rescan it was withdrawn. -/
  | withdrawn
  /-- It is not in the store. -/
  | unknown (e : UnknownBuild)
  deriving DecidableEq

namespace Verdict

/-- What was known of the build. -/
def info? : Verdict → Option BuildInfo
  | .spared info _ | .scanned info _ => some info
  | .withdrawn | .unknown _ => none

/-- What was found, if the build was scanned. -/
def found? : Verdict → Option (List FoundCause)
  | .scanned _ found => some found
  | .spared _ _ | .withdrawn | .unknown _ => none

/-- What becomes of a completed build with that verdict. -/
def outcome? : Verdict → Option Outcome
  | .spared _ reason => some reason
  | .scanned _ found => some (.scanned found)
  | .withdrawn | .unknown _ => none

/-- The record that there is to be: of a scan with what was found, and of a successful build
without causes if those are recorded too. -/
def record? (master : String) (successful : Bool) : Verdict → Option Statistics
  | .scanned info found => some (.ofBuild info found master)
  | .spared info reason =>
    if reason = .successful ∧ successful then some (.ofBuild info [] master) else none
  | .withdrawn | .unknown _ => none

end Verdict

/-- How far a call has come. -/
inductive Stage where
  /-- A completed build: what is known of it is read next. -/
  | called
  /-- What was found for it before is read next, and whether to spare it is decided. -/
  | informed (info : BuildInfo)
  /-- A rescan that was asked for: whether its request is withdrawn is read next. -/
  | requested
  /-- A rescan: what was found before is forgotten next. -/
  | forgetting
  /-- A rescan: what is known of the build is read next. -/
  | forgot
  /-- A scan: the causes are listed next. -/
  | listing (info : BuildInfo)
  /-- A scan: the log is read next and matched against the causes. -/
  | matching (info : BuildInfo) (causes : List FailureCause)
  /-- A scan: what was found is attached next. -/
  | attaching (info : BuildInfo) (found : List FoundCause)
  /-- A scan: it is recorded next. -/
  | logging (info : BuildInfo) (found : List FoundCause)
  /-- The call has come to its end. -/
  | ended (verdict : Verdict)
  deriving DecidableEq

namespace Stage

/-- The call has come to its end. -/
def isEnded : Stage → Bool
  | .ended _ => true
  | .called | .informed _ | .requested | .forgetting | .forgot | .listing _ | .matching _ _
  | .attaching _ _ | .logging _ _ => false

/-- What is known of the build. -/
def info? : Stage → Option BuildInfo
  | .informed info | .listing info | .matching info _ | .attaching info _ | .logging info _ =>
    some info
  | .ended verdict => verdict.info?
  | .called | .requested | .forgetting | .forgot => none

/-- What is attached in the next step, and to which build. -/
def gift? : Stage → Option (BuildRef × List FoundCause)
  | .attaching info found => some (info.build, found)
  | .called | .informed _ | .requested | .forgetting | .forgot | .listing _ | .matching _ _
  | .logging _ _ | .ended _ => none

/-- What has been attached. -/
def given? : Stage → Option (List FoundCause)
  | .logging _ found => some found
  | .ended verdict => verdict.found?
  | .called | .informed _ | .requested | .forgetting | .forgot | .listing _ | .matching _ _
  | .attaching _ _ => none

/-- The record that the call has handed over. -/
def record? (master : String) (successful : Bool) : Stage → Option Statistics
  | .ended verdict => verdict.record? master successful
  | .called | .informed _ | .requested | .forgetting | .forgot | .listing _ | .matching _ _
  | .attaching _ _ | .logging _ _ => none

/-- A call that has come to its end has a verdict. -/
theorem exists_of_isEnded {s : Stage} (h : s.isEnded = true) : ∃ verdict, s = .ended verdict := by
  cases s with
  | ended verdict => exact ⟨verdict, rfl⟩
  | called | informed | requested | forgetting | forgot | listing | matching | attaching
  | logging => exact absurd h Bool.false_ne_true

/-- A call that has not come to its end has handed over nothing. -/
theorem record_of_open {s : Stage} (h : s.isEnded = false) (master : String)
    (successful : Bool) : s.record? master successful = none := by
  cases s with
  | ended verdict => exact absurd h.symm Bool.false_ne_true
  | called | informed | requested | forgetting | forgot | listing | matching | attaching
  | logging => rfl

/-- The next step of a call for a build. Without a break between them, the steps are the operation
itself: see `outcome_carry_called` for a build that has completed, and `found_carry_forgetting`
for a rescan. -/
def next (b : BuildRef) (withdrawn : Bool) : Stage → TriageStep Stage
  | .called => do return .informed (← Triage.ask (·.info b))
  | .informed info => do
    let found ← Triage.ask (·.found b)
    match (← get).settings.spared? info found with
    | some reason =>
      if reason = .successful ∧ (← get).kb.keepsSuccessful then Triage.record info []
      return .ended (.spared info reason)
    | none => return .listing info
  | .requested => return if withdrawn then .ended .withdrawn else .forgetting
  | .forgetting => do
    Triage.tell (·.forget b)
    return .forgot
  | .forgot => do return .listing (← Triage.ask (·.info b))
  | .listing info => do
    match ← Triage.catalog with
    | none => return .attaching info []
    | some causes => return .matching info causes
  | .matching info causes => do
    return .attaching info (← Course.reportedNow causes info.build)
  | .attaching info found => do
    Triage.tell (·.attach info.build found)
    return .logging info found
  | .logging info found => do
    Triage.record info found
    return .ended (.scanned info found)
  | .ended verdict => return .ended verdict

section Unbroken

/-- So many steps without a break, of a call whose request is not withdrawn. -/
def carry (b : BuildRef) : Nat → Stage → TriageStep Stage
  | 0, s => return s
  | n + 1, s => do carry b n (← s.next b false)

variable {b : BuildRef}

theorem carry_ended (n : Nat) (verdict : Verdict) :
    carry b n (.ended verdict) = pure (.ended verdict) := by
  induction n with
  | zero => rfl
  | succ n ih => exact (pure_bind _ _).trans ih

theorem carry_attaching (info : BuildInfo) (found : List FoundCause) (n : Nat) :
    carry b (n + 2) (.attaching info found) = (do
      Triage.tell (·.attach info.build found)
      Triage.record info found
      return .ended (.scanned info found)) := by
  simp only [carry, next, bind_assoc, pure_bind, carry_ended]

/-- A scan without a break. -/
theorem carry_listing (info : BuildInfo) :
    carry b 4 (.listing info) =
      (do return .ended (.scanned info (← Triage.scan info)) : TriageStep Stage) := by
  have hfind : Triage.findCauses info.build = (do
      match ← Triage.catalog with
      | none => return []
      | some causes => Course.reportedNow causes info.build) := rfl
  have hstep : carry b 4 (.listing info) = (do carry b 3 (← next b false (.listing info))) := rfl
  rw [hstep, Triage.scan, hfind, next]
  simp only [bind_assoc]
  refine congrArg (Triage.catalog >>= ·) (funext fun causes => ?_)
  cases causes with
  | none => simp only [pure_bind, carry_attaching]
  | some causes =>
    have hmatch : carry b 3 (.matching info causes) = (do
        carry b 2 (.attaching info (← Course.reportedNow causes info.build))) := by
      rw [carry, next]
      simp only [bind_assoc, pure_bind]
    simp only [pure_bind, hmatch, carry_attaching]

/-- What comes of a completed build once it is known. -/
theorem carry_informed (info : BuildInfo) :
    carry b 5 (.informed info) = (do
      let found ← Triage.ask (·.found b)
      match (← get).settings.spared? info found with
      | some reason =>
        if reason = .successful ∧ (← get).kb.keepsSuccessful then Triage.record info []
        return .ended (.spared info reason)
      | none => return .ended (.scanned info (← Triage.scan info)) : TriageStep Stage) := by
  have hstep : carry b 5 (.informed info) = (do carry b 4 (← next b false (.informed info))) := rfl
  rw [hstep, next]
  simp only [bind_assoc]
  refine congrArg (Triage.ask (·.found b) >>= ·) (funext fun found => ?_)
  refine congrArg (get >>= ·) (funext fun t => ?_)
  cases t.settings.spared? info found with
  | some reason =>
    simp only [bind_assoc]
    refine congrArg (get >>= ·) (funext fun u => ?_)
    split
    · simp only [bind_assoc, pure_bind, carry_ended]
    · simp only [pure_bind, carry_ended]
  | none => simp only [pure_bind, carry_listing]

/-- What becomes of a completed build, if the call has come to its end. -/
def outcome? : Stage → Option Outcome
  | .ended verdict => verdict.outcome?
  | _ => none

/-- A call for a completed build that is carried through without a break comes to what becomes
of the build. -/
theorem outcome_carry_called (b : BuildRef) :
    outcome? <$> carry b 6 .called = some <$> Triage.completed b := by
  have hstep : carry b 6 .called = (do carry b 5 (← next b false .called)) := rfl
  rw [hstep, next, Triage.completed]
  simp only [map_eq_pure_bind, bind_assoc, pure_bind, carry_informed]
  refine congrArg (Triage.ask (·.info b) >>= ·) (funext fun info => ?_)
  refine congrArg (Triage.ask (·.found b) >>= ·) (funext fun found => ?_)
  refine congrArg (get >>= ·) (funext fun t => ?_)
  cases t.settings.spared? info found with
  | some reason =>
    simp only [bind_assoc]
    refine congrArg (get >>= ·) (funext fun u => ?_)
    by_cases h : reason = .successful ∧ u.kb.keepsSuccessful = true
    · simp only [if_pos h, bind_assoc, pure_bind]
      rfl
    · simp only [if_neg h, pure_bind]
      rfl
  | none =>
    simp only [bind_assoc, pure_bind]
    rfl

/-- A rescan that is carried through without a break finds what the rescan finds. -/
theorem found_carry_forgetting (b : BuildRef) :
    given? <$> carry b 6 .forgetting = some <$> Triage.rescan b := by
  have hstep : carry b 6 .forgetting = (do carry b 5 (← next b false .forgetting)) := rfl
  have hforgot : carry b 5 .forgot = (do
      let info ← Triage.ask (·.info b)
      return .ended (.scanned info (← Triage.scan info))) := by
    have hnext : carry b 5 .forgot = (do carry b 4 (← next b false .forgot)) := rfl
    rw [hnext, next]
    simp only [bind_assoc, pure_bind, carry_listing]
  rw [hstep, next, Triage.rescan]
  simp only [map_eq_pure_bind, bind_assoc, pure_bind, hforgot]
  rfl

end Unbroken

section Step

variable {b : BuildRef} {withdrawn successful : Bool} {t : Triage} {cat : Catalog}
  {saved : List Statistics} {writes : UInt64 → Prop}

/-- What a step does to a call and to a host on which statistics are kept. -/
structure Steps (b : BuildRef) (successful : Bool) (s : Stage) (t : Triage) (s' : Stage)
    (t' : Triage) : Prop where
  /-- What the call knows, it has known before or has read of its build. -/
  info : ∀ info ∈ s'.info?, info ∈ s.info? ∨ info.build = b
  /-- What is attached in the step has been attached then. -/
  given : s'.given?.toList = s.given?.toList ++ (s.gift?.map (·.2)).toList
  /-- The causes and the records are where they were. -/
  backing : t'.kb.backing = t.kb.backing
  /-- The record that is handed over in the step waits behind the others. -/
  recorder : ∃ handed : Option Statistics,
    t'.recorder = { t.recorder with waiting := t.recorder.waiting ++ handed.toList } ∧
    (s'.record? t.recorder.master successful).toList =
      (s.record? t.recorder.master successful).toList ++ handed.toList

/-- A step in which nothing is attached and nothing is recorded. -/
theorem steps_of_silent {s s' : Stage} {t' : Triage}
    (hinfo : ∀ info ∈ s'.info?, info ∈ s.info? ∨ info.build = b) (hgiven : s'.given? = s.given?)
    (hgift : s.gift? = none) (hbacking : t'.kb.backing = t.kb.backing)
    (hrecorder : t'.recorder = t.recorder)
    (hrecord : s'.record? t.recorder.master successful =
      s.record? t.recorder.master successful) : Steps b successful s t s' t' where
  info := hinfo
  given := by rw [hgiven, hgift]; exact (List.append_nil _).symm
  backing := hbacking
  recorder := by
    refine ⟨none, ?_, ?_⟩
    · rw [hrecorder, Option.toList_none, List.append_nil]
    · rw [hrecord, Option.toList_none, List.append_nil]

/-- A record that is handed over waits behind the others. -/
theorem record_ok (hstatistics : t.kb.keepsStatistics = true)
    (haccepting : t.recorder.accepting = true) (info : BuildInfo) (found : List FoundCause) :
    Triage.record info found t = .ok () { t with recorder := { t.recorder with
      waiting := t.recorder.waiting ++ [.ofBuild info found t.recorder.master] } } := by
  rw [Triage.record_eq, if_pos hstatistics, Recorder.take, if_pos haccepting]

/-- A step leads on, or the build is not in the store. -/
theorem next_cases (h : t.kb.backing.Archives writes true successful saved cat)
    (haccepting : t.recorder.accepting = true) (s : Stage) :
    (∃ s' t', s.next b withdrawn t = .ok s' t' ∧ Steps b successful s t s' t') ∨
    ∃ e, s.next b withdrawn t = .error e t ∧ s.given? = none ∧ s.isEnded = false := by
  have hstatistics : t.kb.keepsStatistics = true := h.keepsStatistics
  have hsuccessful : t.kb.keepsSuccessful = successful := h.keepsSuccessful
  cases s with
  | called =>
    cases hinfo : t.builds.info b with
    | ok info =>
      refine .inl ⟨.informed info, t, Triage.bind_ok (Triage.ask_ok hinfo), ?_⟩
      refine steps_of_silent ?_ rfl rfl rfl rfl rfl
      rintro _ ⟨⟩
      exact .inr (BuildStore.build_of_info hinfo)
    | error e => exact .inr ⟨e, Triage.bind_error (Triage.ask_error hinfo), rfl, rfl⟩
  | informed info =>
    cases hfound : t.builds.found b with
    | error e => exact .inr ⟨e, Triage.bind_error (Triage.ask_error hfound), rfl, rfl⟩
    | ok found =>
      left
      rw [next, Triage.bind_ok (Triage.ask_ok hfound), Triage.get_bind]
      cases t.settings.spared? info found with
      | none => exact ⟨.listing info, t, rfl, steps_of_silent (fun _ => .inl) rfl rfl rfl rfl rfl⟩
      | some reason =>
        simp only [Triage.get_bind]
        by_cases hreason : reason = .successful ∧ t.kb.keepsSuccessful = true
        · rw [if_pos hreason, Triage.bind_ok (record_ok hstatistics haccepting info [])]
          refine ⟨.ended (.spared info reason), _, rfl, fun _ => .inl, rfl, rfl,
            some (.ofBuild info [] t.recorder.master), rfl, ?_⟩
          rw [hsuccessful] at hreason
          simp only [record?, Verdict.record?, if_pos hreason]
          rfl
        · rw [if_neg hreason]
          refine ⟨.ended (.spared info reason), t, rfl,
            steps_of_silent (fun _ => .inl) rfl rfl rfl rfl ?_⟩
          rw [hsuccessful] at hreason
          simp only [record?, Verdict.record?, if_neg hreason]
  | requested =>
    left
    cases withdrawn with
    | true =>
      exact ⟨.ended .withdrawn, t, rfl, steps_of_silent nofun rfl rfl rfl rfl rfl⟩
    | false => exact ⟨.forgetting, t, rfl, steps_of_silent nofun rfl rfl rfl rfl rfl⟩
  | forgetting =>
    cases hforget : t.builds.forget b with
    | ok builds =>
      exact .inl ⟨.forgot, _, Triage.bind_ok (Triage.tell_ok hforget),
        steps_of_silent nofun rfl rfl rfl rfl rfl⟩
    | error e => exact .inr ⟨e, Triage.bind_error (Triage.tell_error hforget), rfl, rfl⟩
  | forgot =>
    cases hinfo : t.builds.info b with
    | ok info =>
      refine .inl ⟨.listing info, t, Triage.bind_ok (Triage.ask_ok hinfo), ?_⟩
      refine steps_of_silent ?_ rfl rfl rfl rfl rfl
      rintro _ ⟨⟩
      exact .inr (BuildStore.build_of_info hinfo)
    | error e => exact .inr ⟨e, Triage.bind_error (Triage.ask_error hinfo), rfl, rfl⟩
  | listing info =>
    obtain ⟨causes, kb, hcauses, hbacking⟩ := KnowledgeBase.exists_causes h.stands
    exact .inl ⟨.matching info causes, _, Triage.bind_ok (Triage.catalog_ok hcauses),
      steps_of_silent (fun _ => .inl) rfl rfl hbacking rfl rfl⟩
  | matching info causes =>
    have hreported : ∃ found, Course.reportedNow causes info.build t = .ok found t := by
      rw [Course.reportedNow_eq]
      split
      · exact ⟨_, rfl⟩
      · exact ⟨_, rfl⟩
    obtain ⟨found, hfound⟩ := hreported
    exact .inl ⟨.attaching info found, t, Triage.bind_ok hfound,
      steps_of_silent (fun _ => .inl) rfl rfl rfl rfl rfl⟩
  | attaching info found =>
    cases hattach : t.builds.attach info.build found with
    | ok builds =>
      exact .inl ⟨.logging info found, _, Triage.bind_ok (Triage.tell_ok hattach), fun _ => .inl,
        rfl, rfl, none, by rw [Option.toList_none, List.append_nil], rfl⟩
    | error e => exact .inr ⟨e, Triage.bind_error (Triage.tell_error hattach), rfl, rfl⟩
  | logging info found =>
    exact .inl ⟨.ended (.scanned info found), _,
      Triage.bind_ok (record_ok hstatistics haccepting info found), fun _ => .inl, rfl, rfl,
      some (.ofBuild info found t.recorder.master), rfl, rfl⟩
  | ended verdict =>
    exact .inl ⟨.ended verdict, t, rfl, steps_of_silent (fun _ => .inl) rfl rfl rfl rfl rfl⟩

end Step

end Stage

end BuildTriage
