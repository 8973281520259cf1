import BuildTriage.Proofs.Triage.Step

/-!
# What a call does, step by step

A rescan and a conversion read and change the builds, the causes and the records in several
steps, and other calls may take steps in between. A course is what a call has still to do.
Carried out without a break, the course of an operation is the operation. No step of a course
looks at the locks or changes them.
-/

namespace BuildTriage

/-- What a call has still to do. -/
inductive Course (α : Type) : Type 1 where
  /-- Nothing: this is its answer. -/
  | done (answer : α)
  /-- Nothing: it has failed. -/
  | failed (e : UnknownBuild)
  /-- A step, and then what the answer of the step leads to. -/
  | step {β : Type} (first : TriageStep β) (rest : β → Course α)

namespace Course

variable {α β : Type}

/-- A course, and then what its answer leads to. -/
def bind : Course α → (α → Course β) → Course β
  | done a, f => f a
  | failed e, _ => failed e
  | step first rest, f => step first fun b => (rest b).bind f

instance : Monad Course where
  pure := done
  bind := bind

/-- The course of a single step. -/
def of (s : TriageStep α) : Course α := step s done

/-- A course carried out without a break. -/
def run : Course α → TriageStep α
  | done a => pure a
  | failed e => throw e
  | step first rest => do (rest (← first)).run

/-- The next step of a course: what is still to do after it, and the host then. -/
def advance : Course α → Triage → Course α × Triage
  | done a, t => (done a, t)
  | failed e, t => (failed e, t)
  | step first rest, t =>
    match first t with
    | .ok b t => (rest b, t)
    | .error e t => (failed e, t)

/-- The answer of a course that has come to its end. -/
def answer? : Course α → Option (Except UnknownBuild α)
  | done a => some (.ok a)
  | failed e => some (.error e)
  | step _ _ => none

/-- No step of a course looks at the locks or changes them. -/
def Blind : Course α → Prop
  | done _ => True
  | failed _ => True
  | step first rest => TriageStep.Blind first ∧ ∀ b, (rest b).Blind

@[simp] theorem run_pure (a : α) : (pure a : Course α).run = pure a := rfl

@[simp] theorem run_of (s : TriageStep α) : (of s).run = s := bind_pure s

@[simp] theorem run_bind (c : Course α) (f : α → Course β) :
    (c >>= f).run = c.run >>= fun a => (f a).run := by
  induction c with
  | done a => exact (pure_bind a fun a => (f a).run).symm
  | failed e => rfl
  | step first rest ih =>
    have hrest : (fun b => (rest b >>= f).run) = fun b => (rest b).run >>= fun a => (f a).run :=
      funext ih
    change (first >>= fun b => (rest b >>= f).run) = _
    rw [hrest]
    exact (bind_assoc first (fun b => (rest b).run) fun a => (f a).run).symm

theorem advance_ok {first : TriageStep β} {rest : β → Course α} {b : β} {t t' : Triage}
    (h : first t = .ok b t') : (step first rest).advance t = (rest b, t') := by
  simp only [advance, h]

theorem advance_error {first : TriageStep β} {rest : β → Course α} {e : UnknownBuild}
    {t t' : Triage} (h : first t = .error e t') :
    (step first rest).advance t = (failed e, t') := by
  simp only [advance, h]

/-- What has begun leads to what it would have led to without a break. -/
theorem run_advance (c : Course α) (t : Triage) :
    (c.advance t).1.run (c.advance t).2 = c.run t := by
  cases c with
  | done a => rfl
  | failed e => rfl
  | step first rest =>
    change _ = EStateM.bind first (fun b => (rest b).run) t
    cases h : first t with
    | ok b t' => rw [advance_ok h, EStateM.bind, h]
    | error e t' =>
      rw [advance_error h, EStateM.bind, h]
      rfl

theorem outcome_advance (c : Course α) (t : Triage) :
    TriageStep.outcome (c.advance t).1.run (c.advance t).2 = TriageStep.outcome c.run t := by
  unfold TriageStep.outcome
  rw [run_advance]

/-- A course that has come to its end changes nothing more. -/
theorem outcome_of_answer {c : Course α} {r : Except UnknownBuild α} (h : c.answer? = some r)
    (t : Triage) : TriageStep.outcome c.run t = (r, t.unlocked) := by
  cases c with
  | done a =>
    rw [← Option.some.inj h]
    rfl
  | failed e =>
    rw [← Option.some.inj h]
    rfl
  | step first rest => exact absurd h nofun

theorem blind_pure (a : α) : (pure a : Course α).Blind := trivial

theorem blind_of {s : TriageStep α} (h : TriageStep.Blind s) : (of s).Blind :=
  ⟨h, fun _ => trivial⟩

theorem Blind.bind {c : Course α} {f : α → Course β} (hc : c.Blind) (hf : ∀ a, (f a).Blind) :
    (c >>= f).Blind := by
  induction c with
  | done a => exact hf a
  | failed e => trivial
  | step first rest ih => exact ⟨hc.1, fun b => ih b (hc.2 b)⟩

theorem Blind.run {c : Course α} (h : c.Blind) : TriageStep.Blind c.run := by
  induction c with
  | done a => exact TriageStep.blind_pure a
  | failed e => exact TriageStep.blind_throw e
  | step first rest ih => exact TriageStep.Blind.bind h.1 fun b => ih b (h.2 b)

/-- The rest of a course does not look at the locks either. -/
theorem Blind.advance {c : Course α} (h : c.Blind) (t : Triage) : (c.advance t).1.Blind := by
  cases c with
  | done a => trivial
  | failed e => trivial
  | step first rest =>
    cases hfirst : first t with
    | ok b t' =>
      rw [advance_ok hfirst]
      exact h.2 b
    | error e t' =>
      rw [advance_error hfirst]
      trivial

/-- A step leaves the locks as they are. -/
theorem Blind.advance_locks {c : Course α} (h : c.Blind) (t : Triage) :
    (c.advance t).2.locks = t.locks := by
  cases c with
  | done a => rfl
  | failed e => rfl
  | step first rest =>
    have hself : first t = TriageStep.relock t.locks (first t) := h.1 t t.locks
    cases hfirst : first t with
    | ok b t' =>
      rw [hfirst] at hself
      rw [advance_ok hfirst]
      exact (congrArg Triage.locks (EStateM.Result.ok.inj hself).2 :)
    | error e t' =>
      rw [hfirst] at hself
      rw [advance_error hfirst]
      exact (congrArg Triage.locks (EStateM.Result.error.inj hself).2 :)

section Operations

/-- The causes that are reported for a log, which is read now; none if it cannot be read. -/
def reportedNow (causes : List FailureCause) (build : BuildRef) :
    TriageStep (List FoundCause) := do
  let t ← get
  match t.builds.log build with
  | .ok log => return t.settings.reported causes log build
  | .error _ => return []

/-- The steps of finding causes: the causes are listed, and then the log is read. -/
def findCauses (build : BuildRef) : Course (List FoundCause) := do
  match ← of Triage.catalog with
  | none => return []
  | some causes => of (reportedNow causes build)

/-- The steps of a scan. -/
def scan (info : BuildInfo) : Course (List FoundCause) := do
  let found ← findCauses info.build
  of (Triage.tell (·.attach info.build found))
  of (Triage.record info found)
  return found

/-- The steps of a rescan. -/
def rescan (build : BuildRef) : Course (List FoundCause) := do
  of (Triage.tell (·.forget build))
  let info ← of (Triage.ask (·.info build))
  scan info

/-- The steps of a rescan on request, once the lock is held. -/
def task (build : BuildRef) (cancelled : Bool) : Course TaskOutcome := do
  if cancelled then return .cancelled
  else return .rescanned (← rescan build).length

/-- The steps of a conversion: the log is read if there is anything to fill in, and the build is
written if anything was filled in. -/
def fillFound (build : BuildRef) : Course Nat := do
  match ← of (Triage.ask (·.found build)) with
  | none => return 0
  | some causes =>
    if causes.any (·.indications.any (·.needsConversion)) then
      let log ← of (Triage.ask (·.log build))
      let (n, filled) := FoundCause.fillAll log causes
      if n = 0 then return 0
      of (Triage.tell (·.attach build filled))
      return n
    else return 0

theorem run_findCauses (build : BuildRef) :
    (findCauses build).run = Triage.findCauses build := by
  unfold findCauses Triage.findCauses
  rw [run_bind, run_of]
  refine congrArg (Triage.catalog >>= ·) (funext fun causes => ?_)
  cases causes with
  | none => rfl
  | some causes => exact run_of _

theorem run_scan (info : BuildInfo) : (scan info).run = Triage.scan info := by
  unfold scan Triage.scan
  simp only [run_bind, run_of, run_findCauses, run_pure]

theorem run_rescan (build : BuildRef) : (rescan build).run = Triage.rescan build := by
  unfold rescan Triage.rescan
  simp only [run_bind, run_of, run_scan]

theorem run_task (build : BuildRef) (cancelled : Bool) :
    (task build cancelled).run = (do
      if cancelled then return .cancelled
      else return .rescanned (← Triage.rescan build).length) := by
  cases cancelled with
  | true => rfl
  | false =>
    unfold task
    rw [if_neg Bool.false_ne_true, run_bind, run_rescan]
    rfl

/-- Every indication of some causes has its text. -/
def HaveTexts (causes : List FoundCause) : Prop :=
  causes.any (·.indications.any (·.needsConversion)) = false

/-- Indications that all have their texts are left alone. -/
theorem fillAll_indications {log : List String} {found : List FoundIndication}
    (h : found.any (·.needsConversion) = false) :
    FoundIndication.fillAll log found = (0, found) := by
  induction found with
  | nil => rfl
  | cons f rest ih =>
    rw [List.any_cons, Bool.or_eq_false_iff] at h
    have hkept : f.fill? log = none := if_neg (Bool.eq_false_iff.mp h.1)
    rw [FoundIndication.fillAll, ih h.2, hkept]

/-- Causes whose indications all have their texts are left alone. -/
theorem fillAll_causes {log : List String} {causes : List FoundCause} (h : HaveTexts causes) :
    FoundCause.fillAll log causes = (0, causes) := by
  induction causes with
  | nil => rfl
  | cons c rest ih =>
    unfold HaveTexts at h ih
    rw [List.any_cons, Bool.or_eq_false_iff] at h
    rw [FoundCause.fillAll, ih h.2, fillAll_indications h.1]

/-- Who knows what was found for a build can read its log. -/
theorem log_of_found {s : BuildStore} {b : BuildRef} {found : Option (List FoundCause)}
    (h : s.found b = .ok found) : ∃ log, s.log b = .ok log := by
  unfold BuildStore.found at h
  unfold BuildStore.log
  cases hget : s.get b with
  | ok r => exact ⟨r.log, rfl⟩
  | error e =>
    rw [hget] at h
    exact absurd h nofun

theorem fillFound_error {s : BuildStore} {b : BuildRef} {e : UnknownBuild}
    (h : s.found b = .error e) : s.fillFound b = .error e := by
  unfold BuildStore.fillFound
  rw [h]
  rfl

/-- Nothing is filled in for a build that was never scanned. -/
theorem fillFound_none {s : BuildStore} {b : BuildRef} (h : s.found b = .ok none) :
    s.fillFound b = .ok (0, s) := by
  unfold BuildStore.fillFound
  rw [h]
  rfl

/-- What was found for a build is filled in from its log. -/
theorem fillFound_some {s : BuildStore} {b : BuildRef} {causes : List FoundCause}
    {log : List String} (hfound : s.found b = .ok (some causes)) (hlog : s.log b = .ok log) :
    s.fillFound b = (do
      let (n, filled) := FoundCause.fillAll log causes
      if n = 0 then return (0, s) else return (n, ← s.attach b filled)) := by
  unfold BuildStore.fillFound
  rw [hfound, hlog]
  rfl

/-- Nothing is filled in where every indication has its text. -/
theorem fillFound_of_haveTexts {s : BuildStore} {b : BuildRef} {causes : List FoundCause}
    (hfound : s.found b = .ok (some causes)) (h : HaveTexts causes) :
    s.fillFound b = .ok (0, s) := by
  obtain ⟨log, hlog⟩ := log_of_found hfound
  rw [fillFound_some hfound hlog, fillAll_causes h]
  rfl

theorem run_fillFound (build : BuildRef) : (fillFound build).run = Triage.fillFound build := by
  funext t
  unfold fillFound
  rw [run_bind, run_of]
  cases hfound : t.builds.found build with
  | error e =>
    rw [Triage.bind_error (Triage.ask_error hfound),
      Triage.fillFound_error (fillFound_error hfound)]
  | ok found =>
    rw [Triage.bind_ok (Triage.ask_ok hfound)]
    cases found with
    | none =>
      rw [Triage.fillFound_ok (fillFound_none hfound)]
      rfl
    | some causes =>
      cases hold : causes.any (·.indications.any (·.needsConversion)) with
      | false =>
        rw [Triage.fillFound_ok (fillFound_of_haveTexts hfound hold)]
        simp only [hold]
        rfl
      | true =>
        obtain ⟨log, hlog⟩ := log_of_found hfound
        have hmodel := fillFound_some hfound hlog
        simp only [hold, if_true, run_bind, run_of]
        rw [Triage.bind_ok (Triage.ask_ok hlog)]
        generalize FoundCause.fillAll log causes = filling at hmodel ⊢
        obtain ⟨n, filled⟩ := filling
        by_cases hn : n = 0
        · simp only [hn, if_true] at hmodel ⊢
          rw [Triage.fillFound_ok hmodel]
          rfl
        · simp only [hn, if_false] at hmodel ⊢
          cases hattach : t.builds.attach build filled with
          | ok builds =>
            rw [hattach] at hmodel
            rw [Triage.fillFound_ok hmodel, run_bind, run_of,
              Triage.bind_ok (Triage.tell_ok hattach)]
            rfl
          | error e =>
            rw [hattach] at hmodel
            rw [Triage.fillFound_error hmodel, run_bind, run_of,
              Triage.bind_error (Triage.tell_error hattach)]

theorem reportedNow_eq (causes : List FailureCause) (build : BuildRef) (t : Triage) :
    reportedNow causes build t = match t.builds.log build with
      | .ok log => .ok (t.settings.reported causes log build) t
      | .error _ => .ok [] t := by
  change (match t.builds.log build with
    | .ok log => _
    | .error _ => _ : TriageStep _) t = _
  cases t.builds.log build <;> rfl

theorem blind_reportedNow (causes : List FailureCause) (build : BuildRef) :
    TriageStep.Blind (reportedNow causes build) := by
  intro t l
  rw [reportedNow_eq, reportedNow_eq, Triage.withLocks_builds]
  cases t.builds.log build <;> rfl

theorem blind_findCauses (build : BuildRef) : (findCauses build).Blind := by
  refine Blind.bind (blind_of TriageStep.blind_catalog) fun causes => ?_
  cases causes with
  | none => exact blind_pure []
  | some causes => exact blind_of (blind_reportedNow causes build)

theorem blind_scan (info : BuildInfo) : (scan info).Blind :=
  (blind_findCauses info.build).bind fun _ =>
    (blind_of (TriageStep.blind_tell _)).bind fun _ =>
      (blind_of (TriageStep.blind_record info _)).bind fun _ => blind_pure _

theorem blind_rescan (build : BuildRef) : (rescan build).Blind :=
  (blind_of (TriageStep.blind_tell _)).bind fun _ =>
    (blind_of (TriageStep.blind_ask _)).bind blind_scan

theorem blind_task (build : BuildRef) (cancelled : Bool) : (task build cancelled).Blind := by
  cases cancelled with
  | true => exact blind_pure _
  | false => exact (blind_rescan build).bind fun _ => blind_pure _

theorem blind_fillFound (build : BuildRef) : (fillFound build).Blind := by
  refine Blind.bind (blind_of (TriageStep.blind_ask _)) fun found => ?_
  cases found with
  | none => exact blind_pure 0
  | some causes =>
    dsimp only
    split
    · refine Blind.bind (blind_of (TriageStep.blind_ask _)) fun log => ?_
      split
      · exact blind_pure 0
      · exact (blind_of (TriageStep.blind_tell _)).bind fun _ => blind_pure _
    · exact blind_pure 0

end Operations

end Course

end BuildTriage
