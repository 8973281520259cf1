import BuildTriage.Proofs.Triage.Attached
import Mathlib.Data.List.Basic
import Mathlib.Data.List.Induction

/-!
# Calls for a build, one after the other

A call for a build rescans it or converts it, under the lock of the build. When nobody else asks
for the lock, the call is its course. Where some calls are made one after the other, the
withdrawn ones can be left out, and conversions that follow a rescan change nothing.
-/

namespace BuildTriage

/-- What a call for a build is to do. -/
inductive Errand where
  /-- It rescans the build, unless it finds its request withdrawn when it has the lock. -/
  | rescan (withdrawn : Bool)
  /-- It fills in what old records lack. -/
  | convert
  deriving DecidableEq, Repr

/-- What a call comes to. -/
inductive Upshot where
  /-- What became of the request to rescan the build. -/
  | task (outcome : TaskOutcome)
  /-- So many texts were filled in. -/
  | filled (texts : Nat)
  deriving DecidableEq, Repr

namespace Errand

/-- A call by itself, from taking the lock to leaving. -/
def call (b : BuildRef) : Errand → TriageStep (Option Upshot)
  | .rescan withdrawn => do return (← Triage.rescanTask b withdrawn).map .task
  | .convert => do return (← Triage.convert b).map .filled

/-- The steps of a call while it holds the lock. -/
def course (b : BuildRef) : Errand → Course Upshot
  | .rescan withdrawn => do return .task (← Course.task b withdrawn)
  | .convert => do return .filled (← Course.fillFound b)

/-- One more call, when some have come to their ends. -/
def attend (b : BuildRef) (done : List (Except UnknownBuild (Option Upshot)) × Triage)
    (e : Errand) : List (Except UnknownBuild (Option Upshot)) × Triage :=
  match e.call b done.2 with
  | .ok upshot t => (done.1 ++ [.ok upshot], t)
  | .error x t => (done.1 ++ [.error x], t)

/-- Calls one after the other: what each comes to, and the host after all of them. -/
def inTurn (b : BuildRef) (errands : List Errand) (t : Triage) :
    List (Except UnknownBuild (Option Upshot)) × Triage :=
  errands.foldl (attend b) ([], t)

theorem blind_course (b : BuildRef) (e : Errand) : (e.course b).Blind := by
  cases e with
  | rescan withdrawn =>
    exact (Course.blind_task b withdrawn).bind fun _ => Course.blind_pure _
  | convert => exact (Course.blind_fillFound b).bind fun _ => Course.blind_pure _

end Errand

/-- Nobody has a lock in hand; some numbers have been used. -/
def BuildLocks.idle (used : Nat) : BuildLocks := ⟨[], [], used⟩

/-- What a step leads to when it is done under the lock, which is dropped then. -/
def TriageStep.underLock {α : Type} (used : Nat) :
    EStateM.Result UnknownBuild Triage α → EStateM.Result UnknownBuild Triage (Option α)
  | .ok a t => .ok (some a) (t.withLocks (.idle (used + 1)))
  | .error e t => .error e (t.withLocks (.idle (used + 1)))

/-- A call that finds no locks takes the lock, does its work and drops the lock. -/
theorem Triage.withLock_idle {α : Type} {s : TriageStep α} (hs : TriageStep.Blind s)
    (b : BuildRef) (t : Triage) (used : Nat) :
    withLock b s (t.withLocks (.idle used)) = TriageStep.underLock used (s t) := by
  have hacquire : (BuildLocks.idle used).acquire? b =
      some (used, ⟨[(b, used)], [⟨used, b, used, .holding⟩], used + 1⟩) := by
    simp [BuildLocks.acquire?, BuildLocks.enter, BuildLocks.idle, BuildLocks.lock?,
      BuildLocks.take?, BuildLocks.call?, BuildLocks.isHeld, BuildLocks.move]
  have hdrop : (BuildLocks.drop? ⟨[(b, used)], [⟨used, b, used, .holding⟩], used + 1⟩ used) =
      some (.idle (used + 1)) := by
    simp [BuildLocks.drop?, BuildLocks.release?, BuildLocks.leave?, BuildLocks.idle,
      BuildLocks.lock?, BuildLocks.call?, BuildLocks.move]
  have hstep := hs t ⟨[(b, used)], [⟨used, b, used, .holding⟩], used + 1⟩
  unfold withLock
  rw [withLocks_locks, hacquire]
  change (match s (t.withLocks ⟨[(b, used)], [⟨used, b, used, .holding⟩], used + 1⟩) with
    | .ok a t => _
    | .error e t => _) = _
  rw [hstep]
  cases s t with
  | ok a t =>
    simp only [TriageStep.relock, withLocks_locks, hdrop, Option.getD_some]
    rfl
  | error e t =>
    simp only [TriageStep.relock, withLocks_locks, hdrop, Option.getD_some]
    rfl

/-- What is made of the answer of such a call. -/
theorem Triage.map_withLock_idle {α β : Type} {s : TriageStep α} (hs : TriageStep.Blind s)
    (f : α → β) (b : BuildRef) (t : Triage) (used : Nat) :
    (do return (← withLock b s).map f : TriageStep (Option β)) (t.withLocks (.idle used)) =
      TriageStep.underLock used ((do return f (← s) : TriageStep β) t) := by
  have hlock := withLock_idle hs b t used
  cases hst : s t with
  | ok a t' =>
    rw [hst] at hlock
    rw [bind_ok hlock, bind_ok hst]
    rfl
  | error e t' =>
    rw [hst] at hlock
    rw [bind_error hlock, bind_error hst]
    rfl

namespace Errand

/-- A call by itself is its course under the lock. -/
theorem call_idle (b : BuildRef) (e : Errand) (t : Triage) (used : Nat) :
    e.call b (t.withLocks (.idle used)) = TriageStep.underLock used ((e.course b).run t) := by
  cases e with
  | rescan withdrawn =>
    have hblind := (Course.blind_task b withdrawn).run
    unfold course
    rw [Course.run_bind]
    rw [Course.run_task] at hblind ⊢
    exact Triage.map_withLock_idle hblind Upshot.task b t used
  | convert =>
    have hblind := (Course.blind_fillFound b).run
    unfold course
    rw [Course.run_bind]
    rw [Course.run_fillFound] at hblind ⊢
    exact Triage.map_withLock_idle hblind Upshot.filled b t used

/-- One more call after some calls. -/
def serve (b : BuildRef) (done : List (Except UnknownBuild Upshot) × Triage) (e : Errand) :
    List (Except UnknownBuild Upshot) × Triage :=
  let (upshot, t) := TriageStep.outcome (e.course b).run done.2
  (done.1 ++ [upshot], t)

/-- The courses of calls, one after the other, when nobody has asked for a lock. -/
def courses (b : BuildRef) (errands : List Errand) (t : Triage) :
    List (Except UnknownBuild Upshot) × Triage :=
  errands.foldl (serve b) ([], t.unlocked)

theorem courses_concat (b : BuildRef) (errands : List Errand) (e : Errand) (t : Triage) :
    courses b (errands ++ [e]) t = serve b (courses b errands t) e :=
  List.foldl_concat ..

/-- Calls one after the other come to what their courses come to. -/
theorem inTurn_eq (b : BuildRef) (errands : List Errand) (t : Triage) :
    inTurn b errands t.unlocked = ((courses b errands t).1.map (Except.map some),
      (courses b errands t).2.withLocks (.idle errands.length)) := by
  induction errands using List.reverseRecOn with
  | nil => rfl
  | append_singleton errands e ih =>
    unfold inTurn at ih ⊢
    rw [courses_concat, List.foldl_concat, ih, List.length_append, List.length_singleton]
    unfold attend serve TriageStep.outcome
    dsimp only
    rw [call_idle, List.map_append]
    cases (e.course b).run (courses b errands t).2 <;> rfl

/-- A call that finds its request withdrawn changes nothing. -/
theorem outcome_withdrawn (b : BuildRef) (t : Triage) :
    TriageStep.outcome ((Errand.rescan true).course b).run t =
      (.ok (.task .cancelled), t.unlocked) :=
  rfl

/-- What a rescan comes to. -/
theorem outcome_rescan {b : BuildRef} {t t' : Triage} {found : List FoundCause}
    (h : Triage.rescan b t = .ok found t') :
    TriageStep.outcome ((Errand.rescan false).course b).run t =
      (.ok (.task (.rescanned found.length)), t'.unlocked) := by
  have htask : (Course.task b false).run t = .ok (.rescanned found.length) t' := by
    rw [Course.run_task]
    exact Triage.bind_ok h
  unfold course TriageStep.outcome
  rw [Course.run_bind, Triage.bind_ok htask]
  rfl

/-- What a conversion comes to where every indication has its text. -/
theorem outcome_convert {b : BuildRef} {t : Triage} {found : List FoundCause}
    (h : t.builds.found b = .ok (some found)) (hs : Course.HaveTexts found) :
    TriageStep.outcome (Errand.convert.course b).run t = (.ok (.filled 0), t.unlocked) := by
  have hfill : (Course.fillFound b).run t = .ok 0 t := by
    rw [Course.run_fillFound]
    exact Triage.fillFound_of_haveTexts h hs
  unfold course TriageStep.outcome
  rw [Course.run_bind, Triage.bind_ok hfill]
  rfl

theorem courses_unlocked (b : BuildRef) (errands : List Errand) (t : Triage) :
    (courses b errands t).2.unlocked = (courses b errands t).2 := by
  induction errands using List.reverseRecOn with
  | nil => rfl
  | append_singleton errands e ih =>
    rw [courses_concat]
    unfold serve TriageStep.outcome
    cases (e.course b).run (courses b errands t).2 <;> rfl

/-- Without the calls whose requests are withdrawn the host comes to be the same. -/
theorem courses_filter (b : BuildRef) (errands : List Errand) (t : Triage) :
    (courses b (errands.filter (· ≠ .rescan true)) t).2 = (courses b errands t).2 := by
  induction errands using List.reverseRecOn with
  | nil => rfl
  | append_singleton errands e ih =>
    rw [courses_concat, List.filter_append]
    by_cases he : e = .rescan true
    · rw [he, List.filter_cons_of_neg (by decide), List.filter_nil, List.append_nil, ih]
      unfold serve
      rw [outcome_withdrawn, courses_unlocked]
    · have hkept : [e].filter (· ≠ .rescan true) = [e] := by simp [he]
      rw [hkept, courses_concat]
      unfold serve
      rw [ih]

/-- What a rescan found stays attached through later calls that do not scan the build again. -/
theorem found_courses {b : BuildRef} {past later : List Errand} {t t' : Triage}
    {found : List FoundCause} (h : Triage.rescan b (courses b past t).2 = .ok found t')
    (hlater : ∀ e ∈ later, e ≠ .rescan false) :
    (courses b (past ++ .rescan false :: later) t).2.builds.found b = .ok (some found) := by
  obtain ⟨hfound, htexts⟩ := Triage.found_of_rescan h
  induction later using List.reverseRecOn with
  | nil =>
    rw [courses_concat]
    unfold serve
    rw [outcome_rescan h]
    exact hfound
  | append_singleton later e ih =>
    have hkept := ih fun e he => hlater e (List.mem_append_left _ he)
    have hlast := hlater e (List.mem_append_right _ List.mem_cons_self)
    rw [← List.cons_append, ← List.append_assoc, courses_concat]
    unfold serve
    match e with
    | .rescan true =>
      rw [outcome_withdrawn]
      exact hkept
    | .rescan false => exact absurd rfl hlast
    | .convert =>
      rw [outcome_convert hkept htexts]
      exact hkept

end Errand

end BuildTriage
