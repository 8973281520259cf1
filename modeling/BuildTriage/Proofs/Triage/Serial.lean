import BuildTriage.Proofs.Triage.Errand
import BuildTriage.Proofs.Triage.OneBuild
import Mathlib.Logic.Function.Basic

/-!
# Rescans and conversions of a build take turns

Any number of calls for one build may be under way, and each may take its next step at any
time. What they come to is what they would have come to one after the other, in the order in
which they took the lock: if the call that holds the lock were carried out without a break from
here on, the host would be where the calls that have taken the lock so far bring it in turn.
No step changes this but taking the lock, which puts a call at the end of that order.
-/

namespace BuildTriage

/-- A step of a call for the build. -/
inductive VisitStep where
  /-- A call begins. -/
  | come (errand : Errand)
  /-- A call takes the lock. -/
  | take (id : Nat)
  /-- The call that holds the lock takes the next step of its course. -/
  | act (id : Nat)
  /-- A call that has come to the end of its course releases the lock. -/
  | release (id : Nat)
  /-- A call ends. -/
  | leave (id : Nat)
  deriving DecidableEq, Repr

/-- The calls for one build, on their way. -/
structure Visits : Type 1 where
  /-- The host, with the locks. -/
  host : Triage
  /-- What each call is to do, by its id. -/
  errand : Nat → Errand
  /-- What each call has still to do while it holds the lock, by its id. -/
  course : Nat → Course Upshot
  /-- What the calls are to do that have taken the lock, in the order in which they took it. -/
  order : List Errand
  /-- What the calls came to that have released the lock, in the order in which they did. -/
  upshots : List (Except UnknownBuild Upshot)

namespace Visits

/-- Nobody has called. -/
def start (t : Triage) : Visits where
  host := t.unlocked
  errand _ := .convert
  course _ := .done (.filled 0)
  order := []
  upshots := []

variable (b : BuildRef)

/-- The calls after a step, if it can be taken. -/
def step? (v : Visits) : VisitStep → Option Visits
  | .come e =>
    let (id, locks) := v.host.locks.enter b
    some { v with
      host := v.host.withLocks locks
      errand := Function.update v.errand id e
      course := Function.update v.course id (e.course b) }
  | .take id => (v.host.locks.take? id).map fun locks =>
    { v with host := v.host.withLocks locks, order := v.order ++ [v.errand id] }
  | .act id =>
    if v.host.locks.holder?.any (·.id == id) then
      let (course, host) := (v.course id).advance v.host
      some { v with host := host, course := Function.update v.course id course }
    else none
  | .release id => (v.course id).answer?.bind fun upshot =>
    (v.host.locks.release? id).map fun locks =>
      { v with host := v.host.withLocks locks, upshots := v.upshots ++ [upshot] }
  | .leave id => (v.host.locks.leave? id).map fun locks =>
    { v with host := v.host.withLocks locks }

/-- Some steps, one after the other; one that cannot be taken is left out. -/
def run (v : Visits) (steps : List VisitStep) : Visits :=
  steps.foldl (fun v e => (v.step? b e).getD v) v

/-- What calls have come in the course of some steps. -/
def arrivals (steps : List VisitStep) : List Errand :=
  steps.filterMap fun
    | .come e => some e
    | _ => none

/-- What the calls have come to, and the host but for its locks, if whoever holds the lock is
carried out without a break. -/
def finished (v : Visits) : List (Except UnknownBuild Upshot) × Triage :=
  match v.host.locks.holder? with
  | none => (v.upshots, v.host.unlocked)
  | some c =>
    let (upshot, t) := TriageStep.outcome (v.course c.id).run v.host
    (v.upshots ++ [upshot], t)

/-- What each step keeps, from a host on which some calls have come. -/
structure InTurn (t : Triage) (came : List Errand) (v : Visits) : Prop where
  /-- The locks are in order, and every call is for the build. -/
  locks : v.host.locks.TidyFor b
  /-- A call that waits has its whole course before it. -/
  course_eq : ∀ id ∈ v.host.locks.waiting, v.course id = (v.errand id).course b
  /-- No course looks at the locks. -/
  blind : ∀ id, (v.course id).Blind
  /-- Those that have taken the lock and those that wait for it are those that have come. -/
  came_perm : (v.order ++ v.host.locks.waiting.map v.errand).Perm came
  /-- Carried to its end, what has begun comes to what the calls come to in turn. -/
  finished_eq : v.finished = Errand.courses b v.order t

variable {b} {v : Visits}

theorem finished_of_none (h : v.host.locks.holder? = none) :
    v.finished = (v.upshots, v.host.unlocked) := by
  unfold finished
  rw [h]

theorem finished_of_some {c : LockCall} (h : v.host.locks.holder? = some c) :
    v.finished = (v.upshots ++ [(TriageStep.outcome (v.course c.id).run v.host).1],
      (TriageStep.outcome (v.course c.id).run v.host).2) := by
  unfold finished
  rw [h]

/-- The calls when another one has come. -/
theorem eq_of_come {e : Errand} {next : Visits} (hs : v.step? b (.come e) = some next) :
    next = { v with
      host := v.host.withLocks (v.host.locks.enter b).2
      errand := Function.update v.errand v.host.locks.unused e
      course := Function.update v.course v.host.locks.unused (e.course b) } := by
  rw [← BuildLocks.enter_id v.host.locks b]
  exact (Option.some.inj hs).symm

/-- The calls when the holder has taken a step. -/
theorem exists_of_act {id : Nat} {next : Visits} (hs : v.step? b (.act id) = some next) :
    ∃ c, v.host.locks.holder? = some c ∧ c.id = id ∧ next = { v with
      host := ((v.course id).advance v.host).2
      course := Function.update v.course id ((v.course id).advance v.host).1 } := by
  unfold step? at hs
  dsimp only at hs
  split at hs
  · next hany =>
    obtain ⟨c, hholder, hid⟩ := Option.any_eq_true _ _ |>.mp hany
    exact ⟨c, hholder, beq_iff_eq.mp hid, (Option.some.inj hs).symm⟩
  · exact absurd hs nofun

namespace InTurn

variable {t : Triage} {came : List Errand} (h : v.InTurn b t came)

/-- There is nothing to keep at the beginning. -/
theorem start (b : BuildRef) (t : Triage) : (Visits.start t).InTurn b t [] where
  locks := BuildLocks.TidyFor.empty b
  course_eq _ hid := absurd hid List.not_mem_nil
  blind _ := trivial
  came_perm := List.Perm.refl _
  finished_eq := rfl

include h

variable {next : Visits} {id : Nat}

/-- A call that has come waits, with its whole course before it. -/
theorem come {e : Errand} (hs : v.step? b (.come e) = some next) :
    next.InTurn b t (came ++ [e]) := by
  obtain rfl := eq_of_come hs
  have hne : ∀ {id}, id ∈ v.host.locks.waiting → id ≠ v.host.locks.unused := fun hwaits =>
    Nat.ne_of_lt (h.locks.waiting_lt hwaits)
  refine ⟨h.locks.enter, ?_, fun id => ?_, ?_, ?_⟩
  · rw [Triage.withLocks_locks, BuildLocks.waiting_enter]
    refine List.forall_mem_append.mpr ⟨fun id hwaits => ?_, List.forall_mem_singleton.mpr ?_⟩
    · dsimp only
      rw [Function.update_of_ne (hne hwaits), Function.update_of_ne (hne hwaits)]
      exact h.course_eq id hwaits
    · dsimp only
      rw [Function.update_self, Function.update_self]
  · dsimp only
    by_cases hnew : id = v.host.locks.unused
    · rw [hnew, Function.update_self]
      exact e.blind_course b
    · rw [Function.update_of_ne hnew]
      exact h.blind id
  · have hsame : v.host.locks.waiting.map (Function.update v.errand v.host.locks.unused e) =
        v.host.locks.waiting.map v.errand :=
      List.map_congr_left fun id hwaits => Function.update_of_ne (hne hwaits) _ _
    dsimp only
    rw [Triage.withLocks_locks, BuildLocks.waiting_enter, List.map_append, hsame,
      List.map_singleton, Function.update_self, ← List.append_assoc]
    exact h.came_perm.append_right [e]
  · have hfinished := h.finished_eq
    cases hholder : v.host.locks.holder? with
    | none =>
      rw [finished_of_none hholder] at hfinished
      rw [finished_of_none ((BuildLocks.holder_enter _ b).trans hholder)]
      exact hfinished
    | some c =>
      have hold : c.id ≠ v.host.locks.unused := Nat.ne_of_lt (h.locks.holder_lt hholder)
      rw [finished_of_some hholder] at hfinished
      rw [finished_of_some ((BuildLocks.holder_enter _ b).trans hholder)]
      dsimp only
      rw [Function.update_of_ne hold, (h.blind c.id).run.outcome_withLocks]
      exact hfinished

/-- A call that takes the lock is the next one in turn. -/
theorem take (hs : v.step? b (.take id) = some next) : next.InTurn b t came := by
  obtain ⟨locks, htake, rfl⟩ := Option.map_eq_some_iff.mp hs
  obtain ⟨hlocks, hnone, ⟨c, hholder, rfl⟩, hperm⟩ := h.locks.take htake
  refine ⟨hlocks, fun id hid => ?_, h.blind, ?_, ?_⟩
  · exact h.course_eq id (hperm.symm.subset (List.mem_cons_of_mem _ hid))
  · have hmiddle : (v.order ++ [v.errand c.id] ++ locks.waiting.map v.errand).Perm
        (v.order ++ v.host.locks.waiting.map v.errand) := by
      rw [List.append_assoc]
      exact ((hperm.map v.errand).symm).append_left v.order
    exact hmiddle.trans h.came_perm
  · have hfinished := h.finished_eq
    have hcourse := h.course_eq c.id (hperm.symm.subset List.mem_cons_self)
    rw [finished_of_none hnone] at hfinished
    have hblind := ((v.errand c.id).blind_course b).run
    rw [finished_of_some hholder, Errand.courses_concat, ← hfinished]
    unfold Errand.serve
    dsimp only
    rw [hcourse, hblind.outcome_withLocks, hblind.outcome_unlocked]

/-- The holder goes on as it would have gone on. -/
theorem act (hs : v.step? b (.act id) = some next) : next.InTurn b t came := by
  obtain ⟨c, hholder, rfl, rfl⟩ := exists_of_act hs
  have hlocks := (h.blind c.id).advance_locks v.host
  have hne : ∀ {id}, id ∈ v.host.locks.waiting → id ≠ c.id := by
    rintro id hwaits rfl
    obtain ⟨hc, hholds⟩ := h.locks.holder_eq_some.mp hholder
    exact h.locks.not_mem_waiting hc (by rw [hholds]; exact nofun) hwaits
  refine ⟨?_, fun id => ?_, fun id => ?_, ?_, ?_⟩
  · dsimp only
    rw [hlocks]
    exact h.locks
  · dsimp only
    rw [hlocks]
    intro hwaits
    rw [Function.update_of_ne (hne hwaits)]
    exact h.course_eq id hwaits
  · dsimp only
    by_cases hid : id = c.id
    · rw [hid, Function.update_self]
      exact (h.blind c.id).advance v.host
    · rw [Function.update_of_ne hid]
      exact h.blind id
  · dsimp only
    rw [hlocks]
    exact h.came_perm
  · have hfinished := h.finished_eq
    rw [finished_of_some hholder] at hfinished
    rw [finished_of_some (hlocks.symm ▸ hholder)]
    dsimp only
    rw [Function.update_self, Course.outcome_advance]
    exact hfinished

/-- A call that releases the lock has come to its end. -/
theorem release (hs : v.step? b (.release id) = some next) : next.InTurn b t came := by
  obtain ⟨upshot, hanswer, hs⟩ := Option.bind_eq_some_iff.mp hs
  obtain ⟨locks, hrelease, rfl⟩ := Option.map_eq_some_iff.mp hs
  obtain ⟨hlocks, ⟨c, hholder, rfl⟩, hnone, hwaiting⟩ := h.locks.release hrelease
  refine ⟨hlocks, ?_, h.blind, ?_, ?_⟩
  · dsimp only
    rw [Triage.withLocks_locks, hwaiting]
    exact h.course_eq
  · dsimp only
    rw [Triage.withLocks_locks, hwaiting]
    exact h.came_perm
  · have hfinished := h.finished_eq
    rw [finished_of_some hholder, Course.outcome_of_answer hanswer] at hfinished
    rw [finished_of_none hnone]
    exact hfinished

/-- A call that leaves makes no difference any more. -/
theorem leave (hs : v.step? b (.leave id) = some next) : next.InTurn b t came := by
  obtain ⟨locks, hleave, rfl⟩ := Option.map_eq_some_iff.mp hs
  obtain ⟨hlocks, hholder, hwaiting⟩ := h.locks.leave hleave
  refine ⟨hlocks, ?_, h.blind, ?_, ?_⟩
  · dsimp only
    rw [Triage.withLocks_locks, hwaiting]
    exact h.course_eq
  · dsimp only
    rw [Triage.withLocks_locks, hwaiting]
    exact h.came_perm
  · have hfinished := h.finished_eq
    cases hold : v.host.locks.holder? with
    | none =>
      rw [finished_of_none hold] at hfinished
      rw [finished_of_none (hholder.trans hold)]
      exact hfinished
    | some c =>
      rw [finished_of_some hold] at hfinished
      rw [finished_of_some (hholder.trans hold)]
      dsimp only
      rw [(h.blind c.id).run.outcome_withLocks]
      exact hfinished

/-- Each step keeps what has begun on its way. -/
theorem step (e : VisitStep) :
    ((v.step? b e).getD v).InTurn b t (came ++ arrivals [e]) := by
  have hnone : arrivals [e] = [] → v.InTurn b t (came ++ arrivals [e]) := by
    intro hno
    rw [hno, List.append_nil]
    exact h
  cases hs : v.step? b e with
  | none =>
    cases e with
    | come e => exact absurd hs nofun
    | take | act | release | leave => exact hnone rfl
  | some next =>
    cases e with
    | come e => exact h.come hs
    | take id => exact (List.append_nil came).symm ▸ h.take hs
    | act id => exact (List.append_nil came).symm ▸ h.act hs
    | release id => exact (List.append_nil came).symm ▸ h.release hs
    | leave id => exact (List.append_nil came).symm ▸ h.leave hs

/-- Any steps keep what has begun on its way. -/
theorem run (steps : List VisitStep) : (v.run b steps).InTurn b t (came ++ arrivals steps) := by
  induction steps generalizing v came with
  | nil =>
    rw [arrivals, List.filterMap_nil, List.append_nil]
    exact h
  | cons e rest ih =>
    have hrest := ih (h.step e)
    rw [List.append_assoc] at hrest
    have harrivals : arrivals (e :: rest) = arrivals [e] ++ arrivals rest := by
      rw [arrivals, arrivals, arrivals, ← List.filterMap_append, List.singleton_append]
    rw [harrivals]
    exact hrest

end InTurn

/-- What is true of the calls for a build at every moment, from a host on which some calls have
come. -/
structure Serialised (b : BuildRef) (t : Triage) (came : List Errand) (v : Visits) : Prop where
  /-- While no call holds the lock, the host is but for its locks where the calls that have taken
  the lock bring it one after the other, in the order in which they took it. -/
  host_eq : (∀ c ∈ v.host.locks.calls, c.stage ≠ .holding) →
    v.host.unlocked = (Errand.inTurn b v.order t.unlocked).2.unlocked
  /-- Each of these calls has then come to what it comes to in that order. -/
  upshots_eq : (∀ c ∈ v.host.locks.calls, c.stage ≠ .holding) →
    v.upshots.map (Except.map some) = (Errand.inTurn b v.order t.unlocked).1
  /-- Once all calls have ended, each call that has come has taken the lock once. -/
  order_perm : v.host.locks.calls = [] → v.order.Perm came
  /-- What a rescan found stays attached to the build, whatever conversions follow it. -/
  found_eq : (∀ c ∈ v.host.locks.calls, c.stage ≠ .holding) → ∀ past later found t',
    v.order = past ++ .rescan false :: later → (∀ e ∈ later, e ≠ .rescan false) →
    Triage.rescan b (Errand.inTurn b past t.unlocked).2 = .ok found t' →
    v.host.builds.found b = .ok (some found)
  /-- A call that finds its request withdrawn makes no difference to the host. -/
  withdrawn_eq : (∀ c ∈ v.host.locks.calls, c.stage ≠ .holding) → v.host.unlocked =
    (Errand.inTurn b (v.order.filter (· ≠ .rescan true)) t.unlocked).2.unlocked

/-- Calls that are carried to their ends in turn are serialised. -/
theorem InTurn.serialised {t : Triage} {came : List Errand} (h : v.InTurn b t came) :
    v.Serialised b t came := by
  have hrest : (∀ c ∈ v.host.locks.calls, c.stage ≠ .holding) →
      (v.upshots, v.host.unlocked) = Errand.courses b v.order t := by
    intro hnone
    have hholder : v.host.locks.holder? = none :=
      List.find?_eq_none.mpr fun c hc hstage => hnone c hc (beq_iff_eq.mp hstage)
    rw [← h.finished_eq, finished_of_none hholder]
  have hinTurn := fun errands => Errand.inTurn_eq b errands t
  refine ⟨fun hnone => ?_, fun hnone => ?_, fun hcalls => ?_, fun hnone => ?_, fun hnone => ?_⟩
  · rw [hinTurn, ← hrest hnone]
    rfl
  · rw [hinTurn, ← hrest hnone]
  · have hperm := h.came_perm
    unfold BuildLocks.waiting at hperm
    rw [hcalls, List.filter_nil, List.map_nil, List.map_nil, List.append_nil] at hperm
    exact hperm
  · intro past later found t' horder hlater hrescan
    rw [hinTurn] at hrescan
    have hblind : TriageStep.Blind (Triage.rescan b) := by
      rw [← Course.run_rescan]
      exact (Course.blind_rescan b).run
    obtain ⟨t', hrescan⟩ := hblind.exists_of_withLocks hrescan
    have hfound := Errand.found_courses hrescan hlater
    rw [← horder, ← hrest hnone] at hfound
    exact hfound
  · rw [hinTurn]
    dsimp only
    rw [Errand.courses_filter, ← hrest hnone]
    rfl

/-- Whatever calls for a build come to a host, and in whatever order they take their steps, they
come to what they come to one after the other, in the order in which they take the lock. -/
theorem serialised_of_run (b : BuildRef) (t : Triage) (steps : List VisitStep) :
    ((start t).run b steps).Serialised b t (arrivals steps) :=
  ((InTurn.start b t).run steps).serialised

/-- A conversion has read an old record when a rescan comes. The rescan waits until the conversion
has ended, and then forgets what it wrote. -/
example :
    let b : BuildRef := ⟨"p", 1⟩
    let old : FoundCause := ⟨"c", "", "", [], [.lineOnly "x" "log" 1]⟩
    let t : Triage := { Triage.start {} (.ofFile .inMemory) "" with
      builds := ⟨[⟨.bare b .failure, ["x"], some [old]⟩]⟩ }
    let v := (start t).run b [.come .convert, .take 0, .act 0, .come (.rescan false), .take 1,
      .act 1, .act 0, .act 0, .release 0, .take 1, .act 1, .leave 0, .act 1, .act 1, .act 1,
      .act 1, .act 1, .release 1]
    v.order = [.convert, .rescan false] ∧
    v.upshots = [.ok (.filled 1), .ok (.task (.rescanned 0))] ∧
    v.host.builds.found b = .ok (some []) := by
  decide +kernel

end Visits

end BuildTriage
