import BuildTriage.Migration.Basic
import Mathlib.Logic.Function.Basic

/-!
# Requests for conversions, step by step

Requests for conversions, the signal that the builds are loaded and the jobs themselves take
their steps at the same time. A call that schedules a build marks it first and hands the job to
the pool in a step of its own, and the call that fires the signal does so with one build after
the other. A release that has marked a build for which there is no delay breaks off there, and
never returns. When a call takes its steps without a break it does what the operation does
(`Requests.run_convert`, `Requests.run_defer` and `Requests.run_load`).
-/

namespace BuildTriage

/-- What a call that schedules builds is for. -/
inductive MigrationCall where
  /-- The conversion of a build, which may be deferred. -/
  | deferred (build : BuildRef)
  /-- The conversion of a build. -/
  | direct (build : BuildRef)
  /-- The release of the builds that were held back. -/
  | release
  deriving DecidableEq, Repr

/-- The build that a call asks for. -/
def MigrationCall.build? : MigrationCall → Option BuildRef
  | .deferred build => some build
  | .direct build => some build
  | .release => none

/-- Whether a call asks for a conversion that may not be deferred. -/
def MigrationCall.isDirect : MigrationCall → Bool
  | .direct _ => true
  | _ => false

/-- How far a call has come. -/
inductive MigrationStage where
  /-- It has not begun, or has returned. -/
  | idle
  /-- It is about to mark the next build in line, each with how many were before it. -/
  | marking (call : MigrationCall) (line : List (BuildRef × Nat))
  /-- It has marked a build and is about to hand over its job; others are in line. -/
  | scheduling (call : MigrationCall) (build : BuildRef) (before : Nat)
    (line : List (BuildRef × Nat))
  /-- It has marked a build for which there is no delay, and has broken off; others were in
  line. -/
  | broken (call : MigrationCall) (build : BuildRef) (line : List (BuildRef × Nat))
  /-- It waits for the signal. -/
  | awaiting
  /-- It has seen the signal, and waits until no job is pending. -/
  | watching
  deriving DecidableEq, Repr

namespace MigrationStage

/-- What a call that schedules builds is for. -/
def call? : MigrationStage → Option MigrationCall
  | .marking call _ => some call
  | .scheduling call _ _ _ => some call
  | .broken call _ _ => some call
  | _ => none

/-- The build that a call asks for. -/
def aim? (s : MigrationStage) : Option BuildRef := s.call?.bind (·.build?)

/-- The builds that a call has not marked. -/
def line : MigrationStage → List BuildRef
  | .marking _ line => line.map (·.1)
  | .scheduling _ _ _ line => line.map (·.1)
  | .broken _ _ line => line.map (·.1)
  | _ => []

/-- The build that a call has marked and whose job it has not handed over. -/
def marked? : MigrationStage → Option BuildRef
  | .scheduling _ build _ _ => some build
  | .broken _ build _ => some build
  | _ => none

/-- The builds that a release has not marked. -/
def walk? : MigrationStage → Option (List BuildRef)
  | .marking .release line => some (line.map (·.1))
  | .scheduling .release _ _ line => some (line.map (·.1))
  | .broken .release _ line => some (line.map (·.1))
  | _ => none

/-- Whether a call has broken off. -/
def isBroken : MigrationStage → Bool
  | .broken _ _ _ => true
  | _ => false

variable (call : MigrationCall) (build : BuildRef) (before : Nat) (line : List (BuildRef × Nat))

theorem walk_marking :
    (marking call line).walk? = if call = .release then some (line.map (·.1)) else none := by
  cases call <;> rfl

theorem walk_scheduling :
    (scheduling call build before line).walk? = (marking call line).walk? := by
  cases call <;> rfl

theorem walk_broken : (broken call build line).walk? = (marking call line).walk? := by
  cases call <;> rfl

/-- A call that is no release marks and hands over only the build that it asks for. -/
def Own (s : MigrationStage) : Prop :=
  ∀ b, s.marked? = some b ∨ b ∈ s.line → s.call? = some .release ∨ s.aim? = some b

/-- A call that goes on with builds that it has had in hand before. -/
theorem Own.of_subset {s s' : MigrationStage} (h : s.Own) (hcall : s'.call? = s.call?)
    (hsub : ∀ b, s'.marked? = some b ∨ b ∈ s'.line → s.marked? = some b ∨ b ∈ s.line) :
    s'.Own := by
  intro b hb
  rw [aim?, hcall]
  exact h b (hsub b hb)

/-- A call that schedules nothing has no builds in hand. -/
theorem own_of_quiet {s : MigrationStage} (h : s.call? = none) : s.Own := by
  intro b hb
  cases s with
  | marking | scheduling | broken => exact (Option.some_ne_none _ h).elim
  | idle | awaiting | watching =>
    rcases hb with hmarked | hline
    · exact (Option.some_ne_none _ hmarked.symm).elim
    · exact absurd hline List.not_mem_nil

end MigrationStage

/-- The first build in line has no extra delay. -/
theorem MigrationSettings.offset_zero (s : MigrationSettings) : s.offset 0 = 0 := by
  rw [offset, Nat.zero_min, Nat.mul_zero, Nat.zero_min]

/-- How a job ends. -/
inductive JobEnd where
  /-- It has run, and so many texts were filled in. -/
  | ran (texts : Nat)
  /-- It has panicked. -/
  | panicked
  /-- It was discarded. -/
  | discarded
  deriving DecidableEq, Repr

/-- How many builds a job has changed. -/
def JobEnd.changed : JobEnd → Nat
  | .ran texts => min texts 1
  | .panicked => 0
  | .discarded => 0

/-- A job is pending no more, however it has ended. -/
def Migration.endJob (m : Migration) (job : Job) (how : JobEnd) : Migration :=
  { m with pool := m.pool.finish job, converted := m.converted + how.changed }

/-- Who holds a build back has not seen the signal, and holds it back once. -/
theorem Migration.eq_of_hold {m next : Migration} {build : BuildRef}
    (h : m.hold? build = some next) : m.loaded = false ∧
      next = { m with held := if build ∈ m.held then m.held else m.held ++ [build] } := by
  unfold hold? at h
  split at h
  · exact absurd h nofun
  · next hl =>
    refine ⟨Bool.not_eq_true _ ▸ hl, ?_⟩
    split at h
    · next hin =>
      rw [if_pos (List.contains_iff_mem.mp hin)]
      exact (Option.some.inj h).symm
    · next hout =>
      rw [if_neg fun hin => hout (List.contains_iff_mem.mpr hin)]
      exact (Option.some.inj h).symm

theorem Migration.loaded_of_hold {m : Migration} {build : BuildRef} (h : m.hold? build = none) :
    m.loaded = true := by
  unfold hold? at h
  split at h
  · next hl => exact hl
  · split at h <;> exact absurd h nofun

/-- Who marks a build finds it unmarked. -/
theorem Migration.eq_of_mark {m next : Migration} {build : BuildRef}
    (h : m.mark? build = some next) :
    build ∉ m.seen ∧ next = { m with seen := m.seen ++ [build] } := by
  unfold mark? at h
  split at h
  · exact absurd h nofun
  · next hout =>
    exact ⟨fun hin => hout (List.contains_iff_mem.mpr hin), (Option.some.inj h).symm⟩

theorem Migration.mem_of_mark {m : Migration} {build : BuildRef} (h : m.mark? build = none) :
    build ∈ m.seen := by
  unfold mark? at h
  split at h
  · next hin => exact List.contains_iff_mem.mp hin
  · exact absurd h nofun

/-- The release of a build that is marked does nothing. -/
theorem Migration.release_of_seen {m : Migration} {build : BuildRef} {before : Nat}
    (h : m.mark? build = none) : m.release build before = (true, m) := by
  rw [release, convertAfter, h]
  rfl

/-- The release of another build marks it, and schedules it if there is a delay for it. -/
theorem Migration.release_of_mark {m next : Migration} {build : BuildRef} {before : Nat}
    (h : m.mark? build = some next) : m.release build before =
      if next.settings.fits (next.settings.offset before) then
        (true, next.schedule (next.settings.offset before) build)
      else (false, next) := by
  have hsettings : next.settings = m.settings := by
    rw [(eq_of_mark h).2]
  rw [release, convertAfter, h, hsettings]
  dsimp only
  rw [hsettings]
  by_cases hfits : m.settings.fits (m.settings.offset before)
  · rw [if_pos hfits, if_pos hfits]
    rfl
  · rw [if_neg hfits, if_neg hfits]
    rfl

/-- A step of a call, or the end of a job. -/
inductive MigrationStep where
  /-- A call asks for the conversion of a build, which may be deferred. -/
  | defer (id : Nat) (build : BuildRef)
  /-- A call asks for the conversion of a build. -/
  | convert (id : Nat) (build : BuildRef)
  /-- A call gives the signal that the builds are loaded. -/
  | load (id : Nat)
  /-- A call marks the next build in line. -/
  | mark (id : Nat)
  /-- A call hands over the job for the build that it has marked. -/
  | schedule (id : Nat)
  /-- A call that has no builds in line any more returns. -/
  | done (id : Nat)
  /-- A call waits until the initial conversions have ended. -/
  | wait (id : Nat)
  /-- A call that waits sees the signal. -/
  | notice (id : Nat)
  /-- A call that waits answers whether the initial conversions have ended. -/
  | answer (id : Nat) (ended : Bool)
  /-- A job ends. -/
  | finish (job : Job) (how : JobEnd)
  deriving DecidableEq, Repr

/-- The conversions, with the calls under way and what has happened. -/
structure Requests where
  /-- The conversions that were asked for. -/
  state : Migration
  /-- How far each call has come, by its id. -/
  stage : Nat → MigrationStage
  /-- The counter of pending jobs. -/
  count : Nat
  /-- The builds that were asked for and held back, in order and with repeats. -/
  early : List BuildRef
  /-- The builds that the release has walked past, in order. -/
  released : List BuildRef
  /-- The builds whose jobs were handed over, in order, and for which call. -/
  scheduled : List (BuildRef × MigrationCall)
  /-- The jobs that have ended, in order. -/
  ended : List (Job × JobEnd)
  /-- The builds that calls asked for which have returned. -/
  returned : List BuildRef

namespace Requests

/-- No requests. -/
def start (settings : MigrationSettings) : Requests where
  state := .start settings
  stage _ := .idle
  count := 0
  early := []
  released := []
  scheduled := []
  ended := []
  returned := []

/-- A call comes to a stage. -/
def goTo (v : Requests) (id : Nat) (stage : MigrationStage) : Requests :=
  { v with stage := Function.update v.stage id stage }

/-- A call asks for the conversion of a build: it goes to the end of those that are held back, and
the call returns, or the call goes on to mark it. -/
def defer (v : Requests) (id : Nat) (build : BuildRef) : Requests :=
  match v.state.hold? build with
  | some m =>
    { v with state := m, early := v.early ++ [build], returned := v.returned ++ [build] }
  | none => v.goTo id (.marking (.deferred build) [(build, 0)])

/-- A call fires the signal, and takes over those that were held back; when the signal has been
fired it returns. -/
def load (v : Requests) (id : Nat) : Requests :=
  if v.state.loaded then v
  else
    { v.goTo id (.marking .release v.state.load.1.zipIdx) with state := v.state.load.2 }

/-- A call marks a build, or passes it over if it is marked. -/
def mark (v : Requests) (id : Nat) (call : MigrationCall) (build : BuildRef) (before : Nat)
    (line : List (BuildRef × Nat)) : Requests :=
  let released := if call = .release then v.released ++ [build] else v.released
  match v.state.mark? build with
  | some m =>
    { v.goTo id (.scheduling call build before line) with state := m, released := released }
  | none => { v.goTo id (.marking call line) with released := released }

/-- A call hands over the job for a build, or breaks off when there is no delay for it. -/
def schedule (v : Requests) (id : Nat) (call : MigrationCall) (build : BuildRef) (before : Nat)
    (line : List (BuildRef × Nat)) : Requests :=
  if v.state.settings.fits (v.state.settings.offset before) then
    { v.goTo id (.marking call line) with
      state := v.state.schedule (v.state.settings.offset before) build
      count := v.count + 1
      scheduled := v.scheduled ++ [(build, call)] }
  else v.goTo id (.broken call build line)

/-- A step, if it can be taken. -/
def step? (v : Requests) : MigrationStep → Option Requests
  | .defer id build => if v.stage id = .idle then some (v.defer id build) else none
  | .convert id build =>
    if v.stage id = .idle then some (v.goTo id (.marking (.direct build) [(build, 0)])) else none
  | .load id => if v.stage id = .idle then some (v.load id) else none
  | .mark id =>
    match v.stage id with
    | .marking call ((build, before) :: line) => some (v.mark id call build before line)
    | _ => none
  | .schedule id =>
    match v.stage id with
    | .scheduling call build before line => some (v.schedule id call build before line)
    | _ => none
  | .done id =>
    match v.stage id with
    | .marking call [] =>
      some { v.goTo id .idle with returned := v.returned ++ call.build?.toList }
    | _ => none
  | .wait id => if v.stage id = .idle then some (v.goTo id .awaiting) else none
  | .notice id =>
    if v.stage id = .awaiting ∧ v.state.loaded then some (v.goTo id .watching) else none
  | .answer id ended =>
    match v.stage id, ended with
    | .watching, true => if v.count = 0 then some (v.goTo id .idle) else none
    | .watching, false => some (v.goTo id .idle)
    | .awaiting, false => some (v.goTo id .idle)
    | _, _ => none
  | .finish job how =>
    if job ∈ v.state.pool.jobs then
      some { v with
        state := v.state.endJob job how
        count := v.count - 1
        ended := v.ended ++ [(job, how)] }
    else none

/-- Some steps, one after the other; one that cannot be taken is left out. -/
def run (v : Requests) (steps : List MigrationStep) : Requests :=
  steps.foldl (fun v e => (v.step? e).getD v) v

variable {v : Requests} {id : Nat} {call : MigrationCall} {build : BuildRef} {before : Nat}
  {line : List (BuildRef × Nat)}

@[simp] theorem goTo_stage (v : Requests) (id : Nat) (stage : MigrationStage) :
    (v.goTo id stage).stage id = stage := Function.update_self ..

theorem run_cons (v : Requests) (e : MigrationStep) (rest : List MigrationStep) :
    v.run (e :: rest) = ((v.step? e).getD v).run rest := rfl

theorem run_append (v : Requests) (steps rest : List MigrationStep) :
    v.run (steps ++ rest) = (v.run steps).run rest := List.foldl_append

theorem run_done (h : v.stage id = .marking call []) : (v.run [.done id]).state = v.state := by
  rw [run_cons, step?, h]
  rfl

/-- A call that marks a build and hands over its job does with it what the release of the build
does, and goes on with the next one or has broken off. -/
theorem run_mark_schedule (h : v.stage id = .marking call ((build, before) :: line)) :
    (v.run [.mark id, .schedule id]).state = (v.state.release build before).2 ∧
      (v.run [.mark id, .schedule id]).stage id =
        if (v.state.release build before).1 then .marking call line
        else .broken call build line := by
  have hmark : v.step? (.mark id) = some (v.mark id call build before line) := by
    rw [step?, h]
  rw [run_cons, hmark, Option.getD_some, run_cons]
  cases hm : v.state.mark? build with
  | none =>
    have hpassed : (v.mark id call build before line).stage id = .marking call line ∧
        (v.mark id call build before line).state = v.state := by
      simp [mark, hm, goTo]
    rw [Migration.release_of_seen hm, step?, hpassed.1]
    exact ⟨hpassed.2, hpassed.1⟩
  | some m =>
    have hmarked : (v.mark id call build before line).stage id =
        .scheduling call build before line ∧ (v.mark id call build before line).state = m := by
      simp [mark, hm, goTo]
    rw [Migration.release_of_mark hm, step?, hmarked.1]
    dsimp only [run, List.foldl_nil, Option.getD_some]
    rw [schedule, hmarked.2]
    by_cases hfits : m.settings.fits (m.settings.offset before)
    · rw [if_pos hfits, if_pos hfits]
      exact ⟨rfl, goTo_stage ..⟩
    · rw [if_neg hfits, if_neg hfits]
      exact ⟨hmarked.2, goTo_stage ..⟩

/-- A call that has broken off takes no more steps. -/
theorem run_broken (h : v.stage id = .broken call build line) {steps : List MigrationStep}
    (hsteps : ∀ e ∈ steps, e = .mark id ∨ e = .schedule id ∨ e = .done id) :
    v.run steps = v := by
  induction steps with
  | nil => rfl
  | cons e rest ih =>
    have hnone : v.step? e = none := by
      rcases hsteps e List.mem_cons_self with rfl | rfl | rfl <;> rw [step?, h]
    rw [run_cons, hnone]
    exact ih fun e he => hsteps e (List.mem_cons_of_mem _ he)

/-- A call for one build that takes its steps without a break converts the build. -/
theorem run_one (h : v.stage id = .marking call [(build, 0)]) :
    (v.run [.mark id, .schedule id, .done id]).state = (v.state.convert build).2 := by
  obtain ⟨hstate, hstage⟩ := run_mark_schedule h
  have hconvert : (v.state.convert build).2 = (v.state.release build 0).2 := by
    rw [Migration.release, MigrationSettings.offset_zero]
    rfl
  rw [show [MigrationStep.mark id, .schedule id, .done id] = [.mark id, .schedule id] ++ [.done id]
    from rfl, run_append, hconvert, ← hstate]
  split at hstage
  · exact run_done hstage
  · rw [run_broken hstage fun e he => .inr (.inr (List.mem_singleton.mp he))]

/-- A call for the conversion of a build that takes its steps without a break does what the
operation does. -/
theorem run_convert (h : v.stage id = .idle) (build : BuildRef) :
    (v.run [.convert id build, .mark id, .schedule id, .done id]).state =
      (v.state.convert build).2 := by
  rw [run_cons, step?, if_pos h, Option.getD_some]
  exact run_one (goTo_stage v id _)

/-- A call for a deferred conversion that takes its steps without a break does what the operation
does. -/
theorem run_defer (h : v.stage id = .idle) (build : BuildRef) :
    (v.run [.defer id build, .mark id, .schedule id, .done id]).state = v.state.defer build := by
  rw [run_cons, step?, if_pos h, Option.getD_some]
  unfold defer Migration.defer
  cases hhold : v.state.hold? build with
  | some m => simp only [run, List.foldl_cons, List.foldl_nil, step?, h, Option.getD_none]
  | none => exact run_one (goTo_stage v id _)

/-- A release marks the builds in line and hands over their jobs, one after the other, and
returns unless it has broken off. -/
theorem run_line (h : v.stage id = .marking .release line) :
    (v.run ((line.flatMap fun _ => [.mark id, .schedule id]) ++ [.done id])).state =
      (v.state.releaseAll line).2 := by
  induction line generalizing v with
  | nil => exact run_done h
  | cons first line ih =>
    obtain ⟨build, before⟩ := first
    obtain ⟨hstate, hstage⟩ := run_mark_schedule h
    rw [List.flatMap_cons, List.append_assoc, run_append, Migration.releaseAll]
    cases hrelease : v.state.release build before with
    | mk all m =>
      rw [hrelease] at hstate hstage
      cases all with
      | true => rw [ih hstage, hstate]
      | false =>
        have hsteps : ∀ e ∈ (line.flatMap fun _ => [MigrationStep.mark id, .schedule id]) ++
            [.done id], e = .mark id ∨ e = .schedule id ∨ e = .done id := by
          simp only [List.mem_append, List.mem_flatMap, List.mem_cons, List.not_mem_nil, or_false]
          rintro e (⟨-, -, hmark | hschedule⟩ | hdone)
          · exact .inl hmark
          · exact .inr (.inl hschedule)
          · exact .inr (.inr hdone)
        rw [run_broken hstage hsteps, hstate]

/-- A call that fires the signal and takes its steps without a break does what the operation
does. -/
theorem run_load (h : v.stage id = .idle) (hl : v.state.loaded = false) :
    (v.run (.load id :: (v.state.held.zipIdx.flatMap fun _ => [.mark id, .schedule id]) ++
      [.done id])).state = v.state.onLoaded.2 := by
  have hload : v.state.load = (v.state.held, { v.state with loaded := true, held := [] }) := by
    rw [Migration.load, if_neg (by rw [hl]; exact Bool.false_ne_true)]
  have hbegin : (v.load id).stage id = .marking .release v.state.held.zipIdx := by
    unfold load
    rw [if_neg (by rw [hl]; exact Bool.false_ne_true), hload]
    exact goTo_stage ..
  rw [List.cons_append, run_cons, step?, if_pos h, Option.getD_some, run_line hbegin]
  unfold Migration.onLoaded load
  rw [if_neg (by rw [hl]; exact Bool.false_ne_true), hload]

end Requests

end BuildTriage
