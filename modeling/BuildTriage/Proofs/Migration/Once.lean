import BuildTriage.Proofs.Migration.Marks
import BuildTriage.Proofs.Migration.Requests
import Mathlib.Data.Finset.Card

/-!
# Each build is converted once

A job is handed over once at most, because only the call that has marked a build hands over its
job, and it does so with its next step. A build that is held back is marked when the release
walks past it, if it was not marked before. So nothing that was asked for is lost, and nothing is
done twice.
-/

namespace BuildTriage

namespace MigrationSettings

/-- There is a delay for each of so many builds in line, as there always is if they are no more
than a thousand (`spans_thousand`). -/
def Spans (s : MigrationSettings) (builds : Nat) : Prop :=
  ∀ before < builds, s.fits (s.offset before) = true

/-- There is always a delay for the first build in line. -/
theorem fits_first (s : MigrationSettings) : s.fits (s.offset 0) = true := by
  have hword := s.debounce.toNat_lt_size
  rw [offset_zero, fits, decide_eq_true_eq, longestDelay]
  omega

/-- Whatever the settings are, there is a delay for each of a thousand builds. -/
theorem spans_thousand (s : MigrationSettings) : s.Spans 1000 := by
  intro before hbefore
  have hword := s.debounce.toNat_lt_size
  have hproduct : s.stagger.toNat * min before (UInt32.size - 1) ≤ (UInt64.size - 1) * 999 :=
    Nat.mul_le_mul (Nat.le_sub_one_of_lt s.stagger.toNat_lt_size)
      ((Nat.min_le_left ..).trans (Nat.le_of_lt_succ hbefore))
  have hoffset : s.offset before ≤ (UInt64.size - 1) * 999 := (Nat.min_le_left ..).trans hproduct
  rw [fits, decide_eq_true_eq, longestDelay]
  omega

/-- For one build more there need not be a delay. -/
example : ¬ ({ stagger := 18446744073709551615 } : MigrationSettings).Spans 1001 := fun hspans =>
  absurd (hspans 1000 (by decide)) (by decide)

end MigrationSettings

/-- How many builds may stand before one that a call has in line: a release has the builds in line
that were held back, and any other call has one. -/
def MigrationCall.Place (call : MigrationCall) (held before : Nat) : Prop :=
  if call = .release then before < held else before = 0

namespace MigrationStage

variable {settings : MigrationSettings} {held held' : Nat} {call : MigrationCall}
  {build : BuildRef} {before : Nat} {line : List (BuildRef × Nat)}

/-- The builds that a call has in line stand in their places, and only a release for one of whose
builds there is no delay has broken off. -/
def InLine (settings : MigrationSettings) (held : Nat) : MigrationStage → Prop
  | .marking call line => ∀ n ∈ line.map (·.2), call.Place held n
  | .scheduling call _ before line => ∀ n ∈ before :: line.map (·.2), call.Place held n
  | .broken call _ _ => call = .release ∧ ¬ settings.Spans held
  | _ => True

theorem inLine_of_quiet {s : MigrationStage} (h : s.call? = none) : s.InLine settings held := by
  cases s with
  | marking | scheduling | broken => exact (Option.some_ne_none _ h).elim
  | idle | awaiting | watching => trivial

/-- More builds may be held back. -/
theorem InLine.mono {s : MigrationStage} (h : s.InLine settings held) (hle : held ≤ held') :
    s.InLine settings held' := by
  have hplace : ∀ {call : MigrationCall} {n}, call.Place held n → call.Place held' n := by
    intro call n hn
    unfold MigrationCall.Place at hn ⊢
    split
    · next hcall =>
      rw [if_pos hcall] at hn
      exact hn.trans_le hle
    · next hcall =>
      rw [if_neg hcall] at hn
      exact hn
  cases s with
  | marking | scheduling => exact fun n hn => hplace (h n hn)
  | broken =>
    exact ⟨h.1, fun hspans => h.2 fun before hlt => hspans before (hlt.trans_le hle)⟩
  | idle | awaiting | watching => trivial

/-- A call for which there is no delay is a release for one of whose builds there is none. -/
theorem InLine.broken (h : (scheduling call build before line).InLine settings held)
    (hfits : ¬ settings.fits (settings.offset before) = true) :
    (MigrationStage.broken call build line).InLine settings held := by
  have hplace := h before List.mem_cons_self
  unfold MigrationCall.Place at hplace
  split at hplace
  · next hcall => exact ⟨hcall, fun hspans => hfits (hspans before hplace)⟩
  · rw [hplace] at hfits
    exact absurd settings.fits_first hfits

end MigrationStage

namespace Requests

/-- What each step keeps. -/
structure Orderly (v : Requests) : Prop where
  /-- What is marked is handed over once. -/
  marks : Marks v.state.seen (v.scheduled.map (·.1)) (MigrationStage.marked? ∘ v.stage)
  /-- What is held back is released in order. -/
  walk : Walk v.state.loaded v.state.held v.early v.released (MigrationStage.walk? ∘ v.stage)
  /-- What a call asks for is marked, or will be. -/
  aimed : ∀ id b, (v.stage id).aim? = some b → b ∈ v.state.seen ∨ b ∈ (v.stage id).line
  /-- A call other than the release has no builds in hand but the one that it asks for. -/
  own : ∀ id, (v.stage id).Own
  /-- The builds that a call has in line stand in their places. -/
  inLine : ∀ id, (v.stage id).InLine v.state.settings v.early.eraseDups.length
  /-- What was asked for is marked, or was held back. -/
  returned : ∀ b ∈ v.returned, b ∈ v.state.seen ∨ b ∈ v.early
  /-- What the release has walked past is marked. -/
  released : ∀ b ∈ v.released, b ∈ v.state.seen
  /-- Before the signal only direct calls are under way. -/
  calls_direct : v.state.loaded = false → ∀ id, (v.stage id).call?.all (·.isDirect) = true
  /-- Before the signal only jobs of direct calls are handed over. -/
  scheduled_direct : v.state.loaded = false → ∀ job ∈ v.scheduled, job.2.isDirect = true
  /-- Who waits for the jobs has seen the signal. -/
  signalled : ∀ id, v.stage id = .watching → v.state.loaded = true
  /-- The pool takes jobs. -/
  running : v.state.pool.running = true
  /-- The counter counts the pending jobs. -/
  count_eq : v.count = v.state.pool.pending
  /-- A job that was handed over is pending or has ended. -/
  jobs_perm : (v.scheduled.map fun job => JobTask.convert job.1).Perm
    (v.state.pool.jobs.map (·.task) ++ v.ended.map (·.1.task))

namespace Orderly

/-- There is nothing to keep at the beginning. -/
theorem start (settings : MigrationSettings) : (Requests.start settings).Orderly where
  marks := Marks.start
  walk := Walk.start
  aimed _ _ h := absurd h nofun
  own _ := MigrationStage.own_of_quiet rfl
  inLine _ := MigrationStage.inLine_of_quiet rfl
  returned _ h := absurd h List.not_mem_nil
  released _ h := absurd h List.not_mem_nil
  calls_direct _ _ := rfl
  scheduled_direct _ _ h := absurd h List.not_mem_nil
  signalled _ h := absurd h nofun
  running := rfl
  count_eq := rfl
  jobs_perm := List.Perm.nil

variable {v : Requests} (h : v.Orderly) {id : Nat} {stage : MigrationStage}

include h

/-- A call comes to a stage in which it is about to hand over the same job as before, or none as
before. -/
theorem marks_update (hmarked : stage.marked? = (v.stage id).marked?) :
    Marks v.state.seen (v.scheduled.map (·.1))
      (MigrationStage.marked? ∘ Function.update v.stage id stage) := by
  have hsame := Function.update_eq_self id (MigrationStage.marked? ∘ v.stage)
  rw [Function.comp_update, hmarked]
  exact hsame.symm ▸ h.marks

/-- A call comes to a stage in which a release has still to walk past the same builds. -/
theorem walk_update (hwalk : stage.walk? = (v.stage id).walk?) :
    Walk v.state.loaded v.state.held v.early v.released
      (MigrationStage.walk? ∘ Function.update v.stage id stage) := by
  have hsame := Function.update_eq_self id (MigrationStage.walk? ∘ v.stage)
  rw [Function.comp_update, hwalk]
  exact hsame.symm ▸ h.walk

/-- Before the signal, a call is a direct one. -/
theorem direct_of_call (hl : v.state.loaded = false) {call : MigrationCall}
    (hcall : (v.stage id).call? = some call) : call.isDirect = true := by
  have hdirect := h.calls_direct hl id
  rw [hcall] at hdirect
  exact hdirect

/-- What calls ask for, when one has come to another stage and builds may have been marked. -/
theorem aimed_update {seen : List BuildRef} (hseen : ∀ b ∈ v.state.seen, b ∈ seen)
    (haim : ∀ b, stage.aim? = some b → b ∈ seen ∨ b ∈ stage.line) (i : Nat) (b : BuildRef)
    (hi : (Function.update v.stage id stage i).aim? = some b) :
    b ∈ seen ∨ b ∈ (Function.update v.stage id stage i).line := by
  rw [Function.update_apply] at hi ⊢
  split at hi
  · next heq =>
    rw [if_pos heq]
    exact haim b hi
  · next hne =>
    rw [if_neg hne]
    exact (h.aimed i b hi).imp_left (hseen b)

/-- What calls have in hand, when one has come to another stage. -/
theorem own_update (hown : stage.Own) (i : Nat) : (Function.update v.stage id stage i).Own := by
  rw [Function.update_apply]
  split
  · exact hown
  · exact h.own i

/-- The builds that calls have in line, when one has come to another stage. -/
theorem inLine_update (hline : stage.InLine v.state.settings v.early.eraseDups.length) (i : Nat) :
    (Function.update v.stage id stage i).InLine v.state.settings v.early.eraseDups.length := by
  rw [Function.update_apply]
  split
  · exact hline
  · exact h.inLine i

/-- Before the signal, a call that goes on is a direct one if it was. -/
theorem direct_update (hl : v.state.loaded = false)
    (hdirect : stage.call?.all (·.isDirect) = true) (i : Nat) :
    (Function.update v.stage id stage i).call?.all (·.isDirect) = true := by
  rw [Function.update_apply]
  split
  · exact hdirect
  · exact h.calls_direct hl i

/-- Who waits for the jobs has seen the signal, when a call has come to another stage. -/
theorem signalled_update (hsignal : stage = .watching → v.state.loaded = true) (i : Nat)
    (hi : Function.update v.stage id stage i = .watching) : v.state.loaded = true := by
  rw [Function.update_apply] at hi
  split at hi
  · exact hsignal hi
  · exact h.signalled i hi

/-- A call comes to a stage in which it is about to hand over what it was about to hand over, and
in which a release has still to walk past the same builds. -/
theorem goTo (hmarked : stage.marked? = (v.stage id).marked?)
    (hwalk : stage.walk? = (v.stage id).walk?)
    (haim : ∀ b, stage.aim? = some b → b ∈ v.state.seen ∨ b ∈ stage.line)
    (hown : stage.Own) (hline : stage.InLine v.state.settings v.early.eraseDups.length)
    (hdirect : v.state.loaded = false → stage.call?.all (·.isDirect) = true)
    (hsignal : stage = .watching → v.state.loaded = true) : (v.goTo id stage).Orderly where
  marks := h.marks_update hmarked
  walk := h.walk_update hwalk
  aimed := h.aimed_update (fun _ hb => hb) haim
  own := h.own_update hown
  inLine := h.inLine_update hline
  returned := h.returned
  released := h.released
  calls_direct hl := h.direct_update hl (hdirect hl)
  scheduled_direct := h.scheduled_direct
  signalled := h.signalled_update hsignal
  running := h.running
  count_eq := h.count_eq
  jobs_perm := h.jobs_perm

/-- A call asks for the conversion of a build. -/
theorem begin (hidle : v.stage id = .idle) {call : MigrationCall} {b : BuildRef}
    (hcall : call.build? = some b) (hdirect : v.state.loaded = false → call.isDirect = true) :
    (v.goTo id (.marking call [(b, 0)])).Orderly := by
  have hnot : call ≠ .release := by
    rintro rfl
    exact absurd hcall nofun
  refine h.goTo ?_ ?_ (fun other haim => ?_) (fun other hother => ?_) (fun n hn => ?_) hdirect nofun
  · rw [hidle]
    rfl
  · rw [hidle, MigrationStage.walk_marking, if_neg hnot]
    rfl
  · rw [MigrationStage.aim?, MigrationStage.call?, Option.bind_some, hcall] at haim
    rw [← Option.some.inj haim]
    exact .inr List.mem_cons_self
  · rcases hother with hmarked | hline
    · exact (Option.some_ne_none _ hmarked.symm).elim
    · rw [List.mem_singleton.mp hline]
      exact .inr hcall
  · rw [MigrationCall.Place, if_neg hnot]
    exact List.mem_singleton.mp hn

/-- A call asks for the conversion of a build, which may be deferred. -/
theorem defer (hidle : v.stage id = .idle) (b : BuildRef) : (v.defer id b).Orderly := by
  unfold Requests.defer
  cases hhold : v.state.hold? b with
  | none =>
    have hloaded := Migration.loaded_of_hold hhold
    exact h.begin hidle rfl fun hl => absurd (hloaded.symm.trans hl) nofun
  | some m =>
    obtain ⟨hl, rfl⟩ := Migration.eq_of_hold hhold
    have hwalk := h.walk
    rw [hl] at hwalk
    exact { h with
      walk := by
        dsimp only
        rw [hl]
        exact hwalk.hold b
      inLine := fun i => (h.inLine i).mono <| by
        dsimp only
        rw [eraseDups_concat]
        split
        · exact Nat.le_refl _
        · rw [List.length_append]
          exact Nat.le_add_right ..
      returned := fun other hother => by
        rcases List.mem_append.mp hother with hold | hnew
        · exact (h.returned other hold).imp_right (List.mem_append_left _)
        · exact .inr (List.mem_append_right _ hnew) }

/-- A call gives the signal. -/
theorem load (hidle : v.stage id = .idle) : (v.load id).Orderly := by
  unfold Requests.load
  cases hl : v.state.loaded with
  | true => exact h
  | false =>
    have hload : v.state.load = (v.state.held, { v.state with loaded := true, held := [] }) := by
      rw [Migration.load, if_neg (by rw [hl]; exact Bool.false_ne_true)]
    rw [if_neg Bool.false_ne_true, hload]
    have hwalk := h.walk
    rw [hl] at hwalk
    have hline : MigrationStage.walk? (.marking .release v.state.held.zipIdx) =
        some v.state.held := by
      rw [MigrationStage.walk?, List.zipIdx_map_fst]
    unfold Requests.goTo
    exact { h with
      marks := h.marks_update (by rw [hidle]; rfl)
      walk := by
        dsimp only
        rw [Function.comp_update, hline]
        exact hwalk.fire id
      aimed := h.aimed_update (fun _ hb => hb) fun _ haim => (Option.some_ne_none _ haim.symm).elim
      own := h.own_update fun _ _ => .inl rfl
      inLine := h.inLine_update fun n hn => by
        rw [List.zipIdx_map_snd, hwalk.held_eq rfl] at hn
        rw [MigrationCall.Place, if_pos rfl]
        simpa using hn
      calls_direct := fun hl => absurd hl.symm Bool.false_ne_true
      scheduled_direct := fun hl => absurd hl.symm Bool.false_ne_true
      signalled := fun _ _ => rfl }

section Mark

variable {call : MigrationCall} {b : BuildRef} {before : Nat} {line : List (BuildRef × Nat)}

/-- The release walks past a build that it finds next in line; no other call does. -/
theorem walk_mark (hstage : v.stage id = .marking call ((b, before) :: line))
    (hwalk : stage.walk? = (MigrationStage.marking call line).walk?) :
    Walk v.state.loaded v.state.held v.early
      (if call = .release then v.released ++ [b] else v.released)
      (MigrationStage.walk? ∘ Function.update v.stage id stage) := by
  by_cases hcall : call = .release
  · rw [MigrationStage.walk_marking, if_pos hcall] at hwalk
    rw [Function.comp_update, hwalk, if_pos hcall]
    refine h.walk.pass ?_
    rw [Function.comp_apply, hstage, MigrationStage.walk_marking, if_pos hcall]
    rfl
  · rw [if_neg hcall]
    refine h.walk_update ?_
    rw [hwalk, hstage, MigrationStage.walk_marking, MigrationStage.walk_marking, if_neg hcall,
      if_neg hcall]

/-- A call marks the next build in line, or finds it marked. -/
theorem mark (hstage : v.stage id = .marking call ((b, before) :: line)) :
    (v.mark id call b before line).Orderly := by
  have haim : ∀ other, call.build? = some other →
      other ∈ v.state.seen ∨ other = b ∨ other ∈ line.map (·.1) := by
    intro other hother
    have hold := h.aimed id other
    rw [hstage] at hold
    exact (hold hother).imp_right List.mem_cons.mp
  have hreleased : ∀ other ∈ (if call = .release then v.released ++ [b] else v.released),
      other ∈ v.state.seen ∨ other = b := by
    intro other hother
    split at hother
    · exact (List.mem_append.mp hother).imp (h.released other) List.mem_singleton.mp
    · exact .inl (h.released other hother)
  have hdirect : v.state.loaded = false → call.isDirect = true := fun hl =>
    h.direct_of_call hl (by rw [hstage]; rfl)
  have hown := h.own id
  rw [hstage] at hown
  have hplaces := h.inLine id
  rw [hstage] at hplaces
  unfold Requests.mark Requests.goTo
  cases hm : v.state.mark? b with
  | none =>
    have hseen := Migration.mem_of_mark hm
    exact { h with
      marks := h.marks_update (by rw [hstage]; rfl)
      walk := h.walk_mark hstage rfl
      aimed := h.aimed_update (fun _ hb => hb) fun other hother => by
        rcases haim other hother with hold | rfl | hline
        · exact .inl hold
        · exact .inl hseen
        · exact .inr hline
      own := h.own_update <| hown.of_subset rfl fun other hother =>
        hother.imp_right (List.mem_cons_of_mem _)
      inLine := h.inLine_update fun n hn => hplaces n (List.mem_cons_of_mem _ hn)
      released := fun other hother =>
        (hreleased other hother).elim (fun hold => hold) fun heq => heq ▸ hseen
      calls_direct := fun hl => h.direct_update hl (hdirect hl)
      signalled := h.signalled_update nofun }
  | some m =>
    obtain ⟨hunseen, rfl⟩ := Migration.eq_of_mark hm
    have hnone : (MigrationStage.marked? ∘ v.stage) id = none := by
      rw [Function.comp_apply, hstage]
      rfl
    exact { h with
      marks := by
        dsimp only
        rw [Function.comp_update]
        exact h.marks.mark hnone hunseen
      walk := h.walk_mark hstage (MigrationStage.walk_scheduling ..)
      aimed := h.aimed_update (fun _ hb => List.mem_append_left _ hb) fun other hother => by
        rcases haim other hother with hold | rfl | hline
        · exact .inl (List.mem_append_left _ hold)
        · exact .inl (List.mem_append_right _ List.mem_cons_self)
        · exact .inr hline
      own := h.own_update <| hown.of_subset rfl fun other hother => by
        rcases hother with hmarked | hline
        · exact .inr (List.mem_cons.mpr (.inl (Option.some.inj hmarked).symm))
        · exact .inr (List.mem_cons_of_mem _ hline)
      inLine := h.inLine_update hplaces
      returned := fun other hother =>
        (h.returned other hother).imp_left (List.mem_append_left _)
      released := fun other hother => by
        rcases hreleased other hother with hold | rfl
        · exact List.mem_append_left _ hold
        · exact List.mem_append_right _ List.mem_cons_self
      calls_direct := fun hl => h.direct_update hl (hdirect hl)
      signalled := h.signalled_update nofun }

/-- A call hands over the job for the build that it has marked. -/
theorem hand (hstage : v.stage id = .scheduling call b before line) (extra : Nat) :
    Orderly { v.goTo id (.marking call line) with
      state := v.state.schedule extra b
      count := v.count + 1
      scheduled := v.scheduled ++ [(b, call)] } := by
  have hjob : v.state.schedule extra b =
      { v.state with pool := { v.state.pool with jobs := v.state.pool.jobs ++
        [⟨v.state.pool.now + (v.state.settings.debounce.toNat + extra), .convert b⟩] } } := by
    rw [Migration.schedule, JobPool.schedule, if_pos h.running]
  have hmarked : (MigrationStage.marked? ∘ v.stage) id = some b := by
    rw [Function.comp_apply, hstage]
    rfl
  have hdirect : v.state.loaded = false → call.isDirect = true := fun hl =>
    h.direct_of_call hl (by rw [hstage]; rfl)
  have hown := h.own id
  rw [hstage] at hown
  have hplaces := h.inLine id
  rw [hstage] at hplaces
  unfold Requests.goTo
  rw [hjob]
  exact { h with
    marks := by
      dsimp only
      rw [Function.comp_update, List.map_append]
      exact h.marks.schedule hmarked
    walk := h.walk_update (by rw [hstage, MigrationStage.walk_scheduling])
    aimed := h.aimed_update (fun _ hb => hb) fun other hother => by
      have hold := h.aimed id other
      rw [hstage] at hold
      exact hold hother
    own := h.own_update <| hown.of_subset rfl fun other hother =>
      .inr (hother.resolve_left fun hmarked => Option.some_ne_none _ hmarked.symm)
    inLine := h.inLine_update fun n hn => hplaces n (List.mem_cons_of_mem _ hn)
    calls_direct := fun hl => h.direct_update hl (hdirect hl)
    scheduled_direct := fun hl => List.forall_mem_append.mpr
      ⟨h.scheduled_direct hl, List.forall_mem_singleton.mpr (hdirect hl)⟩
    signalled := h.signalled_update nofun
    count_eq := by
      dsimp only [JobPool.pending]
      rw [List.length_append, h.count_eq]
      rfl
    jobs_perm := by
      dsimp only
      rw [List.map_append, List.map_append, List.append_assoc]
      refine (h.jobs_perm.append_right _).trans ?_
      rw [List.append_assoc]
      exact List.perm_append_comm.append_left _ }

/-- A call hands over the job for the build that it has marked, or breaks off. -/
theorem schedule (hstage : v.stage id = .scheduling call b before line) :
    (v.schedule id call b before line).Orderly := by
  unfold Requests.schedule
  split
  · exact h.hand hstage _
  · next hfits =>
    have haim := h.aimed id
    have hown := h.own id
    have hplaces := h.inLine id
    have hdirect := fun hl => h.calls_direct hl id
    rw [hstage] at haim hown hplaces hdirect
    refine h.goTo ?_ ?_ haim hown (hplaces.broken hfits) hdirect nofun
    · rw [hstage]
      rfl
    · rw [hstage, MigrationStage.walk_scheduling, MigrationStage.walk_broken]

/-- A call that has no builds in line any more returns. -/
theorem done (hstage : v.stage id = .marking call []) :
    Orderly { v.goTo id .idle with returned := v.returned ++ call.build?.toList } := by
  unfold Requests.goTo
  exact { h with
    marks := h.marks_update (by rw [hstage]; rfl)
    walk := by
      by_cases hcall : call = .release
      · dsimp only
        rw [Function.comp_update]
        refine h.walk.finish ?_
        rw [Function.comp_apply, hstage, hcall]
        rfl
      · refine h.walk_update ?_
        rw [hstage, MigrationStage.walk_marking, if_neg hcall]
        rfl
    aimed := h.aimed_update (fun _ hb => hb) fun _ haim => absurd haim nofun
    own := h.own_update (MigrationStage.own_of_quiet rfl)
    inLine := h.inLine_update (MigrationStage.inLine_of_quiet rfl)
    returned := fun other hother => by
      rcases List.mem_append.mp hother with hold | hnew
      · exact h.returned other hold
      · have hseen := h.aimed id other
        rw [hstage] at hseen
        have hbuild : call.build? = some other := Option.mem_toList.mp hnew
        exact (hseen hbuild).elim .inl fun hline => absurd hline List.not_mem_nil
    calls_direct := fun hl => h.direct_update hl rfl
    signalled := h.signalled_update nofun }

end Mark

/-- A job ends. -/
theorem finish {job : Job} (hjob : job ∈ v.state.pool.jobs) (how : JobEnd) :
    Orderly { v with
      state := v.state.endJob job how
      count := v.count - 1
      ended := v.ended ++ [(job, how)] } := by
  have hlength := List.length_erase_of_mem hjob
  have hsplit := (List.perm_cons_erase hjob).map (·.task)
  exact { h with
    count_eq := by
      have hcount := h.count_eq
      dsimp only [JobPool.pending, Migration.endJob, JobPool.finish] at hcount ⊢
      rw [hlength, hcount]
    jobs_perm := by
      dsimp only [Migration.endJob, JobPool.finish]
      refine h.jobs_perm.trans ((hsplit.append_right _).trans ?_)
      rw [List.map_append, List.map_cons, List.cons_append, ← List.append_assoc]
      exact (List.perm_append_singleton _ _).symm }

/-- A call that schedules nothing goes on. -/
theorem watch (hbefore : (v.stage id).call? = none) (hafter : stage.call? = none)
    (hsignal : stage = .watching → v.state.loaded = true) : (v.goTo id stage).Orderly := by
  have hquiet : ∀ s : MigrationStage, s.call? = none → s.marked? = none ∧ s.walk? = none := by
    intro s hs
    cases s with
    | marking | scheduling | broken => exact (Option.some_ne_none _ hs).elim
    | idle | awaiting | watching => exact ⟨rfl, rfl⟩
  obtain ⟨hmarked, hwalk⟩ := hquiet _ hbefore
  obtain ⟨hmarked', hwalk'⟩ := hquiet _ hafter
  refine h.goTo (hmarked'.trans hmarked.symm) (hwalk'.trans hwalk.symm) (fun b haim => ?_)
    (MigrationStage.own_of_quiet hafter) (MigrationStage.inLine_of_quiet hafter) (fun _ => ?_)
    hsignal
  · rw [MigrationStage.aim?, hafter] at haim
    exact (Option.some_ne_none _ haim.symm).elim
  · rw [hafter]
    rfl

/-- A call that waits answers. -/
theorem answer {ended : Bool} {next : Requests} (hs : v.step? (.answer id ended) = some next) :
    next.Orderly := by
  unfold step? at hs
  dsimp only at hs
  split at hs
  · next hstage =>
    obtain ⟨-, hnext⟩ := Option.ite_none_right_eq_some.mp hs
    rw [← Option.some.inj hnext]
    exact h.watch (by rw [hstage]; rfl) rfl nofun
  · next hstage =>
    rw [← Option.some.inj hs]
    exact h.watch (by rw [hstage]; rfl) rfl nofun
  · next hstage =>
    rw [← Option.some.inj hs]
    exact h.watch (by rw [hstage]; rfl) rfl nofun
  · exact absurd hs nofun

/-- Each step keeps the requests orderly. -/
theorem step {e : MigrationStep} {next : Requests} (hs : v.step? e = some next) :
    next.Orderly := by
  cases e with
  | defer id b =>
    obtain ⟨hidle, hnext⟩ := Option.ite_none_right_eq_some.mp hs
    rw [← Option.some.inj hnext]
    exact h.defer hidle b
  | convert id b =>
    obtain ⟨hidle, hnext⟩ := Option.ite_none_right_eq_some.mp hs
    rw [← Option.some.inj hnext]
    exact h.begin hidle rfl fun _ => rfl
  | load id =>
    obtain ⟨hidle, hnext⟩ := Option.ite_none_right_eq_some.mp hs
    rw [← Option.some.inj hnext]
    exact h.load hidle
  | mark id =>
    unfold step? at hs
    dsimp only at hs
    split at hs
    · next hstage =>
      rw [← Option.some.inj hs]
      exact h.mark hstage
    · exact absurd hs nofun
  | schedule id =>
    unfold step? at hs
    dsimp only at hs
    split at hs
    · next hstage =>
      rw [← Option.some.inj hs]
      exact h.schedule hstage
    · exact absurd hs nofun
  | done id =>
    unfold step? at hs
    dsimp only at hs
    split at hs
    · next hstage =>
      rw [← Option.some.inj hs]
      exact h.done hstage
    · exact absurd hs nofun
  | wait id =>
    obtain ⟨hidle, hnext⟩ := Option.ite_none_right_eq_some.mp hs
    rw [← Option.some.inj hnext]
    exact h.watch (by rw [hidle]; rfl) rfl nofun
  | notice id =>
    obtain ⟨⟨hstage, hloaded⟩, hnext⟩ := Option.ite_none_right_eq_some.mp hs
    rw [← Option.some.inj hnext]
    exact h.watch (by rw [hstage]; rfl) rfl fun _ => hloaded
  | answer id ended => exact h.answer hs
  | finish job how =>
    obtain ⟨hjob, hnext⟩ := Option.ite_none_right_eq_some.mp hs
    rw [← Option.some.inj hnext]
    exact h.finish hjob how

/-- Any steps keep the requests orderly. -/
theorem run (steps : List MigrationStep) : (v.run steps).Orderly := by
  induction steps generalizing v with
  | nil => exact h
  | cons e rest ih =>
    rw [run_cons]
    cases hs : v.step? e with
    | none => exact ih h
    | some next => exact ih (h.step hs)

end Orderly

/-- What is true of the requests at every moment. -/
structure Once (v : Requests) : Prop where
  /-- A build is marked once at most, and its job is handed over once at most, and not before. -/
  at_most_once : ∀ b, (v.scheduled.map (·.1)).count b ≤ v.state.seen.count b ∧
    v.state.seen.count b ≤ 1
  /-- Before the signal, no job is handed over for a call that may be deferred, and no such call
  is about to mark a build or to hand over its job. -/
  none_deferred : v.state.loaded = false → (∀ job ∈ v.scheduled, job.2.isDirect = true) ∧
    ∀ id, (v.stage id).call?.all (·.isDirect) = true
  /-- Before the signal, the builds that were asked for in such calls are held back, each of them
  once, in the order in which it was first asked for. -/
  held_eq : v.state.loaded = false → v.state.held = v.early.eraseDups ∧
    v.state.held.length = v.early.toFinset.card
  /-- Once the call that fired the signal has returned, a build that a returned call has asked for
  has been marked exactly once. -/
  marked_once : v.state.loaded = true → (∀ id, (v.stage id).call? ≠ some .release) →
    ∀ b ∈ v.returned, v.state.seen.count b = 1
  /-- Its job has been handed over exactly once when all calls for the build have returned. -/
  once : v.state.loaded = true → (∀ id, (v.stage id).call? ≠ some .release) →
    ∀ b ∈ v.returned, (∀ id, (v.stage id).aim? ≠ some b) →
      (v.scheduled.map (·.1)).count b = 1
  /-- While another call for the build is under way, the job has been handed over exactly once as
  well, unless this call has marked the build and is about to hand it over. -/
  once_under_way : v.state.loaded = true → (∀ id, (v.stage id).call? ≠ some .release) →
    ∀ b ∈ v.returned, (v.scheduled.map (·.1)).count b = 1 ∨
      ∃ id, (v.stage id).aim? = some b ∧ (v.stage id).marked? = some b
  /-- The next step of a call that has marked a build hands its job over, in a release if there is
  a delay for each build that was held back. -/
  once_next : ∀ id b, (v.stage id).marked? = some b → (v.scheduled.map (·.1)).count b = 0 ∧
    ((v.stage id).call? ≠ some .release ∨ v.state.settings.Spans v.early.eraseDups.length →
      ∃ next, v.step? (.schedule id) = some next ∧ (next.scheduled.map (·.1)).count b = 1)
  /-- No call but a release breaks off, and a release does not if there is a delay for each build
  that was held back. -/
  unbroken : ∀ id,
    (v.stage id).call? ≠ some .release ∨ v.state.settings.Spans v.early.eraseDups.length →
      (v.stage id).isBroken = false
  /-- The release walks past the builds that were held back in the order in which each was first
  asked for. -/
  released_prefix : v.released <+: v.early.eraseDups
  /-- When it has returned, it has walked past all of them. -/
  released_eq : v.state.loaded = true → (∀ id, (v.stage id).call? ≠ some .release) →
    v.released = v.early.eraseDups
  /-- Another signal changes nothing. -/
  load_eq : v.state.loaded = true → ∀ id next, v.step? (.load id) = some next → next = v
  /-- The counter counts the jobs that were handed over and have not ended. -/
  count_eq : v.count = v.state.pool.pending ∧ v.scheduled.length = v.count + v.ended.length
  /-- The jobs that were handed over are those that are pending and those that have ended. -/
  jobs_perm : (v.scheduled.map fun job => JobTask.convert job.1).Perm
    (v.state.pool.jobs.map (·.task) ++ v.ended.map (·.1.task))
  /-- A call that waits answers that the jobs have ended when the signal has been fired and it
  then sees that no job is pending. -/
  answer_true : ∀ id next, v.step? (.answer id true) = some next →
    v.state.loaded = true ∧ v.state.pool.pending = 0

namespace Orderly

variable {v : Requests}

/-- A release that has returned has walked past all builds that were held back. -/
theorem released_eq (h : v.Orderly) (hl : v.state.loaded = true)
    (hreturned : ∀ id, (v.stage id).call? ≠ some .release) : v.released = v.early.eraseDups := by
  refine h.walk.walked hl fun id => ?_
  have hcall := hreturned id
  rw [Function.comp_apply]
  cases hstage : v.stage id with
  | marking call | scheduling call | broken call =>
    rw [hstage] at hcall
    cases call with
    | release => exact absurd rfl hcall
    | deferred | direct => rfl
  | idle | awaiting | watching => rfl

/-- Once the release has returned, what returned calls have asked for is marked. -/
theorem seen_of_returned (h : v.Orderly) (hl : v.state.loaded = true)
    (hreturned : ∀ id, (v.stage id).call? ≠ some .release) {b : BuildRef} (hb : b ∈ v.returned) :
    b ∈ v.state.seen := by
  rcases h.returned b hb with hseen | hearly
  · exact hseen
  · refine h.released b ?_
    rw [h.released_eq hl hreturned]
    exact List.mem_eraseDups.mpr hearly

/-- Once the release has returned, the job for what a returned call has asked for has been handed
over, or another call for it is about to hand it over. -/
theorem once_of_returned (h : v.Orderly) (hl : v.state.loaded = true)
    (hreturned : ∀ id, (v.stage id).call? ≠ some .release) {b : BuildRef} (hb : b ∈ v.returned) :
    (v.scheduled.map (·.1)).count b = 1 ∨
      ∃ id, (v.stage id).aim? = some b ∧ (v.stage id).marked? = some b := by
  have hseen := h.seen_of_returned hl hreturned hb
  rcases (h.marks.seen_iff b).mp hseen with hscheduled | ⟨id, hmarked⟩
  · exact .inl (List.count_eq_one_of_mem h.marks.once hscheduled)
  · have haim := (h.own id b (.inl hmarked)).resolve_left (hreturned id)
    exact .inr ⟨id, haim, hmarked⟩

/-- A job is handed over only for a build that is marked, and once at most. -/
theorem count_le (h : v.Orderly) (b : BuildRef) :
    (v.scheduled.map (·.1)).count b ≤ v.state.seen.count b ∧ v.state.seen.count b ≤ 1 := by
  refine ⟨?_, List.nodup_iff_count_le_one.mp h.marks.taken b⟩
  have hmarked : v.scheduled.map (·.1) ⊆ v.state.seen := fun other hother =>
    (h.marks.seen_iff other).mpr (.inl hother)
  exact (List.subperm_of_subset h.marks.once hmarked).count_le b

theorem released_prefix (h : v.Orderly) : v.released <+: v.early.eraseDups := by
  cases hl : v.state.loaded with
  | false =>
    rw [h.walk.released_nil hl]
    exact List.nil_prefix
  | true =>
    by_cases hnone : ∀ id, (MigrationStage.walk? ∘ v.stage) id = none
    · rw [h.walk.walked hl hnone]
    · push Not at hnone
      obtain ⟨id, hwalk⟩ := hnone
      obtain ⟨line, hline⟩ := Option.ne_none_iff_exists'.mp hwalk
      exact ⟨line, h.walk.walk_eq id line hline⟩

/-- A call that is not a release has not broken off, nor has a release for all of whose builds
there is a delay. -/
theorem not_broken (h : v.Orderly) {id : Nat}
    (hspans : (v.stage id).call? ≠ some .release ∨
      v.state.settings.Spans v.early.eraseDups.length) : (v.stage id).isBroken = false := by
  have hline := h.inLine id
  cases hstage : v.stage id with
  | broken call build line =>
    rw [hstage] at hline hspans
    obtain ⟨hcall, hnone⟩ := hline
    exact (hspans.elim (fun hother => hother (congrArg some hcall)) hnone).elim
  | idle | awaiting | watching | marking | scheduling => rfl

/-- The call that has marked a build hands over its job with its next step. -/
theorem next_of_marked (h : v.Orderly) {id : Nat} {b : BuildRef}
    (hmarked : (v.stage id).marked? = some b)
    (hspans : (v.stage id).call? ≠ some .release ∨
      v.state.settings.Spans v.early.eraseDups.length) :
    ∃ next, v.step? (.schedule id) = some next ∧ (next.scheduled.map (·.1)).count b = 1 := by
  have hzero : (v.scheduled.map (·.1)).count b = 0 :=
    List.count_eq_zero.mpr (h.marks.apart id b hmarked)
  have hwhole := h.not_broken hspans
  have hline := h.inLine id
  cases hstage : v.stage id with
  | idle | awaiting | watching | marking =>
    rw [hstage] at hmarked
    exact absurd hmarked nofun
  | broken =>
    rw [hstage] at hwhole
    exact absurd hwhole nofun
  | scheduling call build before line =>
    rw [hstage] at hmarked hline hspans
    obtain rfl : build = b := Option.some.inj hmarked
    -- a call that is not a release has nothing before its build, which always has a delay
    have hfits : v.state.settings.fits (v.state.settings.offset before) = true := by
      by_contra hnot
      obtain ⟨hcall, hnone⟩ := hline.broken hnot
      exact hspans.elim (fun hother => hother (congrArg some hcall)) hnone
    refine ⟨v.schedule id call build before line, by rw [step?, hstage], ?_⟩
    unfold Requests.schedule
    rw [if_pos hfits]
    dsimp only
    rw [List.map_append, List.count_append, hzero, List.map_singleton, List.count_singleton_self]

/-- Who answers that the jobs have ended has seen the signal, and no job pending since. -/
theorem of_answer (h : v.Orderly) {id : Nat} {next : Requests}
    (hs : v.step? (.answer id true) = some next) :
    v.state.loaded = true ∧ v.state.pool.pending = 0 := by
  unfold step? at hs
  dsimp only at hs
  split at hs
  · next hstage _ =>
    obtain ⟨hzero, -⟩ := Option.ite_none_right_eq_some.mp hs
    exact ⟨h.signalled id hstage, h.count_eq.symm.trans hzero⟩
  · next hfalse => exact absurd hfalse nofun
  · next hfalse => exact absurd hfalse nofun
  · exact absurd hs nofun

/-- Orderly requests are served once. -/
theorem served (h : v.Orderly) : v.Once where
  at_most_once := h.count_le
  none_deferred hl := ⟨h.scheduled_direct hl, h.calls_direct hl⟩
  held_eq hl := by
    have hheld := h.walk.held_eq hl
    refine ⟨hheld, ?_⟩
    have hset : v.early.toFinset = v.early.eraseDups.toFinset := by
      ext b
      rw [List.mem_toFinset, List.mem_toFinset, List.mem_eraseDups]
    rw [hheld, hset, List.toFinset_card_of_nodup (nodup_eraseDups _)]
  marked_once hl hreturned b hb :=
    List.count_eq_one_of_mem h.marks.taken (h.seen_of_returned hl hreturned hb)
  once hl hreturned b hb hnone :=
    (h.once_of_returned hl hreturned hb).resolve_right fun ⟨id, haim, _⟩ => hnone id haim
  once_under_way hl hreturned b hb := h.once_of_returned hl hreturned hb
  once_next id b hmarked :=
    ⟨List.count_eq_zero.mpr (h.marks.apart id b hmarked), h.next_of_marked hmarked⟩
  unbroken _ hspans := h.not_broken hspans
  released_prefix := h.released_prefix
  released_eq := h.released_eq
  load_eq hl id next hs := by
    obtain ⟨-, hnext⟩ := Option.ite_none_right_eq_some.mp hs
    rw [← Option.some.inj hnext, Requests.load, if_pos hl]
  count_eq := by
    refine ⟨h.count_eq, ?_⟩
    have hlength := h.jobs_perm.length_eq
    rw [List.length_map, List.length_append, List.length_map, List.length_map] at hlength
    rw [hlength, h.count_eq]
    rfl
  jobs_perm := h.jobs_perm
  answer_true id next hs := h.of_answer hs

end Orderly

/-- Whatever conversions are asked for, deferred or not, and in whatever order the calls, the
signal and the jobs take their steps, each build is converted once. -/
theorem once_of_run (settings : MigrationSettings) (steps : List MigrationStep) :
    ((start settings).run steps).Once :=
  ((Orderly.start settings).run steps).served

/-- After the signal, one call marks a build, and another call for the build finds it marked and
returns before the first one has handed over its job. -/
theorem returned_before_handed_over :
    let b : BuildRef := ⟨"p", 1⟩
    let v := (start {}).run [.load 0, .done 0, .defer 1 b, .mark 1, .defer 2 b, .mark 2, .done 2]
    v.state.loaded = true ∧ v.stage 0 = .idle ∧ v.returned = [b] ∧ v.scheduled = [] := by
  decide

/-- Two builds are held back, one of them asked for twice, when the signal comes. A direct call
marks the second one before the release does, and hands over its job when the release has
returned. -/
example :
    let b : BuildRef := ⟨"p", 1⟩
    let c : BuildRef := ⟨"p", 2⟩
    let before := (start {}).run [.defer 0 b, .defer 1 c, .defer 0 b]
    let after := before.run [.load 1, .convert 2 c, .mark 2, .mark 1, .schedule 1, .mark 1, .done 1]
    before.state.held = [b, c] ∧ before.scheduled = [] ∧
    after.released = [b, c] ∧ after.scheduled = [(b, .release)] ∧ after.stage 1 = .idle ∧
    (after.run [.schedule 2]).scheduled = [(b, .release), (c, .direct c)] := by
  decide

end Requests

end BuildTriage
