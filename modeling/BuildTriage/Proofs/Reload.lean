import BuildTriage.Analyzer
import BuildTriage.Proofs.Pool.Sizing

/-!
# Settings and sizes in step

A reload checks the new settings. Then it takes the lock of the settings, so that nobody reads or
changes them, gives the pool its new sizes if that section is another one, and stores the
settings. Nothing else that a host does changes the settings or the sizes, whatever it does
between the steps of a reload. So whenever the settings can be read, the pool has the sizes that
they call for, and only settings that can work are ever stored.
-/

namespace BuildTriage

namespace Pool

variable {τ : Type} {p next : Pool τ}

/-- A task that is taken leaves the sizes. -/
theorem sizes_submit {task : τ} (h : p.submit task = .ok next) : next.sizes = p.sizes := by
  unfold submit at h
  cases hadmission : p.admission with
  | error e => rw [hadmission] at h; cases h
  | ok way =>
    rw [hadmission] at h
    cases way <;> cases h <;> rfl

/-- A move of a worker leaves the sizes. -/
theorem sizes_move {i : Nat} {m : Move} (h : p.move? i m = some next) : next.sizes = p.sizes := by
  obtain ⟨_, _, _, -, -, heffect⟩ := effect_of_move h
  cases heffect <;> rfl

/-- Workers that are left alone leave the sizes. -/
theorem sizes_settleWithin (ends : τ → Bool) (n : Nat) (p : Pool τ) :
    (settleWithin ends n p).2.sizes = p.sizes := by
  induction n generalizing p with
  | zero => rfl
  | succ n ih =>
    unfold settleWithin
    cases p.firstMove ends with
    | none => rfl
    | some first =>
      obtain ⟨i, w, m⟩ := first
      dsimp only
      cases hmove : p.move? i m with
      | none => rfl
      | some next =>
        have hnext : (settleWithin ends n next).2.sizes = p.sizes :=
          (ih next).trans (sizes_move hmove)
        dsimp only
        split <;> exact hnext

/-- A worker that ends its task leaves the sizes. -/
theorem sizes_endTask [BEq τ] (p : Pool τ) (task : τ) : (p.endTask task).sizes = p.sizes := by
  unfold endTask
  dsimp only
  split
  · next i _ =>
    cases hmove : p.move? i .finish with
    | none => rfl
    | some next => exact sizes_move hmove
  · rfl

end Pool

namespace Analyzer

variable {a a' a'' : Analyzer}

/-- The settings and the sizes of the pool are the same. -/
structure Steady (a a' : Analyzer) : Prop where
  /-- The settings. -/
  settings : a'.settings = a.settings
  /-- The sizes. -/
  sizes : a'.pool.sizes = a.pool.sizes

theorem Steady.refl : Steady a a := ⟨rfl, rfl⟩

theorem Steady.trans (h : Steady a a') (h' : Steady a' a'') : Steady a a'' :=
  ⟨h'.settings.trans h.settings, h'.sizes.trans h.sizes⟩

theorem steady_request (a : Analyzer) (build : BuildRef) : Steady a (a.request build).2 := by
  unfold request
  cases hsubmit : a.pool.submit build with
  | error e => exact .refl
  | ok pool => exact ⟨rfl, Pool.sizes_submit hsubmit⟩

theorem steady_requestAll (a : Analyzer) (builds : List BuildRef) :
    Steady a (a.requestAll builds).2 := by
  induction builds generalizing a with
  | nil => exact .refl
  | cons b rest ih => exact (steady_request a b).trans (ih _)

theorem steady_begin (a : Analyzer) (build : BuildRef) : Steady a (a.begin build) := by
  unfold begin
  split
  · exact .refl
  · split
    · exact ⟨rfl, Pool.sizes_endTask a.pool build⟩
    · exact ⟨rfl, rfl⟩

theorem steady_assign (a : Analyzer) : Steady a a.assign := by
  have hrest : ∀ a : Analyzer, Steady a { a with pool := (a.pool.settle fun _ => false).2 } :=
    fun a => ⟨rfl, Pool.sizes_settleWithin _ _ a.pool⟩
  have hbegin : ∀ (builds : List BuildRef) (a : Analyzer), Steady a (builds.foldl begin a) := by
    intro builds
    induction builds with
    | nil => exact fun _ => .refl
    | cons b rest ih => exact fun a => (steady_begin a b).trans (ih _)
  exact (hrest a).trans ((hbegin _ _).trans (hrest _))

theorem steady_finish (h : a.finish? = some a') : Steady a a' := by
  unfold finish? at h
  split at h
  · cases h
  · cases h
    exact ⟨rfl, Pool.sizes_endTask a.pool _⟩

theorem steady_completeWithin (n : Nat) (a : Analyzer) : Steady a (completeWithin n a) := by
  induction n generalizing a with
  | zero => exact steady_assign a
  | succ n ih =>
    unfold completeWithin
    cases hfinish : a.assign.finish? with
    | none => exact steady_assign a
    | some next => exact (steady_assign a).trans ((steady_finish hfinish).trans (ih next))

/-- What a host does apart from taking new settings. -/
inductive Works (a : Analyzer) : Analyzer → Prop where
  /-- A rescan is asked for. -/
  | request (build : BuildRef) : Works a (a.request build).2
  /-- Rescans are asked for. -/
  | requestAll (builds : List BuildRef) : Works a (a.requestAll builds).2
  /-- A worker of the pool makes a move. -/
  | move {pool : Pool BuildRef} {i : Nat} {m : Pool.Move} (h : a.pool.move? i m = some pool) :
    Works a { a with pool := pool }
  /-- A rescan takes the lock of its build. -/
  | begin (build : BuildRef) : Works a (a.begin build)
  /-- The workers take up what they can. -/
  | assign : Works a a.assign
  /-- A rescan is carried through. -/
  | finish {a' : Analyzer} (h : a.finish? = some a') : Works a a'
  /-- All rescans are carried through. -/
  | complete : Works a a.complete
  /-- A step on the builds succeeds. -/
  | step {α : Type} {s : TriageStep α} {answer : α} {a' : Analyzer}
    (h : step s a = .ok answer a') : Works a a'
  /-- A step on the builds fails. -/
  | fail {α : Type} {s : TriageStep α} {e : UnknownBuild} {a' : Analyzer}
    (h : step s a = .error e a') : Works a a'
  /-- The conversion of a build is asked for. -/
  | convert (build : BuildRef) : Works a (a.convert build)
  /-- The builds are loaded. -/
  | onLoaded : Works a a.onLoaded.2
  /-- The conversions are waited for. -/
  | wait (time : Nat) : Works a (a.wait time).2
  /-- The services are stopped. -/
  | stop : Works a a.stop.2

/-- Nothing but a reload changes the settings or the sizes. -/
theorem Works.steady (h : Works a a') : Steady a a' := by
  cases h with
  | request build => exact steady_request a build
  | requestAll builds => exact steady_requestAll a builds
  | move h => exact ⟨rfl, Pool.sizes_move h⟩
  | begin build => exact steady_begin a build
  | assign => exact steady_assign a
  | finish h => exact steady_finish h
  | complete => exact steady_completeWithin _ a
  | step h | fail h =>
    unfold Analyzer.step at h
    split at h <;> cases h
    exact ⟨rfl, rfl⟩
  | convert | onLoaded | wait | stop => exact ⟨rfl, rfl⟩

/-- The host once the pool has the sizes of some settings, if they are others than those that it
has. -/
def resized (a : Analyzer) (new : Settings) : Analyzer :=
  { a with pool := if new.rescan = a.settings.rescan then a.pool else a.pool.resize new.rescan }

/-- Then the sizes are those of the new settings, whether they are others or not. -/
theorem sizes_resized (h : a.pool.sizes = a.settings.rescan.clamped) (new : Settings) :
    (a.resized new).pool.sizes = new.rescan.clamped := by
  by_cases hsame : new.rescan = a.settings.rescan
  · rw [resized, if_pos hsame, h, hsame]
  · rw [resized, if_neg hsame]
    rfl

/-- A reload succeeds if its settings can work; then the pool has its sizes and they are stored. -/
theorem reload_ok_iff {new : Settings} :
    a.reload new = .ok a' ↔ new.check = .ok () ∧ a' = { a.resized new with settings := new } := by
  unfold reload
  cases new.check with
  | error e => exact ⟨nofun, nofun⟩
  | ok u =>
    refine ⟨fun h => ⟨rfl, (Except.ok.inj h).symm⟩, ?_⟩
    rintro ⟨-, rfl⟩
    rfl

/-- A reload fails as its settings do. -/
theorem reload_error_iff {new : Settings} {e : SettingsError} :
    a.reload new = .error e ↔ new.check = .error e := by
  unfold reload
  cases new.check with
  | error e' => exact ⟨fun h => by cases h; rfl, fun h => by cases h; rfl⟩
  | ok u => exact ⟨nofun, nofun⟩

/-- Settings that are stored are reloaded without any effect. -/
theorem reload_stored (h : a.settings.check = .ok ()) : a.reload a.settings = .ok a := by
  have hsame : a.resized a.settings = a := by rw [resized, if_pos rfl]
  rw [reload_ok_iff, hsame]
  exact ⟨h, rfl⟩

end Analyzer

/-- How far a reload is that has the lock of the settings. -/
inductive ReloadStage where
  /-- It has the lock. -/
  | locked (settings : Settings)
  /-- The pool has the sizes of its settings, which it has not stored yet. -/
  | resized (settings : Settings)
  deriving DecidableEq

/-- The settings that a reload brings. -/
def ReloadStage.settings : ReloadStage → Settings
  | .locked settings | .resized settings => settings

/-- A host with the reload that has the lock of the settings, if one has it. -/
structure Operation where
  /-- The host. -/
  host : Analyzer
  /-- The reload. -/
  reload : Option ReloadStage

namespace Operation

variable {v v' : Operation} {a a' : Analyzer} {new : Settings}

/-- The settings as they are read, unless a reload has the lock. -/
def settings? (v : Operation) : Option Settings :=
  match v.reload with
  | none => some v.host.settings
  | some _ => none

/-- The settings that the sizes are taken from. -/
def source (v : Operation) : Settings :=
  match v.reload with
  | some (.resized settings) => settings
  | _ => v.host.settings

/-- What happens next. -/
inductive Step (v : Operation) : Operation → Prop where
  /-- A reload is called with settings that cannot work; it fails. -/
  | refuse {settings : Settings} {e : SettingsError} (h : settings.check = .error e) : Step v v
  /-- A reload whose settings can work takes the lock, which nobody has. -/
  | lock {settings : Settings} (hcheck : settings.check = .ok ()) (hfree : v.reload = none) :
    Step v { v with reload := some (.locked settings) }
  /-- It gives the pool its sizes, if they are others. -/
  | resize {settings : Settings} (h : v.reload = some (.locked settings)) :
    Step v ⟨v.host.resized settings, some (.resized settings)⟩
  /-- It stores the settings and gives the lock back. -/
  | store {settings : Settings} (h : v.reload = some (.resized settings)) :
    Step v ⟨{ v.host with settings := settings }, none⟩
  /-- The host does something else. -/
  | work {a : Analyzer} (h : v.host.Works a) : Step v { v with host := a }

/-- What a host can come to by any steps. -/
inductive Reached (a : Analyzer) : Operation → Prop where
  /-- The host as it was. -/
  | start : Reached a ⟨a, none⟩
  /-- One more step. -/
  | step {v v' : Operation} (h : Reached a v) (hstep : v.Step v') : Reached a v'

/-- The pool has the sizes of the settings, and these can work. -/
structure InStep (v : Operation) : Prop where
  /-- The sizes in force are those of the settings that they are taken from. -/
  sizes : v.host.pool.sizes = v.source.rescan.clamped
  /-- The settings can work. -/
  check : v.host.settings.check = .ok ()
  /-- The settings can work that a reload brings. -/
  check_reload : ∀ r ∈ v.reload, r.settings.check = .ok ()

/-- Every step keeps settings and sizes in step. -/
theorem InStep.step (h : v.InStep) (hstep : v.Step v') : v'.InStep := by
  obtain ⟨hsizes, hcheck, hreload⟩ := h
  cases hstep with
  | refuse => exact ⟨hsizes, hcheck, hreload⟩
  | @lock new hnew hfree =>
    refine ⟨?_, hcheck, ?_⟩
    · rw [source, hfree] at hsizes
      exact hsizes
    · rintro _ ⟨⟩
      exact hnew
  | @resize new hlocked =>
    rw [source, hlocked] at hsizes
    refine ⟨Analyzer.sizes_resized hsizes new, hcheck, ?_⟩
    rintro _ ⟨⟩
    exact (hreload _ hlocked : new.check = .ok ())
  | @store new hresized =>
    rw [source, hresized] at hsizes
    exact ⟨hsizes, hreload _ hresized, fun r h => absurd h (Option.not_mem_none r)⟩
  | @work a hwork =>
    obtain ⟨hsettings, hpool⟩ := hwork.steady
    refine ⟨?_, ?_, hreload⟩
    · have hsource : source { v with host := a } = v.source := by
        unfold source
        rw [hsettings]
      rw [hsource, ← hsizes]
      exact hpool
    · rw [← hsettings] at hcheck
      exact hcheck

/-- Settings and sizes are in step at the start. -/
theorem InStep.start {settings : Settings} {kb : KnowledgeBase}
    (h : Analyzer.start settings kb = .ok a) : InStep ⟨a, none⟩ := by
  unfold Analyzer.start at h
  cases hcheck : settings.check with
  | error e => rw [hcheck] at h; cases h
  | ok u =>
    rw [hcheck] at h
    cases h
    exact ⟨rfl, hcheck, fun r h => absurd h (Option.not_mem_none r)⟩

/-- Settings and sizes that are in step at the start stay so. -/
theorem Reached.inStep (h : Reached a v) (hstart : InStep ⟨a, none⟩) : v.InStep := by
  induction h with
  | start => exact hstart
  | step _ hstep ih => exact ih.step hstep

/-- A reload without a break is three steps. -/
theorem Reached.reload (h : Reached a v) (hfree : v.reload = none)
    (hreload : v.host.reload new = .ok a') : Reached a ⟨a', none⟩ := by
  obtain ⟨hcheck, rfl⟩ := Analyzer.reload_ok_iff.mp hreload
  have hlock := h.step (.lock hcheck hfree)
  have hresize := hlock.step (.resize rfl)
  exact hresize.step (.store rfl)

/-- Whatever reloads a host gets, with whatever settings, and whatever else it does between their
steps: whenever the settings can be read, the sizes of the pool in force are exactly theirs,
raised to their floors, and at any time they allow for a worker, for no fewer than stay, and for
a task that waits. A reload fails if its settings cannot work, and then it changes nothing. If it
succeeds, its settings are the settings, the sizes are theirs, and everything else is as it was;
the same reload once more changes nothing. -/
theorem reload_keeps_step {settings : Settings} {kb : KnowledgeBase}
    (hstart : Analyzer.start settings kb = .ok a) (hv : Reached a v) :
    (∀ read, v.settings? = some read → v.host.pool.sizes = read.rescan.clamped) ∧
    (1 ≤ v.host.pool.minWorkers ∧ v.host.pool.minWorkers ≤ v.host.pool.maxWorkers ∧
      1 ≤ v.host.pool.capacity) ∧
    (∀ new e, v.host.reload new = .error e ↔ new.check = .error e) ∧
    (v.reload = none → v.host.reload v.host.settings = .ok v.host ∧
      ∀ new, new.check = .ok () → ∃ a', v.host.reload new = .ok a' ∧ Reached a ⟨a', none⟩ ∧
        a'.settings = new ∧ a'.pool.sizes = new.rescan.clamped ∧
        a' = { v.host with settings := new, pool := a'.pool } ∧
        (new.rescan = v.host.settings.rescan → a'.pool = v.host.pool) ∧
        a'.reload new = .ok a') := by
  obtain ⟨hsizes, hcheck, -⟩ : v.InStep := hv.inStep (.start hstart)
  refine ⟨fun read hread => ?_, ?_, fun new e => Analyzer.reload_error_iff, fun hfree => ?_⟩
  · cases hreload : v.reload with
    | some r =>
      rw [settings?, hreload] at hread
      cases hread
    | none =>
      rw [settings?, hreload] at hread
      rw [source, hreload] at hsizes
      rw [← Option.some.inj hread]
      exact hsizes
  · rw [Pool.minWorkers, Pool.maxWorkers, Pool.capacity, hsizes]
    exact v.source.rescan.clamped_sizes
  · rw [source, hfree] at hsizes
    refine ⟨Analyzer.reload_stored hcheck, fun new hnew => ?_⟩
    have hreload : v.host.reload new = .ok { v.host.resized new with settings := new } :=
      Analyzer.reload_ok_iff.mpr ⟨hnew, rfl⟩
    refine ⟨_, hreload, hv.reload hfree hreload, rfl, Analyzer.sizes_resized hsizes new, rfl,
      fun hsame => if_pos hsame, ?_⟩
    exact Analyzer.reload_stored (a := { v.host.resized new with settings := new }) hnew

/-- Settings with more workers. -/
def moreWorkers : Settings := { rescan := { maxWorkers := 9 } }

/-- A host that begins with the settings by default. -/
def sampleHost : Analyzer :=
  ⟨{}, .start {} (.ofFile .inMemory) "local", .ofSettings {}, [], .start {}⟩

/-- A reload has given the pool more workers, a rescan has been asked for, and then the settings
have been stored. -/
def reloaded : Operation :=
  ⟨{ ((sampleHost.resized moreWorkers).request ⟨"p", 1⟩).2 with settings := moreWorkers }, none⟩

theorem reload_keeps_step_reloaded :
    Analyzer.start {} (.ofFile .inMemory) = .ok sampleHost ∧ Reached sampleHost reloaded ∧
    reloaded.host.pool.workers = 1 ∧ reloaded.host.pool.maxWorkers = 9 ∧
    reloaded.host.pool.sizes = moreWorkers.rescan.clamped ∧
    reloaded.host.reload moreWorkers = .ok reloaded.host := by
  have hstart : Analyzer.start {} (.ofFile .inMemory) = .ok sampleHost := rfl
  have hresized :
      Reached sampleHost ⟨sampleHost.resized moreWorkers, some (.resized moreWorkers)⟩ :=
    (Reached.start.step (.lock rfl rfl)).step (.resize rfl)
  have hreached : Reached sampleHost reloaded :=
    (hresized.step (.work (.request ⟨"p", 1⟩))).step (.store rfl)
  obtain ⟨hsizes, -, -, hreload⟩ := reload_keeps_step hstart hreached
  exact ⟨hstart, hreached, rfl, rfl, hsizes moreWorkers rfl, (hreload rfl).1⟩

end Operation

end BuildTriage
