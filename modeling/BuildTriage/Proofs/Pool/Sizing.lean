import Mathlib.Algebra.Order.BigOperators.Group.List
import Mathlib.Algebra.Order.Group.Nat
import BuildTriage.Proofs.Pool.Conservation
import BuildTriage.Proofs.Words

/-!
# How many workers a pool has

A pool hires a worker when nobody is idle for a task and there may be one more, and lets one go
when nothing waits. So tasks wait beyond what the workers can take only while there are as many
workers as there may be. All of it follows from one inequality between the counters, which each
change of the pool keeps, new sizes included. A worker that is refused its thread breaks it: its
place is given back while tasks wait.
-/

namespace BuildTriage

/-- Whether a worker is refused its thread. -/
def PoolEvent.refuses {τ : Type} : PoolEvent τ → Bool
  | .move _ .refuse => true
  | _ => false

/-- Sizes in force allow for one worker at least, for no fewer than stay, and for one task that
waits. -/
theorem RescanSettings.clamped_sizes (s : RescanSettings) :
    0 < s.clamped.minWorkers.toNat ∧
      s.clamped.minWorkers.toNat ≤ s.clamped.maxWorkers.toNat ∧
      0 < s.clamped.queueCapacity.toNat :=
  ⟨UInt64.le_iff_toNat_le.mp (le_max_word s.minWorkers 1),
    UInt64.le_iff_toNat_le.mp (le_max_word s.maxWorkers s.clamped.minWorkers),
    UInt64.le_iff_toNat_le.mp (le_max_word s.queueCapacity 1)⟩

namespace Pool

variable {τ : Type}

section Admission

variable {p : Pool τ}

/-- A task goes to the queue if somebody is idle for it, or if there are enough workers and
there is room. -/
theorem queue_of_admission (h : p.admission = .ok .queue) : p.closed = false ∧
    (p.queue.length < p.idle ∨ p.maxWorkers ≤ p.workers ∧ p.queue.length < p.capacity) := by
  have hopen := open_of_admission h
  unfold admission at h
  rw [if_neg (Bool.eq_false_iff.mp hopen)] at h
  split at h
  · next hidle => exact ⟨hopen, .inl hidle⟩
  · split at h
    · exact absurd h nofun
    · next hworkers =>
      split at h
      · next hroom => exact ⟨hopen, .inr ⟨Nat.le_of_not_lt hworkers, hroom⟩⟩
      · exact absurd h nofun

/-- A task goes to a new worker if there may be one more. -/
theorem worker_of_admission (h : p.admission = .ok .worker) : p.workers < p.maxWorkers := by
  have hopen := open_of_admission h
  unfold admission at h
  rw [if_neg (Bool.eq_false_iff.mp hopen)] at h
  split at h
  · exact absurd h nofun
  · split at h
    · next hworkers => exact hworkers
    · split at h <;> exact absurd h nofun

/-- A pool that is not closed refuses a task exactly when nobody is idle for it, there are as
many workers as there may be and the queue is full. -/
theorem submit_saturated_iff (hopen : p.closed = false) (task : τ) (workers queued : Nat) :
    p.submit task = .error (.saturated workers queued) ↔
      (p.idle ≤ p.queue.length ∧ p.maxWorkers ≤ p.workers ∧ p.capacity ≤ p.queue.length) ∧
      workers = p.workers ∧ queued = p.queue.length := by
  have hsubmit : p.submit task = .error (.saturated workers queued) ↔
      p.admission = .error (.saturated workers queued) := by
    unfold submit
    cases p.admission with
    | ok a => exact ⟨nofun, nofun⟩
    | error e => rw [Except.map, Except.error.injEq, Except.error.injEq]
  rw [hsubmit]
  unfold admission
  rw [if_neg (Bool.eq_false_iff.mp hopen)]
  by_cases hidle : p.queue.length < p.idle
  · rw [if_pos hidle]
    exact ⟨nofun, fun h => absurd h.1.1 (Nat.not_le.mpr hidle)⟩
  · rw [if_neg hidle]
    by_cases hworkers : p.workers < p.maxWorkers
    · rw [if_pos hworkers]
      exact ⟨nofun, fun h => absurd h.1.2.1 (Nat.not_le.mpr hworkers)⟩
    · rw [if_neg hworkers]
      by_cases hroom : p.queue.length < p.capacity
      · rw [if_pos hroom]
        exact ⟨nofun, fun h => absurd h.1.2.2 (Nat.not_le.mpr hroom)⟩
      · rw [if_neg hroom, Except.error.injEq, Rejection.saturated.injEq]
        constructor
        · rintro ⟨rfl, rfl⟩
          exact ⟨⟨Nat.le_of_not_lt hidle, Nat.le_of_not_lt hworkers, Nat.le_of_not_lt hroom⟩,
            rfl, rfl⟩
        · rintro ⟨-, rfl, rfl⟩
          exact ⟨rfl, rfl⟩

end Admission

/-- What can become of a pool whose workers get their threads. -/
inductive Change (p : Pool τ) : Pool τ → Prop where
  /-- A task is refused. -/
  | stays : Change p p
  /-- A task goes to the queue. -/
  | enqueue (task : τ) (h : p.admission = .ok .queue) : Change p (p.enqueue task)
  /-- A task goes to a new worker. -/
  | hire (task : τ) (h : p.admission = .ok .worker) : Change p (p.hire task)
  /-- A worker makes a move. -/
  | move {next : Pool τ} (i : Nat) (m : Move) (hm : m ≠ .refuse) (h : p.move? i m = some next) :
    Change p next
  /-- The sizes are changed. -/
  | resize (s : RescanSettings) : Change p (p.resize s)
  /-- A shutdown begins. -/
  | close : Change p p.close
  /-- A shutdown ends. -/
  | giveUp : Change p p.giveUp

/-- A worker has a task or waits, and not both. -/
theorem tasks_add_waits_le (w : Worker τ) : w.tasks + w.waits ≤ 1 := by
  cases w with
  | starting first => cases first <;> simp [Worker.tasks, Worker.waits]
  | running t => exact Nat.le_refl 1
  | looking => exact Nat.zero_le 1
  | parked timed => exact Nat.le_refl 1
  | woken timed => exact Nat.le_refl 1

/-- Some workers have a task, others wait. -/
theorem Counted.active_add_idle_le {p : Pool τ} (h : p.Counted) :
    p.active + p.idle ≤ p.workers := by
  rw [h.workers_eq, h.idle_eq, h.active_eq]
  induction p.staff with
  | nil => exact Nat.le_refl 0
  | cons w rest ih =>
    have hone := tasks_add_waits_le w
    simp only [List.map_cons, List.sum_cons, List.length_cons]
    omega

/-- What a worker counts for is counted. -/
theorem Counted.covered {p : Pool τ} (h : p.Counted) {w : Worker τ} (hw : w ∈ p.staff) :
    0 < p.workers ∧ w.waits ≤ p.idle ∧ w.tasks ≤ p.active := by
  rw [h.workers_eq, h.idle_eq, h.active_eq]
  exact ⟨List.length_pos_of_mem hw, List.le_sum_of_mem (List.mem_map_of_mem hw),
    List.le_sum_of_mem (List.mem_map_of_mem hw)⟩

/-- What each change of a pool keeps. -/
structure Sized (p : Pool τ) : Prop where
  /-- The counters are right. -/
  counted : p.Counted
  /-- There may be a worker. -/
  max_pos : 0 < p.maxWorkers
  /-- Tasks wait in vain only if there are as many workers as there may be. -/
  conserving : p.workers < p.queue.length + p.active → p.maxWorkers ≤ p.workers

namespace Sized

variable {p next : Pool τ}

/-- A pool without workers has no tasks. -/
theorem ofSettings (s : RescanSettings) : (Pool.ofSettings s : Pool τ).Sized where
  counted := .ofSettings s
  max_pos := s.clamped_sizes.1.trans_le s.clamped_sizes.2.1
  conserving h := absurd h (Nat.lt_irrefl 0)

/-- A task that waits has somebody idle for it, or there are enough workers. -/
theorem enqueue (h : p.Sized) (task : τ) (ha : p.admission = .ok .queue) :
    (p.enqueue task).Sized where
  counted := h.counted.enqueue task
  max_pos := h.max_pos
  conserving hless := by
    have hfree := h.counted.active_add_idle_le
    have hmore : p.workers < p.queue.length + 1 + p.active := by
      rw [Pool.enqueue, List.length_append, List.length_singleton] at hless
      exact hless
    rcases (queue_of_admission ha).2 with hidle | ⟨hworkers, -⟩
    · omega
    · exact hworkers

/-- A new worker has its own task. -/
theorem hire (h : p.Sized) (task : τ) : (p.hire task).Sized where
  counted := h.counted.hire task
  max_pos := h.max_pos
  conserving hless := by
    have hbefore : p.workers < p.queue.length + p.active := by
      simp only [Pool.hire] at hless
      omega
    exact Nat.le_succ_of_le (h.conserving hbefore)

/-- With new sizes there are workers for all tasks that wait, or as many as there may be. -/
theorem resize (h : p.Sized) (hqueue : p.closed = true → p.queue = []) (s : RescanSettings) :
    (p.resize s).Sized where
  counted := h.counted.resize s
  max_pos := s.clamped_sizes.1.trans_le s.clamped_sizes.2.1
  conserving hless := by
    have hfree := h.counted.active_add_idle_le
    let resized : Pool τ := { p with sizes := s.clamped }
    have hmore : p.workers + resized.wanted < p.queue.length + p.active := hless
    change resized.maxWorkers ≤ p.workers + resized.wanted
    cases hclosed : p.closed with
    | true =>
      rw [hqueue hclosed, List.length_nil] at hmore
      omega
    | false =>
      have hwanted : resized.wanted =
          min (p.queue.length - p.idle) (resized.maxWorkers - p.workers) :=
        if_neg (Bool.eq_false_iff.mp hclosed)
      omega

/-- A closed pool has nothing that waits. -/
theorem close (h : p.Sized) : p.close.Sized where
  counted := h.counted.close
  max_pos := h.max_pos
  conserving hless := by
    have hfree := h.counted.active_add_idle_le
    have hmore : p.workers < 0 + p.active := hless
    omega

theorem giveUp (h : p.Sized) : p.giveUp.Sized := ⟨h.counted.giveUp, h.max_pos, h.conserving⟩

/-- A move of a worker that has a thread makes no more tasks wait, and none leaves while tasks
wait. -/
theorem effect {front back : List (Worker τ)} {w : Worker τ} {m : Move} (h : p.Sized)
    (hsplit : p.staff = front ++ w :: back) (he : Effect p front back w m next)
    (hm : m ≠ .refuse) : next.Sized := by
  have hcounted := h.counted.effect hsplit he
  have hfree := hcounted.active_add_idle_le
  cases he with
  | begin t => exact ⟨hcounted, h.max_pos, h.conserving⟩
  | rise => exact ⟨hcounted, h.max_pos, h.conserving⟩
  | refuse first => exact absurd rfl hm
  | finish t =>
    refine ⟨hcounted, h.max_pos, fun hless => h.conserving ?_⟩
    have hmore : p.workers < p.queue.length + (p.active - 1) := hless
    omega
  | take t rest hw hq =>
    refine ⟨hcounted, h.max_pos, fun hless => h.conserving ?_⟩
    have hmore : p.workers < rest.length + (p.active + 1) := hless
    rw [hq, List.length_cons]
    omega
  | leave hw hq =>
    refine ⟨hcounted, h.max_pos, fun hless => ?_⟩
    have hmore : p.workers - 1 < p.queue.length + p.active := hless
    have hactive : p.active + (p.idle - w.waits) ≤ p.workers - 1 := hfree
    rw [hq, List.length_nil] at hmore
    omega
  | park timed hw hq => exact ⟨hcounted, h.max_pos, h.conserving⟩

/-- Each change keeps the sizes of a pool in order. -/
theorem change (h : p.Sized) (hqueue : p.closed = true → p.queue = []) (hc : p.Change next) :
    next.Sized := by
  cases hc with
  | stays => exact h
  | enqueue task ha => exact h.enqueue task ha
  | hire task ha => exact h.hire task
  | move i m hm hmove =>
    obtain ⟨front, w, back, -, hsplit, he⟩ := effect_of_move hmove
    exact h.effect hsplit he hm
  | resize s => exact h.resize hqueue s
  | close => exact h.close
  | giveUp => exact h.giveUp

end Sized

/-- A worker that looks for work leaves if nothing waits and it has to. -/
theorem cause_of_look {p : Pool τ} {i : Nat} (h : (p.look i).workers < p.workers) :
    p.queue = [] ∧ (p.closed = true ∨ p.maxWorkers < p.workers) := by
  cases hq : p.queue with
  | nil =>
    refine ⟨rfl, ?_⟩
    by_contra hstay
    rw [look_of_stay hq hstay] at h
    exact Nat.lt_irrefl _ h
  | cons t rest =>
    rw [look_of_cons hq] at h
    exact absurd h (Nat.lt_irrefl _)

/-- A worker whose time is up leaves if nothing waits and it need not stay, and else as one that
looks for work. -/
theorem cause_of_expire {p next gone : Pool τ} {i : Nat}
    (h : (if p.queue.isEmpty ∧ p.minWorkers < p.workers then some gone
      else some (look { p with idle := p.idle - 1 } i)) = some next)
    (hless : next.workers < p.workers) : p.queue = [] ∧
      (p.closed = true ∨ p.maxWorkers < p.workers ∨
        Move.expire = .expire ∧ p.minWorkers < p.workers) := by
  split at h
  · next hgo => exact ⟨List.isEmpty_iff.mp hgo.1, .inr (.inr ⟨rfl, hgo.2⟩)⟩
  · rw [← Option.some.inj h] at hless
    obtain ⟨hqueue, hcause⟩ := cause_of_look (p := { p with idle := p.idle - 1 }) hless
    exact ⟨hqueue, hcause.imp_right .inl⟩

/-- A worker that has its thread leaves if nothing waits and the pool is closed, or has too many
workers, or the time of a worker that need not stay is up. -/
theorem cause_of_move {p next : Pool τ} {i : Nat} {m : Move} (h : p.move? i m = some next)
    (hm : m ≠ .refuse) (hless : next.workers < p.workers) : p.queue = [] ∧
      (p.closed = true ∨ p.maxWorkers < p.workers ∨ m = .expire ∧ p.minWorkers < p.workers) := by
  have hlook : ∀ {n : Nat}, (look { p with idle := n } i).workers < p.workers →
      p.queue = [] ∧ (p.closed = true ∨ p.maxWorkers < p.workers ∨
        m = .expire ∧ p.minWorkers < p.workers) := by
    intro n hleft
    obtain ⟨hqueue, hcause⟩ := cause_of_look (p := { p with idle := n }) hleft
    exact ⟨hqueue, hcause.imp_right .inl⟩
  unfold move? at h
  split at h
  · rw [← Option.some.inj h] at hless
    exact absurd hless (Nat.lt_irrefl _)
  · rw [← Option.some.inj h] at hless
    exact absurd hless (Nat.lt_irrefl _)
  · exact absurd rfl hm
  · rw [← Option.some.inj h] at hless
    exact absurd hless (Nat.lt_irrefl _)
  · rw [← Option.some.inj h] at hless
    exact hlook (n := p.idle) hless
  · rw [← Option.some.inj h] at hless
    exact hlook hless
  · rw [← Option.some.inj h] at hless
    exact hlook hless
  · exact cause_of_expire h hless
  · exact cause_of_expire h hless
  · exact absurd h nofun

/-- What is true of the sizes of a pool at every moment. -/
structure InSize (p : Pool τ) : Prop where
  /-- The counters are the numbers of workers, of those that wait and of those with a task. -/
  counted : p.Counted
  /-- Some workers have a task, others wait. -/
  free_le : p.active + p.idle ≤ p.workers
  /-- What a move of a worker takes from a counter has been counted. -/
  covered : ∀ w ∈ p.staff, 0 < p.workers ∧ w.waits ≤ p.idle ∧ w.tasks ≤ p.active
  /-- There are tasks beyond what the workers can take only if there are as many workers as there
  may be. -/
  conserving : p.workers < p.queue.length + p.active → p.maxWorkers ≤ p.workers
  /-- Where a task waits there is a worker. -/
  attended : p.queue ≠ [] → 0 < p.workers
  /-- A pool that is not closed is saturated exactly when nobody is idle for one more task, there
  are as many workers as there may be and the queue is full. -/
  saturated_iff : p.closed = false → ∀ task workers queued,
    p.submit task = .error (.saturated workers queued) ↔
      (p.idle ≤ p.queue.length ∧ p.maxWorkers ≤ p.workers ∧ p.capacity ≤ p.queue.length) ∧
      workers = p.workers ∧ queued = p.queue.length

/-- What is true of the workers that come and go with a change of a pool. -/
structure Turnover (p next : Pool τ) : Prop where
  /-- If some come, there are no more than there may be then. -/
  come : p.workers < next.workers → next.workers ≤ next.maxWorkers
  /-- One goes by a move of its own, when nothing waits and the pool is closed, or has too many
  workers, or the time of a worker that need not stay is up. -/
  go : next.workers < p.workers → p.queue = [] ∧ ∃ i m, p.move? i m = some next ∧
    (p.closed = true ∨ p.maxWorkers < p.workers ∨ m = .expire ∧ p.minWorkers < p.workers)

/-- A pool with sizes in order. -/
theorem Sized.inSize {p : Pool τ} (h : p.Sized) : p.InSize where
  counted := h.counted
  free_le := h.counted.active_add_idle_le
  covered _ hw := h.counted.covered hw
  conserving := h.conserving
  attended hqueue := by
    have hwaits := List.length_pos_of_ne_nil hqueue
    have hmax := h.max_pos
    have hconserving := h.conserving
    omega
  saturated_iff hopen := submit_saturated_iff hopen

/-- No move lets a worker come. -/
theorem Effect.workers_le {p next : Pool τ} {front back : List (Worker τ)} {w : Worker τ}
    {m : Move} (h : Effect p front back w m next) : next.workers ≤ p.workers := by
  cases h with
  | begin t => exact Nat.le_refl _
  | rise => exact Nat.le_refl _
  | refuse first => exact Nat.sub_le _ _
  | finish t => exact Nat.le_refl _
  | take t rest hw hq => exact Nat.le_refl _
  | leave hw hq => exact Nat.sub_le _ _
  | park timed hw hq => exact Nat.le_refl _

/-- No more workers come for new sizes than there may be then. -/
theorem wanted_le {p : Pool τ} (h : p.workers < p.workers + p.wanted) :
    p.workers + p.wanted ≤ p.maxWorkers := by
  unfold wanted at h ⊢
  split at h
  · exact absurd h (Nat.lt_irrefl _)
  · next hopen =>
    rw [if_neg hopen]
    omega

/-- A change that lets no worker come or go. -/
theorem turnover_of_eq {p next : Pool τ} (h : next.workers = p.workers) : p.Turnover next where
  come hless := absurd h.symm (Nat.ne_of_lt hless)
  go hless := absurd h (Nat.ne_of_lt hless)

/-- Workers come and go for a reason. -/
theorem Change.turnover {p next : Pool τ} (h : p.Change next) : p.Turnover next := by
  cases h with
  | stays => exact turnover_of_eq rfl
  | enqueue task ha => exact turnover_of_eq rfl
  | hire task ha =>
    refine ⟨fun _ => worker_of_admission ha, fun hless => ?_⟩
    exact absurd hless (Nat.not_lt.mpr (Nat.le_succ p.workers))
  | move i m hm hmove =>
    refine ⟨fun hless => ?_, fun hless => ?_⟩
    · obtain ⟨front, w, back, -, hsplit, he⟩ := effect_of_move hmove
      exact absurd hless (Nat.not_lt.mpr he.workers_le)
    · obtain ⟨hqueue, hcause⟩ := cause_of_move hmove hm hless
      exact ⟨hqueue, i, m, hmove, hcause⟩
  | resize s =>
    have hgrown : (p.resize s).workers = p.workers + wanted { p with sizes := s.clamped } := rfl
    refine ⟨fun hless => ?_, fun hless => ?_⟩
    · rw [hgrown] at hless ⊢
      exact wanted_le (p := { p with sizes := s.clamped }) hless
    · rw [hgrown] at hless
      omega
  | close => exact turnover_of_eq rfl
  | giveUp => exact turnover_of_eq rfl

end Pool

namespace Ledger

variable {τ : Type}

/-- An event changes the pool, if no worker is refused its thread. -/
theorem change_of_step {r next : Ledger τ} {e : PoolEvent τ} (h : r.step e = some next)
    (he : e.refuses = false) : r.pool.Change next.pool := by
  cases e with
  | submit task =>
    rw [← Option.some.inj h]
    unfold submit Pool.submit
    cases ha : r.pool.admission with
    | ok a =>
      cases a with
      | queue => exact .enqueue _ ha
      | worker => exact .hire _ ha
    | error e => exact .stays
  | move i m =>
    obtain ⟨pool, hmove, w, -, rfl⟩ := step_move h
    rw [(moved_eq r pool m w).1]
    refine .move i m (fun hm => ?_) hmove
    rw [hm] at he
    exact absurd he nofun
  | resize s =>
    rw [← Option.some.inj h]
    exact .resize s
  | close =>
    rw [← Option.some.inj h]
    exact .close
  | giveUp call =>
    obtain ⟨dropped, -, rfl⟩ := Option.map_eq_some_iff.mp h
    exact .giveUp

/-- Any run of events keeps the sizes of the pool in order, if no worker is refused its thread. -/
theorem run_sized {r last : Ledger τ} (h : r.Balanced) (hsized : r.pool.Sized)
    {events : List (PoolEvent τ)} (hthreads : ∀ e ∈ events, e.refuses = false)
    (hrun : r.run events = some last) : last.pool.Sized := by
  induction events generalizing r with
  | nil =>
    rw [← Option.some.inj hrun]
    exact hsized
  | cons e rest ih =>
    obtain ⟨next, hstep, hrest⟩ := Option.bind_eq_some_iff.mp hrun
    have hchange := change_of_step hstep (hthreads e List.mem_cons_self)
    exact ih (h.step hstep) (hsized.change h.queue_of_closed hchange)
      (fun e he => hthreads e (List.mem_cons_of_mem _ he)) hrest

/-- Whatever happens to a pool and in whatever order, if no worker is refused its thread: the
counters are right, tasks wait beyond what the workers can take only while there are as many
workers as there may be, and workers come and go for a reason. -/
theorem sizes_in_order (s : RescanSettings) {events : List (PoolEvent τ)}
    (hthreads : ∀ e ∈ events, e.refuses = false) {r : Ledger τ}
    (h : (opened s).run events = some r) :
    r.pool.InSize ∧ ∀ e next, e.refuses = false → r.step e = some next →
      r.pool.Turnover next.pool :=
  ⟨(run_sized (Balanced.opened s) (.ofSettings s) hthreads h).inSize,
    fun _ _ he hstep => (change_of_step hstep he).turnover⟩

/-- Two workers are at work and a task waits, so that the pool is saturated; then there may be
one worker more, and one comes for the task that waits. -/
theorem sizes_in_order_saturated :
    let events : List (PoolEvent Nat) := [.submit 10, .move 0 .begin, .submit 11,
      .move 1 .begin, .submit 12]
    let grow : PoolEvent Nat := .resize { maxWorkers := 3, queueCapacity := 1 }
    ∃ r next : Ledger Nat, (∀ e ∈ events, e.refuses = false) ∧
      (opened { maxWorkers := 2, queueCapacity := 1 }).run events = some r ∧
      grow.refuses = false ∧ r.step grow = some next ∧
      r.pool.submit (3, 13) = .error (.saturated 2 1) ∧
      r.pool.workers = 2 ∧ next.pool.workers = 3 ∧
      r.pool.InSize ∧ r.pool.Turnover next.pool := by
  intro events grow
  have hthreads : ∀ e ∈ events, e.refuses = false := by simp [events, PoolEvent.refuses]
  refine ⟨_, _, hthreads, rfl, rfl, rfl, rfl, rfl, rfl, ?_⟩
  obtain ⟨hsize, hturnover⟩ := @sizes_in_order Nat { maxWorkers := 2, queueCapacity := 1 } events
    hthreads _ rfl
  exact ⟨hsize, hturnover grow _ rfl rfl⟩

end Ledger

end BuildTriage
