import BuildTriage.Proofs.Pool.Counters

/-!
# What becomes of the tasks of a pool

A ledger runs a pool and writes down what becomes of each task. Every task that is handed to
the pool gets a number of its own. It is refused, or it goes into the queue or to a new
worker; from the queue it is taken by a worker, or dropped when the pool is closed; and a
worker begins it and ends it. One invariant says that nothing else can become of a task, and
that the counts of the pool agree with the ledger; every event keeps it, in any order.
-/

namespace BuildTriage

open Pool (Move)

/-- A pool with what became of its tasks. -/
structure Ledger (τ : Type) where
  /-- The pool. -/
  pool : Pool (Nat × τ)
  /-- How many tasks were handed to the pool. -/
  issued : Nat
  /-- The tasks that went into the queue, in order. -/
  queued : List (Nat × τ)
  /-- The tasks that were taken from the queue, in the order in which they were started. -/
  taken : List (Nat × τ)
  /-- The tasks that new workers have begun with. -/
  begun : List (Nat × τ)
  /-- The tasks that have ended, in whatever way. -/
  finished : List (Nat × τ)
  /-- The tasks that were dropped from the queue. -/
  dropped : List (Nat × τ)
  /-- The tasks that were refused. -/
  rejected : List (Nat × τ)
  /-- How many tasks each shutdown has dropped that still waits for the running ones. -/
  closing : List Nat
  /-- What the other shutdowns have reported. -/
  reports : List PoolReport

/-- What can happen to a pool. -/
inductive PoolEvent (τ : Type) where
  /-- A task is handed to it. -/
  | submit (task : τ)
  /-- The worker at a place makes a move. -/
  | move (worker : Nat) (m : Move)
  /-- Its sizes are changed. -/
  | resize (s : RescanSettings)
  /-- A shutdown begins. -/
  | close
  /-- A shutdown ends, because no task is running or its time is up. -/
  | giveUp (call : Nat)

namespace Ledger

variable {τ : Type}

/-- The ledger of a pool that has just been made. -/
def opened (s : RescanSettings) : Ledger τ := ⟨.ofSettings s, 0, [], [], [], [], [], [], [], []⟩

/-- The tasks that have been started. -/
def started (r : Ledger τ) : List (Nat × τ) := r.taken ++ r.begun

/-- The tasks that were taken on: they went into the queue, or a new worker begins with them
or has done so. -/
def accepted (r : Ledger τ) : List (Nat × τ) := r.queued ++ r.begun ++ r.pool.starting

/-- How many tasks the shutdowns have dropped. -/
def droppedCount (r : Ledger τ) : Nat := (r.reports.map (·.dropped)).sum + r.closing.sum

/-- A task is handed to the pool, under the next number. -/
def submit (r : Ledger τ) (task : τ) : Ledger τ :=
  let t := (r.issued, task)
  match r.pool.submit t, r.pool.admission with
  | .ok pool, .ok .queue =>
    { r with pool := pool, issued := r.issued + 1, queued := r.queued ++ [t] }
  | .ok pool, _ => { r with pool := pool, issued := r.issued + 1 }
  | .error _, _ => { r with issued := r.issued + 1, rejected := r.rejected ++ [t] }

/-- A worker has made a move: a new one has begun or was refused, one at work has ended its
task, and any other has taken the first task that waits, if there is one. -/
def moved (r : Ledger τ) (pool : Pool (Nat × τ)) (m : Move) : Worker (Nat × τ) → Ledger τ
  | .starting first =>
    if m = .refuse then { r with pool := pool, rejected := r.rejected ++ first.toList }
    else { r with pool := pool, begun := r.begun ++ first.toList }
  | .running t => { r with pool := pool, finished := r.finished ++ [t] }
  | .looking | .parked _ | .woken _ =>
    { r with pool := pool, taken := r.taken ++ r.pool.queue.take 1 }

/-- A shutdown begins: the queue is dropped. -/
def close (r : Ledger τ) : Ledger τ :=
  { r with
    pool := r.pool.close
    dropped := r.dropped ++ r.pool.queue
    closing := r.closing ++ [r.pool.queue.length] }

/-- A shutdown that has dropped some tasks ends with its report. -/
def giveUp (r : Ledger τ) (call dropped : Nat) : Ledger τ :=
  { r with
    pool := r.pool.giveUp
    closing := r.closing.eraseIdx call
    reports := r.reports ++ [⟨dropped, r.pool.active⟩] }

/-- What an event does, if it can happen. -/
def step (r : Ledger τ) : PoolEvent τ → Option (Ledger τ)
  | .submit task => some (r.submit task)
  | .move i m => do return r.moved (← r.pool.move? i m) m (← r.pool.staff[i]?)
  | .resize s => some { r with pool := r.pool.resize s }
  | .close => some r.close
  | .giveUp call => r.closing[call]?.map (r.giveUp call)

/-- What some events do, one after the other, if they can happen. -/
def run : Ledger τ → List (PoolEvent τ) → Option (Ledger τ)
  | r, [] => some r
  | r, e :: rest => do (← r.step e).run rest

/-- The ledger agrees with the pool, and no task is lost or counted twice. -/
structure Balanced (r : Ledger τ) : Prop where
  /-- The counters of the pool are right. -/
  counted : r.pool.Counted
  /-- The queue is left in order: its tasks are taken, wait, or were dropped. -/
  queued_eq : r.queued = r.taken ++ r.pool.queue ++ r.dropped
  /-- The tasks that have been started are running or have ended. -/
  started_perm : r.started.Perm (r.finished ++ r.pool.running)
  /-- Each number was given to one task, which was accepted or refused. -/
  issued_perm : ((r.accepted ++ r.rejected).map (·.1)).Perm (List.range r.issued)
  /-- No task waits after a shutdown has begun. -/
  queue_of_closed : r.pool.closed = true → r.pool.queue = []
  /-- Nothing is dropped before. -/
  dropped_of_open : r.pool.closed = false → r.dropped = []
  /-- The pool is closed by shutdowns only. -/
  closed_iff : r.pool.closed = true ↔ r.closing ≠ [] ∨ r.reports ≠ []
  /-- The shutdowns count what they have dropped. -/
  dropped_length : r.dropped.length = r.droppedCount
  /-- The tasks are asked to stop when a shutdown has left some behind. -/
  cancelled_iff : r.pool.cancelled = true ↔ ∃ report ∈ r.reports, 0 < report.stragglers

namespace Balanced

variable {r : Ledger τ}

/-- A new ledger is balanced. -/
theorem opened (s : RescanSettings) : (Ledger.opened s : Ledger τ).Balanced where
  counted := .ofSettings s
  queued_eq := rfl
  started_perm := List.Perm.nil
  issued_perm := List.Perm.nil
  queue_of_closed _ := rfl
  dropped_of_open _ := rfl
  closed_iff := by simp [Ledger.opened, Pool.ofSettings]
  dropped_length := rfl
  cancelled_iff := by simp [Ledger.opened, Pool.ofSettings]

/-- A task that goes into the queue is accepted. -/
theorem enqueue (h : r.Balanced) (task : τ) (hopen : r.pool.closed = false) :
    Balanced { r with
      pool := r.pool.enqueue (r.issued, task)
      issued := r.issued + 1
      queued := r.queued ++ [(r.issued, task)] } where
  counted := h.counted.enqueue _
  queued_eq := by
    have hqueued := h.queued_eq
    rw [h.dropped_of_open hopen, List.append_nil] at hqueued
    simp [Pool.enqueue, hqueued, h.dropped_of_open hopen]
  started_perm := by
    rw [Pool.running_enqueue]
    exact h.started_perm
  issued_perm := by
    have hissued := h.issued_perm
    rw [List.perm_iff_count] at hissued ⊢
    intro n
    have hn := hissued n
    simp only [accepted, Pool.starting_enqueue, List.range_succ, List.map_append,
      List.count_append, List.map_cons, List.map_nil] at hn ⊢
    omega
  queue_of_closed hclosed := by
    rw [Pool.enqueue, hopen] at hclosed
    exact absurd hclosed Bool.false_ne_true
  dropped_of_open := h.dropped_of_open
  closed_iff := h.closed_iff
  dropped_length := h.dropped_length
  cancelled_iff := h.cancelled_iff

/-- A task that a new worker is to begin with is accepted. -/
theorem hire (h : r.Balanced) (task : τ) (hopen : r.pool.closed = false) :
    Balanced { r with pool := r.pool.hire (r.issued, task), issued := r.issued + 1 } where
  counted := h.counted.hire _
  queued_eq := h.queued_eq
  started_perm := by
    rw [Pool.running_hire]
    exact h.started_perm
  issued_perm := by
    have hissued := h.issued_perm
    rw [List.perm_iff_count] at hissued ⊢
    intro n
    have hn := hissued n
    simp only [accepted, Pool.starting_hire, List.range_succ, List.map_append,
      List.count_append, List.map_cons, List.map_nil] at hn ⊢
    omega
  queue_of_closed hclosed := by
    rw [Pool.hire, hopen] at hclosed
    exact absurd hclosed Bool.false_ne_true
  dropped_of_open := h.dropped_of_open
  closed_iff := h.closed_iff
  dropped_length := h.dropped_length
  cancelled_iff := h.cancelled_iff

/-- A task that is refused changes nothing else. -/
theorem reject (h : r.Balanced) (task : τ) :
    Balanced { r with
      issued := r.issued + 1, rejected := r.rejected ++ [(r.issued, task)] } where
  counted := h.counted
  queued_eq := h.queued_eq
  started_perm := h.started_perm
  issued_perm := by
    have hissued := h.issued_perm
    rw [List.perm_iff_count] at hissued ⊢
    intro n
    have hn := hissued n
    simp only [accepted, List.range_succ, List.map_append, List.count_append, List.map_cons,
      List.map_nil] at hn ⊢
    omega
  queue_of_closed := h.queue_of_closed
  dropped_of_open := h.dropped_of_open
  closed_iff := h.closed_iff
  dropped_length := h.dropped_length
  cancelled_iff := h.cancelled_iff

/-- Handing a task to the pool keeps the balance. -/
theorem submit (h : r.Balanced) (task : τ) : (r.submit task).Balanced := by
  unfold Ledger.submit Pool.submit
  cases ha : r.pool.admission with
  | ok a =>
    have hopen := Pool.open_of_admission ha
    cases a with
    | queue => exact h.enqueue task hopen
    | worker => exact h.hire task hopen
  | error e => exact h.reject task

/-- The balance is kept by what leaves the queue and the flags of the pool as they are, if the
tasks that have begun, ended or been refused still add up. -/
theorem replace (h : r.Balanced) {pool : Pool (Nat × τ)} {begun finished rejected}
    (hcounted : pool.Counted) (hqueue : pool.queue = r.pool.queue)
    (hclosed : pool.closed = r.pool.closed) (hcancelled : pool.cancelled = r.pool.cancelled)
    (hstarted : (r.taken ++ begun).Perm (finished ++ pool.running))
    (hissued : ((r.queued ++ begun ++ pool.starting ++ rejected).map (·.1)).Perm
      (List.range r.issued)) :
    Balanced { r with
      pool := pool, begun := begun, finished := finished, rejected := rejected } where
  counted := hcounted
  queued_eq := by
    rw [hqueue]
    exact h.queued_eq
  started_perm := hstarted
  issued_perm := hissued
  queue_of_closed := by
    rw [hqueue, hclosed]
    exact h.queue_of_closed
  dropped_of_open := by
    rw [hclosed]
    exact h.dropped_of_open
  closed_iff := by
    rw [hclosed]
    exact h.closed_iff
  dropped_length := h.dropped_length
  cancelled_iff := by
    rw [hcancelled]
    exact h.cancelled_iff

/-- Changing the sizes keeps the balance. -/
theorem resize (h : r.Balanced) (s : RescanSettings) :
    Balanced { r with pool := r.pool.resize s } := by
  refine h.replace (h.counted.resize s) rfl rfl rfl ?_ ?_
  · rw [Pool.running_resize]
    exact h.started_perm
  · rw [Pool.starting_resize]
    exact h.issued_perm

/-- The beginning of a shutdown keeps the balance: what waits is dropped. -/
theorem close (h : r.Balanced) : r.close.Balanced where
  counted := h.counted.close
  queued_eq := by
    have hqueued := h.queued_eq
    cases hopen : r.pool.closed with
    | true => simpa [Ledger.close, Pool.close, h.queue_of_closed hopen] using hqueued
    | false => simpa [Ledger.close, Pool.close, h.dropped_of_open hopen] using hqueued
  started_perm := by
    rw [Ledger.close, Pool.running_close]
    exact h.started_perm
  issued_perm := by
    have hissued := h.issued_perm
    rw [accepted] at hissued ⊢
    rw [Ledger.close, Pool.starting_close]
    exact hissued
  queue_of_closed _ := rfl
  dropped_of_open hopen := absurd hopen.symm Bool.false_ne_true
  closed_iff := by simp [Ledger.close, Pool.close]
  dropped_length := by
    have hdropped := h.dropped_length
    simp only [Ledger.close, droppedCount, List.length_append, List.sum_append,
      List.sum_singleton] at hdropped ⊢
    omega
  cancelled_iff := h.cancelled_iff

/-- What is at a place of a list is no longer in its sum when it is taken out. -/
theorem sum_eraseIdx {ns : List Nat} {i n : Nat} (h : ns[i]? = some n) :
    (ns.eraseIdx i).sum + n = ns.sum := by
  induction ns generalizing i with
  | nil => exact absurd h nofun
  | cons k rest ih =>
    cases i with
    | zero =>
      rw [List.getElem?_cons_zero] at h
      rw [List.eraseIdx_cons_zero, List.sum_cons, Option.some.inj h, Nat.add_comm]
    | succ i =>
      rw [List.getElem?_cons_succ] at h
      have hrest := ih h
      rw [List.eraseIdx_cons_succ, List.sum_cons, List.sum_cons]
      omega

/-- The end of a shutdown keeps the balance: it reports what it has dropped. -/
theorem giveUp (h : r.Balanced) {call dropped : Nat} (hcall : r.closing[call]? = some dropped) :
    (r.giveUp call dropped).Balanced where
  counted := h.counted.giveUp
  queued_eq := h.queued_eq
  started_perm := h.started_perm
  issued_perm := h.issued_perm
  queue_of_closed := h.queue_of_closed
  dropped_of_open := h.dropped_of_open
  closed_iff := by
    have hne : r.closing ≠ [] := by
      intro hnil
      rw [hnil] at hcall
      exact absurd hcall nofun
    have hclosed : r.pool.closed = true := h.closed_iff.mpr (.inl hne)
    simp [Ledger.giveUp, Pool.giveUp, hclosed]
  dropped_length := by
    have hdropped := h.dropped_length
    have hsum := sum_eraseIdx hcall
    simp only [Ledger.giveUp, droppedCount, List.map_append, List.map_cons, List.map_nil,
      List.sum_append, List.sum_singleton] at hdropped ⊢
    omega
  cancelled_iff := by
    have hcancelled := h.cancelled_iff
    simp only [Ledger.giveUp, Pool.giveUp, Bool.or_eq_true, decide_eq_true_eq, List.mem_append,
      List.mem_singleton, or_and_right, exists_or, exists_eq_left]
    rw [hcancelled]

end Balanced

/-- A move in a ledger is a move in its pool. -/
theorem step_move {r next : Ledger τ} {i : Nat} {m : Move} (h : r.step (.move i m) = some next) :
    ∃ pool, r.pool.move? i m = some pool ∧
      ∃ w, r.pool.staff[i]? = some w ∧ r.moved pool m w = next := by
  obtain ⟨pool, hpool, hrest⟩ := Option.bind_eq_some_iff.mp h
  obtain ⟨w, hw, hmoved⟩ := Option.bind_eq_some_iff.mp hrest
  exact ⟨pool, hpool, w, hw, Option.some.inj hmoved⟩

/-- What is written down when a worker has looked for work. -/
theorem moved_of_free {r : Ledger τ} {w : Worker (Nat × τ)} (h : w.Free)
    (pool : Pool (Nat × τ)) (m : Move) :
    r.moved pool m w = { r with pool := pool, taken := r.taken ++ r.pool.queue.take 1 } := by
  rcases h with rfl | h
  · rfl
  · cases w with
    | parked timed => rfl
    | woken timed => rfl
    | starting first => exact absurd h Nat.zero_ne_one
    | running t => exact absurd h Nat.zero_ne_one
    | looking => rfl

namespace Balanced

variable {r : Ledger τ} {front back : List (Worker (Nat × τ))} {w : Worker (Nat × τ)}

/-- The balance is kept when a worker is replaced, if the task that it was to begin with is
begun or refused, and the task that it was at work on has ended, unless its successor has
them. -/
theorem exchange (h : r.Balanced) (hsplit : r.pool.staff = front ++ w :: back)
    {next : Pool (Nat × τ)} (successor : Option (Worker (Nat × τ)))
    (begun finished rejected : List (Nat × τ)) (hcounted : next.Counted)
    (hstaff : next.staff = front ++ successor.toList ++ back)
    (hqueue : next.queue = r.pool.queue) (hclosed : next.closed = r.pool.closed)
    (hcancelled : next.cancelled = r.pool.cancelled)
    (hfirst : w.first?.toList =
      begun ++ rejected ++ (successor.bind Worker.first?).toList)
    (htask : w.task?.toList ++ begun = finished ++ (successor.bind Worker.task?).toList) :
    Balanced { r with
      pool := next
      begun := r.begun ++ begun
      finished := r.finished ++ finished
      rejected := r.rejected ++ rejected } := by
  classical
  have hone : ∀ f : Worker (Nat × τ) → Option (Nat × τ),
      successor.toList.filterMap f = (successor.bind f).toList := by
    intro f
    cases successor with
    | none => rfl
    | some v => simp [List.filterMap_cons]; cases f v <;> rfl
  have hstarted := h.started_perm
  have hissued := h.issued_perm
  rw [started, Pool.running, hsplit, Pool.filterMap_split, List.perm_iff_count] at hstarted
  rw [accepted, Pool.starting, hsplit, Pool.filterMap_split, hfirst,
    List.perm_iff_count] at hissued
  refine h.replace hcounted hqueue hclosed hcancelled ?_ ?_
  · rw [Pool.running, hstaff, List.filterMap_append, List.filterMap_append, hone,
      List.perm_iff_count]
    intro t
    have ht := hstarted t
    have hlocal := congrArg (List.count t) htask
    simp only [List.count_append] at ht hlocal ⊢
    omega
  · rw [Pool.starting, hstaff, List.filterMap_append, List.filterMap_append, hone,
      List.perm_iff_count]
    intro n
    have hn := hissued n
    simp only [List.map_append, List.count_append] at hn ⊢
    omega

/-- The balance is kept when a worker without a task takes the first one that waits. -/
theorem take (h : r.Balanced) (hsplit : r.pool.staff = front ++ w :: back)
    {next : Pool (Nat × τ)} {t : Nat × τ} {rest : List (Nat × τ)} (hw : w.Free)
    (hq : r.pool.queue = t :: rest) (hcounted : next.Counted)
    (hstaff : next.staff = front ++ .running t :: back) (hqueue : next.queue = rest)
    (hclosed : next.closed = r.pool.closed) (hcancelled : next.cancelled = r.pool.cancelled) :
    Balanced { r with pool := next, taken := r.taken ++ [t] } := by
  classical
  obtain ⟨hfirst, htask⟩ := Pool.no_task_of_free hw
  have hstarted := h.started_perm
  have hissued := h.issued_perm
  rw [started, Pool.running, hsplit, Pool.filterMap_split, htask,
    List.perm_iff_count] at hstarted
  rw [accepted, Pool.starting, hsplit, Pool.filterMap_split, hfirst] at hissued
  have hopen : next.closed = false := by
    rw [hclosed, Bool.eq_false_iff]
    intro hclosed
    rw [h.queue_of_closed hclosed] at hq
    exact List.cons_ne_nil t rest hq.symm
  refine ⟨hcounted, ?_, ?_, ?_, ?_, ?_, ?_, h.dropped_length, ?_⟩
  · have hqueued := h.queued_eq
    rw [hq] at hqueued
    rw [hqueue, hqueued]
    simp
  · rw [started, Pool.running, hstaff, Pool.filterMap_split, List.perm_iff_count]
    intro u
    have hu := hstarted u
    simp only [Worker.task?, Option.toList_some, Option.toList_none, List.count_append,
      List.append_nil] at hu ⊢
    omega
  · rw [accepted, Pool.starting, hstaff, Pool.filterMap_split]
    exact hissued
  · intro hclosed
    rw [hopen] at hclosed
    exact absurd hclosed Bool.false_ne_true
  · rw [hclosed]
    exact h.dropped_of_open
  · rw [hclosed]
    exact h.closed_iff
  · rw [hcancelled]
    exact h.cancelled_iff

/-- Each move of a worker keeps the balance. -/
theorem moved (h : r.Balanced) {m : Move} {next : Pool (Nat × τ)}
    (hsplit : r.pool.staff = front ++ w :: back)
    (he : Pool.Effect r.pool front back w m next) : (r.moved next m w).Balanced := by
  have hcounted := h.counted.effect hsplit he
  cases he with
  | begin t =>
    have hnext := h.exchange hsplit (some (.running t)) [t] [] [] hcounted (by simp) rfl rfl rfl
      rfl rfl
    simpa [Ledger.moved] using hnext
  | rise =>
    have hnext := h.exchange hsplit (some .looking) [] [] [] hcounted (by simp) rfl rfl rfl
      rfl rfl
    simpa [Ledger.moved] using hnext
  | refuse first =>
    have hnext := h.exchange hsplit none [] [] first.toList hcounted (by simp) rfl rfl rfl
      (by simp [Worker.first?]) rfl
    simpa [Ledger.moved] using hnext
  | finish t =>
    have hnext := h.exchange hsplit (some .looking) [] [t] [] hcounted (by simp) rfl rfl rfl
      rfl rfl
    simpa [Ledger.moved] using hnext
  | take t rest hw hq =>
    have hnext := h.take hsplit hw hq hcounted rfl rfl rfl rfl
    rw [moved_of_free hw]
    simpa [hq] using hnext
  | leave hw hq =>
    obtain ⟨hfirst, htask⟩ := Pool.no_task_of_free hw
    have hnext := h.exchange hsplit none [] [] [] hcounted (by simp) rfl rfl rfl
      (by rw [hfirst]; rfl) (by rw [htask]; rfl)
    rw [moved_of_free hw]
    simpa [hq] using hnext
  | park timed hw hq =>
    obtain ⟨hfirst, htask⟩ := Pool.no_task_of_free hw
    have hnext := h.exchange hsplit (some (.parked timed)) [] [] [] hcounted (by simp) rfl rfl rfl
      (by rw [hfirst]; rfl) (by rw [htask]; rfl)
    rw [moved_of_free hw]
    simpa [hq] using hnext

/-- Each event keeps the balance. -/
theorem step (h : r.Balanced) {e : PoolEvent τ} {next : Ledger τ} (hs : r.step e = some next) :
    next.Balanced := by
  cases e with
  | submit task =>
    rw [← Option.some.inj hs]
    exact h.submit task
  | move i m =>
    obtain ⟨pool, hmove, w, hw, rfl⟩ := step_move hs
    obtain ⟨front, v, back, hv, hsplit, he⟩ := Pool.effect_of_move hmove
    rw [hw] at hv
    obtain rfl := Option.some.inj hv
    exact h.moved hsplit he
  | resize s =>
    rw [← Option.some.inj hs]
    exact h.resize s
  | close =>
    rw [← Option.some.inj hs]
    exact h.close
  | giveUp call =>
    obtain ⟨dropped, hcall, rfl⟩ := Option.map_eq_some_iff.mp hs
    exact h.giveUp hcall

/-- Any run of events keeps the balance. -/
theorem run (h : r.Balanced) {events : List (PoolEvent τ)} {last : Ledger τ}
    (hrun : r.run events = some last) : last.Balanced := by
  induction events generalizing r with
  | nil =>
    rw [← Option.some.inj hrun]
    exact h
  | cons e rest ih =>
    obtain ⟨next, hstep, hrest⟩ := Option.bind_eq_some_iff.mp hrun
    exact ih (h.step hstep) hrest

end Balanced

end Ledger

end BuildTriage
