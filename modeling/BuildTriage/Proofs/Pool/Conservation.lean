import BuildTriage.Proofs.Pool.Ledger

/-!
# No task is lost or started twice

Whatever happens to a pool, the tasks that it has accepted are those that have ended, those
of its workers, those that wait and those that were dropped, each once. Tasks leave the queue
in the order in which they came. A pool that has been closed takes nothing on any more, and
starts nothing from its queue.
-/

namespace BuildTriage.Ledger

open Pool (Move)

variable {τ : Type}

section Closed

variable {r : Ledger τ} {front back : List (Worker (Nat × τ))} {w : Worker (Nat × τ)}

/-- A move of a worker accepts nothing. -/
theorem accepted_moved {m : Move} {next : Pool (Nat × τ)}
    (hsplit : r.pool.staff = front ++ w :: back) (he : Pool.Effect r.pool front back w m next) :
    ∀ t ∈ (r.moved next m w).accepted, t ∈ r.accepted := by
  intro u hu
  rw [accepted, Pool.starting, hsplit, Pool.filterMap_split]
  cases he with
  | begin t =>
    simp only [moved, reduceCtorEq, if_false, accepted, Pool.starting, Pool.filterMap_split] at hu
    simp only [Worker.first?, Option.toList_some, Option.toList_none, List.mem_append,
      List.append_nil] at hu ⊢
    grind
  | rise =>
    simp only [moved, reduceCtorEq, if_false, accepted, Pool.starting, Pool.filterMap_split] at hu
    simpa [Worker.first?] using hu
  | refuse first =>
    simp only [moved, if_true, accepted, Pool.starting, List.filterMap_append] at hu
    simp only [List.mem_append] at hu ⊢
    grind
  | finish t =>
    simp only [moved, accepted, Pool.starting, Pool.filterMap_split] at hu
    simpa [Worker.first?] using hu
  | take t rest hw hq =>
    rw [(Pool.no_task_of_free hw).1]
    simp only [moved_of_free hw, accepted, Pool.starting, Pool.filterMap_split] at hu
    exact hu
  | leave hw hq =>
    rw [(Pool.no_task_of_free hw).1]
    simp only [moved_of_free hw, accepted, Pool.starting, List.filterMap_append] at hu
    simpa using hu
  | park timed hw hq =>
    rw [(Pool.no_task_of_free hw).1]
    simp only [moved_of_free hw, accepted, Pool.starting, Pool.filterMap_split] at hu
    exact hu

/-- A move of a worker leads to the pool after it, puts nothing into the queue, and takes
nothing from an empty one. -/
theorem moved_eq (r : Ledger τ) (next : Pool (Nat × τ)) (m : Move) (w : Worker (Nat × τ)) :
    (r.moved next m w).pool = next ∧ (r.moved next m w).queued = r.queued ∧
      (r.pool.queue = [] → (r.moved next m w).taken = r.taken) := by
  cases w with
  | starting first =>
    by_cases hm : m = .refuse
    · simp [moved, hm]
    · simp [moved, hm]
  | running t => exact ⟨rfl, rfl, fun _ => rfl⟩
  | looking => exact ⟨rfl, rfl, fun hq => by simp [moved, hq]⟩
  | parked timed => exact ⟨rfl, rfl, fun hq => by simp [moved, hq]⟩
  | woken timed => exact ⟨rfl, rfl, fun hq => by simp [moved, hq]⟩

/-- An event in a closed pool starts nothing from the queue, and accepts nothing. -/
theorem step_of_closed (h : r.Balanced) (hclosed : r.pool.closed = true) {e : PoolEvent τ}
    {next : Ledger τ} (hs : r.step e = some next) :
    next.pool.closed = true ∧ next.queued = r.queued ∧ next.taken = r.taken ∧
    ∀ t ∈ next.accepted, t ∈ r.accepted := by
  cases e with
  | submit task =>
    rw [← Option.some.inj hs, submit, Pool.submit_of_closed hclosed]
    exact ⟨hclosed, rfl, rfl, fun _ ht => ht⟩
  | move i m =>
    obtain ⟨pool, hmove, w, hw, rfl⟩ := step_move hs
    obtain ⟨front, v, back, hv, hsplit, he⟩ := Pool.effect_of_move hmove
    rw [hw] at hv
    obtain rfl := Option.some.inj hv
    obtain ⟨hpool, hqueued, htaken⟩ := moved_eq r pool m w
    refine ⟨?_, hqueued, htaken (h.queue_of_closed hclosed), accepted_moved hsplit he⟩
    rw [hpool, he.closed_eq, hclosed]
  | resize s =>
    rw [← Option.some.inj hs]
    refine ⟨hclosed, rfl, rfl, fun t ht => ?_⟩
    rw [accepted, Pool.starting_resize] at ht
    exact ht
  | close =>
    rw [← Option.some.inj hs]
    refine ⟨rfl, rfl, rfl, fun t ht => ?_⟩
    rw [accepted, close, Pool.starting_close] at ht
    exact ht
  | giveUp call =>
    obtain ⟨dropped, _, rfl⟩ := Option.map_eq_some_iff.mp hs
    exact ⟨hclosed, rfl, rfl, fun _ ht => ht⟩

/-- Through any run of events, a closed pool starts nothing from the queue, and accepts
nothing. -/
theorem run_of_closed (h : r.Balanced) (hclosed : r.pool.closed = true)
    {events : List (PoolEvent τ)} {last : Ledger τ} (hrun : r.run events = some last) :
    last.pool.closed = true ∧ last.queued = r.queued ∧ last.taken = r.taken ∧
    ∀ t ∈ last.accepted, t ∈ r.accepted := by
  induction events generalizing r with
  | nil =>
    rw [← Option.some.inj hrun]
    exact ⟨hclosed, rfl, rfl, fun _ ht => ht⟩
  | cons e rest ih =>
    obtain ⟨next, hstep, hrest⟩ := Option.bind_eq_some_iff.mp hrun
    obtain ⟨hnext, hqueued, htaken, haccepted⟩ := step_of_closed h hclosed hstep
    obtain ⟨hlast, hqueued', htaken', haccepted'⟩ := ih (h.step hstep) hnext hrest
    exact ⟨hlast, hqueued'.trans hqueued, htaken'.trans htaken,
      fun t ht => haccepted t (haccepted' t ht)⟩

end Closed

/-- What a ledger has written down stays in it. -/
structure Extends (r next : Ledger τ) : Prop where
  /-- Tasks that were taken. -/
  taken : r.taken <+: next.taken
  /-- Tasks that were begun with. -/
  begun : r.begun <+: next.begun
  /-- Tasks that were dropped. -/
  dropped : r.dropped <+: next.dropped
  /-- Tasks that were refused. -/
  rejected : r.rejected <+: next.rejected

theorem Extends.refl (r : Ledger τ) : r.Extends r :=
  ⟨List.prefix_refl _, List.prefix_refl _, List.prefix_refl _, List.prefix_refl _⟩

theorem Extends.trans {r next last : Ledger τ} (h : r.Extends next) (h' : next.Extends last) :
    r.Extends last :=
  ⟨h.taken.trans h'.taken, h.begun.trans h'.begun, h.dropped.trans h'.dropped,
    h.rejected.trans h'.rejected⟩

/-- A move of a worker only adds to what is written down. -/
theorem moved_extends {r : Ledger τ} (next : Pool (Nat × τ)) (m : Move)
    (w : Worker (Nat × τ)) : r.Extends (r.moved next m w) := by
  have hrefl := Extends.refl r
  cases w with
  | starting first =>
    by_cases hm : m = .refuse
    · rw [moved, if_pos hm]
      exact ⟨hrefl.taken, hrefl.begun, hrefl.dropped, List.prefix_append _ _⟩
    · rw [moved, if_neg hm]
      exact ⟨hrefl.taken, List.prefix_append _ _, hrefl.dropped, hrefl.rejected⟩
  | running t => exact ⟨hrefl.taken, hrefl.begun, hrefl.dropped, hrefl.rejected⟩
  | looking => exact ⟨List.prefix_append _ _, hrefl.begun, hrefl.dropped, hrefl.rejected⟩
  | parked timed => exact ⟨List.prefix_append _ _, hrefl.begun, hrefl.dropped, hrefl.rejected⟩
  | woken timed => exact ⟨List.prefix_append _ _, hrefl.begun, hrefl.dropped, hrefl.rejected⟩

/-- An event only adds to what is written down. -/
theorem step_extends {r next : Ledger τ} {e : PoolEvent τ} (h : r.step e = some next) :
    r.Extends next := by
  have hrefl := Extends.refl r
  cases e with
  | submit task =>
    rw [← Option.some.inj h]
    unfold submit Pool.submit
    cases r.pool.admission with
    | ok a =>
      cases a with
      | queue => exact ⟨hrefl.taken, hrefl.begun, hrefl.dropped, hrefl.rejected⟩
      | worker => exact ⟨hrefl.taken, hrefl.begun, hrefl.dropped, hrefl.rejected⟩
    | error e => exact ⟨hrefl.taken, hrefl.begun, hrefl.dropped, List.prefix_append _ _⟩
  | move i m =>
    obtain ⟨pool, _, w, _, rfl⟩ := step_move h
    exact moved_extends pool m w
  | resize s =>
    rw [← Option.some.inj h]
    exact ⟨hrefl.taken, hrefl.begun, hrefl.dropped, hrefl.rejected⟩
  | close =>
    rw [← Option.some.inj h]
    exact ⟨hrefl.taken, hrefl.begun, List.prefix_append _ _, hrefl.rejected⟩
  | giveUp call =>
    obtain ⟨dropped, _, rfl⟩ := Option.map_eq_some_iff.mp h
    exact ⟨hrefl.taken, hrefl.begun, hrefl.dropped, hrefl.rejected⟩

/-- A run of events only adds to what is written down. -/
theorem run_extends {r last : Ledger τ} {events : List (PoolEvent τ)}
    (h : r.run events = some last) : r.Extends last := by
  induction events generalizing r with
  | nil =>
    rw [← Option.some.inj h]
    exact Extends.refl r
  | cons e rest ih =>
    obtain ⟨next, hstep, hrest⟩ := Option.bind_eq_some_iff.mp h
    exact (step_extends hstep).trans (ih hrest)

namespace Balanced

variable {r : Ledger τ}

/-- The accepted tasks are those that were started, are about to be, wait, or were
dropped. -/
theorem accepted_perm (h : r.Balanced) :
    r.accepted.Perm (r.started ++ r.pool.starting ++ r.pool.queue ++ r.dropped) := by
  classical
  rw [accepted, h.queued_eq, started, List.perm_iff_count]
  intro t
  simp only [List.count_append]
  omega

/-- The accepted tasks are counted by those that have ended, those of workers, those that
wait and those that were dropped. -/
theorem accepted_length (h : r.Balanced) : r.accepted.length =
    r.finished.length + r.pool.active + r.pool.queue.length + r.droppedCount := by
  have haccepted := h.accepted_perm.length_eq
  have hstarted := h.started_perm.length_eq
  have hactive := h.counted.active_eq.trans (Pool.sum_tasks r.pool)
  have hdropped := h.dropped_length
  simp only [List.length_append] at haccepted hstarted
  omega

/-- No task is started twice, or both started and dropped, or started and refused. -/
theorem nodup (h : r.Balanced) :
    ((r.started ++ r.dropped ++ r.rejected).map (·.1)).Nodup := by
  have hnumbers : ((r.accepted ++ r.rejected).map (·.1)).Nodup :=
    h.issued_perm.nodup_iff.mpr List.nodup_range
  have hperm : (r.accepted ++ r.rejected).Perm
      (r.started ++ r.dropped ++ r.rejected ++ (r.pool.starting ++ r.pool.queue)) := by
    classical
    have haccepted := h.accepted_perm
    rw [List.perm_iff_count] at haccepted ⊢
    intro t
    have ht := haccepted t
    simp only [List.count_append] at ht ⊢
    omega
  have hall := (hperm.map (·.1)).nodup_iff.mp hnumbers
  rw [List.map_append] at hall
  exact hall.sublist (List.sublist_append_left _ _)

/-- An event puts a task into the queue after those with smaller numbers. -/
theorem step_ordered (h : r.Balanced) (hordered : (r.queued.map (·.1)).Pairwise (· < ·))
    {e : PoolEvent τ} {next : Ledger τ} (hs : r.step e = some next) :
    (next.queued.map (·.1)).Pairwise (· < ·) := by
  cases e with
  | submit task =>
    rw [← Option.some.inj hs]
    unfold Ledger.submit Pool.submit
    cases r.pool.admission with
    | ok a =>
      cases a with
      | queue =>
        simp only [Except.map, List.map_append, List.map_cons, List.map_nil]
        refine List.pairwise_append.mpr ⟨hordered, List.pairwise_singleton _ _, ?_⟩
        intro n hn k hk
        rw [List.mem_singleton.mp hk]
        have hissued : n ∈ (r.accepted ++ r.rejected).map (·.1) := by
          rw [accepted, List.append_assoc, List.append_assoc, List.map_append]
          exact List.mem_append_left _ hn
        exact List.mem_range.mp (h.issued_perm.mem_iff.mp hissued)
      | worker => exact hordered
    | error e => exact hordered
  | move i m =>
    obtain ⟨pool, _, w, _, rfl⟩ := step_move hs
    rw [(moved_eq r pool m w).2.1]
    exact hordered
  | resize s =>
    rw [← Option.some.inj hs]
    exact hordered
  | close =>
    rw [← Option.some.inj hs]
    exact hordered
  | giveUp call =>
    obtain ⟨dropped, _, rfl⟩ := Option.map_eq_some_iff.mp hs
    exact hordered

/-- Through any run of events, the queue takes tasks in the order of their numbers. -/
theorem run_ordered (h : r.Balanced) (hordered : (r.queued.map (·.1)).Pairwise (· < ·))
    {events : List (PoolEvent τ)} {last : Ledger τ} (hrun : r.run events = some last) :
    (last.queued.map (·.1)).Pairwise (· < ·) := by
  induction events generalizing r with
  | nil =>
    rw [← Option.some.inj hrun]
    exact hordered
  | cons e rest ih =>
    obtain ⟨next, hstep, hrest⟩ := Option.bind_eq_some_iff.mp hrun
    exact ih (h.step hstep) (h.step_ordered hordered hstep) hrest

end Balanced

/-- What is true of a pool at every moment. -/
structure Conserved (r : Ledger τ) : Prop where
  /-- A task that is handed to the pool is accepted or refused. -/
  issued_eq : r.issued = r.accepted.length + r.rejected.length
  /-- The accepted tasks have ended, are with a worker, wait, or were counted as dropped by a
  shutdown. -/
  accepted_eq : r.accepted.length =
    r.finished.length + r.pool.active + r.pool.queue.length + r.droppedCount
  /-- The accepted tasks are those that were started, are about to be, wait, or were
  dropped. -/
  accepted_perm : r.accepted.Perm (r.started ++ r.pool.starting ++ r.pool.queue ++ r.dropped)
  /-- The tasks that were started have ended or are being worked on. -/
  started_perm : r.started.Perm (r.finished ++ r.pool.running)
  /-- No task is started twice, or started and dropped, or started and refused. -/
  nodup : ((r.started ++ r.dropped ++ r.rejected).map (·.1)).Nodup
  /-- What was taken from the queue came in first. -/
  in_order : r.taken <+: r.queued
  /-- The tasks came into the queue in the order in which they were handed to the pool. -/
  queued_order : (r.queued.map (·.1)).Pairwise (· < ·)
  /-- The pool is closed when a shutdown has begun or has reported. -/
  closed_iff : r.pool.closed = true ↔ r.closing ≠ [] ∨ r.reports ≠ []
  /-- The running tasks are asked to stop when a shutdown has left some behind. -/
  cancelled_iff : r.pool.cancelled = true ↔ ∃ report ∈ r.reports, 0 < report.stragglers

/-- What can no longer happen to a pool at a later moment. -/
structure Settled (r last : Ledger τ) : Prop where
  /-- What was started stays so, in its order. -/
  taken : r.taken <+: last.taken
  /-- A task that was refused or dropped is never started. -/
  unstarted : ∀ t ∈ r.rejected ++ r.dropped, ∀ u ∈ last.started, t.1 ≠ u.1
  /-- A closed pool refuses every task. -/
  refuses : r.pool.closed = true → ∀ t, last.pool.submit t = .error .closed
  /-- A closed pool accepts nothing more. -/
  accepts_none : r.pool.closed = true → ∀ t ∈ last.accepted, t ∈ r.accepted
  /-- A closed pool starts nothing more from its queue. -/
  takes_none : r.pool.closed = true → last.queued = r.queued ∧ last.taken = r.taken

/-- A balanced ledger conserves its tasks. -/
theorem Balanced.conserved {r : Ledger τ} (h : r.Balanced)
    (hordered : (r.queued.map (·.1)).Pairwise (· < ·)) : r.Conserved where
  issued_eq := by
    have hlength := h.issued_perm.length_eq
    rw [List.length_map, List.length_append, List.length_range] at hlength
    exact hlength.symm
  accepted_eq := h.accepted_length
  accepted_perm := h.accepted_perm
  started_perm := h.started_perm
  nodup := h.nodup
  in_order := by
    rw [h.queued_eq, List.append_assoc]
    exact List.prefix_append _ _
  queued_order := hordered
  closed_iff := h.closed_iff
  cancelled_iff := h.cancelled_iff

/-- What a balanced ledger has written down is settled, whatever comes later. -/
theorem Balanced.settled {r last : Ledger τ} (h : r.Balanced) {later : List (PoolEvent τ)}
    (hlater : r.run later = some last) : r.Settled last where
  taken := (run_extends hlater).taken
  unstarted := by
    have hextends := run_extends hlater
    have hnodup := (h.run hlater).nodup
    rw [List.append_assoc, List.map_append] at hnodup
    have hapart := (List.nodup_append.mp hnodup).2.2
    intro t ht u hu heq
    refine hapart u.1 (List.mem_map_of_mem hu) t.1 (List.mem_map_of_mem ?_) heq.symm
    rcases List.mem_append.mp ht with hrejected | hdropped
    · exact List.mem_append_right _ (hextends.rejected.subset hrejected)
    · exact List.mem_append_left _ (hextends.dropped.subset hdropped)
  refuses hclosed := Pool.submit_of_closed (run_of_closed h hclosed hlater).1
  accepts_none hclosed := (run_of_closed h hclosed hlater).2.2.2
  takes_none hclosed :=
    ⟨(run_of_closed h hclosed hlater).2.1, (run_of_closed h hclosed hlater).2.2.1⟩

/-- Whatever happens to a pool and in whatever order, its tasks are conserved, and what was
refused, dropped or shut down stays so. -/
theorem conservation (s : RescanSettings) {events later : List (PoolEvent τ)}
    {r last : Ledger τ} (h : (opened s).run events = some r) (hlater : r.run later = some last) :
    r.Conserved ∧ r.Settled last := by
  have hopened := Balanced.opened (τ := τ) s
  have hbalanced := hopened.run h
  have hordered := hopened.run_ordered List.Pairwise.nil h
  exact ⟨hbalanced.conserved hordered, hbalanced.settled hlater⟩

/-- One task is being worked on when the pool is shut down, one waits, and one was refused. -/
theorem conservation_straggler :
    let events : List (PoolEvent Nat) :=
      [.submit 10, .move 0 .begin, .submit 11, .submit 12, .close, .giveUp 0]
    let later : List (PoolEvent Nat) := [.move 0 .finish, .submit 13, .move 0 .look]
    ∃ r last : Ledger Nat,
      (opened { maxWorkers := 1, queueCapacity := 1 }).run events = some r ∧
      r.run later = some last ∧ r.reports = [⟨1, 1⟩] ∧ last.finished = [(0, 10)] ∧
      r.Conserved ∧ r.Settled last := by
  intro events later
  refine ⟨_, _, rfl, rfl, rfl, rfl, ?_⟩
  exact @conservation Nat { maxWorkers := 1, queueCapacity := 1 } events later _ _ rfl rfl

end BuildTriage.Ledger
