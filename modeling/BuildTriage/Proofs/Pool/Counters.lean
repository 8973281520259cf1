import Mathlib.Algebra.Ring.Nat
import BuildTriage.Proofs.Pool.Effect

/-!
# The counters of a pool

Four functions of the pool change its counters of workers, of those that wait and of tasks
that are worked on, and each change goes with one of the workers themselves. So the counters
are the numbers of workers of each kind, whatever the steps of a pool are.
-/

namespace BuildTriage.Pool

variable {τ : Type}

/-- The counters are the numbers of workers, of those that wait, and of those with a task. -/
structure Counted (p : Pool τ) : Prop where
  /-- All workers are counted. -/
  workers_eq : p.workers = p.staff.length
  /-- Those that wait are counted, woken or not. -/
  idle_eq : p.idle = (p.staff.map Worker.waits).sum
  /-- Those with a task are counted, begun or not. -/
  active_eq : p.active = (p.staff.map Worker.tasks).sum

/-- What does not tell a woken worker from a parked one is the same after one is woken. -/
theorem map_wakeOne {β : Type} (f : Worker τ → β)
    (hf : ∀ timed, f (.woken timed) = f (.parked timed)) (staff : List (Worker τ)) :
    (wakeOne staff).map f = staff.map f := by
  induction staff with
  | nil => rfl
  | cons w rest ih =>
    cases w with
    | parked timed => rw [wakeOne, List.map_cons, List.map_cons, hf]
    | starting first => exact congrArg (f (.starting first) :: ·) ih
    | running t => exact congrArg (f (.running t) :: ·) ih
    | looking => exact congrArg (f .looking :: ·) ih
    | woken timed => exact congrArg (f (.woken timed) :: ·) ih

/-- What does not tell a woken worker from a parked one is the same after all are woken. -/
theorem map_wakeAll {β : Type} (f : Worker τ → β)
    (hf : ∀ timed, f (.woken timed) = f (.parked timed)) (staff : List (Worker τ)) :
    (wakeAll staff).map f = staff.map f := by
  rw [wakeAll, List.map_map]
  refine List.map_congr_left fun w _ => ?_
  cases w with
  | parked timed => exact hf timed
  | starting first => rfl
  | running t => rfl
  | looking => rfl
  | woken timed => rfl

theorem length_wakeOne (staff : List (Worker τ)) : (wakeOne staff).length = staff.length := by
  have h := congrArg List.length (map_wakeOne (fun _ => ()) (fun _ => rfl) staff)
  rw [List.length_map, List.length_map] at h
  exact h

theorem length_wakeAll (staff : List (Worker τ)) : (wakeAll staff).length = staff.length := by
  rw [wakeAll, List.length_map]

/-- What workers have, and what the worker between some others has. -/
theorem filterMap_split {β : Type} (f : Worker τ → Option β) (front back : List (Worker τ))
    (w : Worker τ) : (front ++ w :: back).filterMap f =
      front.filterMap f ++ (f w).toList ++ back.filterMap f := by
  rw [List.filterMap_append, List.append_assoc]
  cases h : f w with
  | none => rw [List.filterMap_cons_none h, Option.toList_none, List.nil_append]
  | some b => rw [List.filterMap_cons_some h, Option.toList_some, List.singleton_append]

/-- A worker has the task that it begins with or the one that it is at work on. -/
theorem tasks_eq (w : Worker τ) :
    w.tasks = w.first?.toList.length + w.task?.toList.length := by
  cases w <;> rfl

/-- A worker that may look for work has no task. -/
theorem no_task_of_free {w : Worker τ} (h : w.Free) : w.first? = none ∧ w.task? = none := by
  rcases h with rfl | h
  · exact ⟨rfl, rfl⟩
  · cases w with
    | parked timed => exact ⟨rfl, rfl⟩
    | woken timed => exact ⟨rfl, rfl⟩
    | starting first => exact absurd h Nat.zero_ne_one
    | running t => exact absurd h Nat.zero_ne_one
    | looking => exact ⟨rfl, rfl⟩

theorem tasks_of_free {w : Worker τ} (h : w.Free) : w.tasks = 0 := by
  obtain ⟨hfirst, htask⟩ := no_task_of_free h
  rw [tasks_eq, hfirst, htask]
  rfl

/-- The tasks that are counted are those that workers begin with and those that are being
worked on. -/
theorem sum_tasks (p : Pool τ) :
    (p.staff.map Worker.tasks).sum = p.starting.length + p.running.length := by
  unfold starting running
  induction p.staff with
  | nil => rfl
  | cons w rest ih =>
    have hfirst := filterMap_split Worker.first? [] rest w
    have htask := filterMap_split Worker.task? [] rest w
    rw [List.nil_append, List.filterMap_nil, List.nil_append] at hfirst htask
    rw [List.map_cons, List.sum_cons, ih, hfirst, htask, tasks_eq, List.length_append,
      List.length_append]
    omega

section Tasks

variable (p : Pool τ)

/-- What workers have that does not tell a woken one from a parked one stays when one is
woken. -/
theorem filterMap_wakeOne {β : Type} (f : Worker τ → Option β)
    (hf : ∀ timed, f (.woken timed) = f (.parked timed)) (staff : List (Worker τ)) :
    (wakeOne staff).filterMap f = staff.filterMap f := by
  have h := congrArg (List.filterMap id) (map_wakeOne f hf staff)
  rw [List.filterMap_map, List.filterMap_map] at h
  exact h

/-- What workers have that does not tell a woken one from a parked one stays when all are
woken. -/
theorem filterMap_wakeAll {β : Type} (f : Worker τ → Option β)
    (hf : ∀ timed, f (.woken timed) = f (.parked timed)) (staff : List (Worker τ)) :
    (wakeAll staff).filterMap f = staff.filterMap f := by
  have h := congrArg (List.filterMap id) (map_wakeAll f hf staff)
  rw [List.filterMap_map, List.filterMap_map] at h
  exact h

@[simp] theorem starting_enqueue (task : τ) : (p.enqueue task).starting = p.starting :=
  filterMap_wakeOne _ (fun _ => rfl) _

@[simp] theorem running_enqueue (task : τ) : (p.enqueue task).running = p.running :=
  filterMap_wakeOne _ (fun _ => rfl) _

@[simp] theorem starting_hire (task : τ) : (p.hire task).starting = p.starting ++ [task] := by
  rw [starting, hire, List.filterMap_append]
  rfl

@[simp] theorem running_hire (task : τ) : (p.hire task).running = p.running := by
  rw [running, hire, List.filterMap_append]
  exact List.append_nil _

@[simp] theorem starting_resize (s : RescanSettings) : (p.resize s).starting = p.starting := by
  have hnone : ∀ n, (List.replicate n (Worker.starting (none : Option τ))).filterMap
      Worker.first? = [] := fun n => by simp [Worker.first?]
  rw [starting, resize, List.filterMap_append, filterMap_wakeAll _ (fun _ => rfl), hnone]
  exact List.append_nil _

@[simp] theorem running_resize (s : RescanSettings) : (p.resize s).running = p.running := by
  have hnone : ∀ n, (List.replicate n (Worker.starting (none : Option τ))).filterMap
      Worker.task? = [] := fun n => by simp [Worker.task?]
  rw [running, resize, List.filterMap_append, filterMap_wakeAll _ (fun _ => rfl), hnone]
  exact List.append_nil _

@[simp] theorem starting_close : p.close.starting = p.starting :=
  filterMap_wakeAll _ (fun _ => rfl) _

@[simp] theorem running_close : p.close.running = p.running :=
  filterMap_wakeAll _ (fun _ => rfl) _

/-- Only an open pool takes tasks. -/
theorem open_of_admission {p : Pool τ} {a : Admission} (h : p.admission = .ok a) :
    p.closed = false := by
  unfold admission at h
  split at h
  · exact absurd h nofun
  · next hopen => exact Bool.eq_false_iff.mpr hopen

/-- A closed pool takes no task. -/
theorem submit_of_closed {p : Pool τ} (h : p.closed = true) (task : τ) :
    p.submit task = .error .closed := by
  have hadmission : p.admission = .error .closed := if_pos h
  rw [submit, hadmission]
  rfl

end Tasks

namespace Counted

variable {p : Pool τ}

/-- A pool without workers counts none. -/
theorem ofSettings (s : RescanSettings) : (Pool.ofSettings s : Pool τ).Counted := ⟨rfl, rfl, rfl⟩

/-- Waking a worker for a task does not change the counts. -/
theorem enqueue (h : p.Counted) (task : τ) : (p.enqueue task).Counted where
  workers_eq := h.workers_eq.trans (length_wakeOne p.staff).symm
  idle_eq := by
    rw [Pool.enqueue, map_wakeOne _ (fun _ => rfl)]
    exact h.idle_eq
  active_eq := by
    rw [Pool.enqueue, map_wakeOne _ (fun _ => rfl)]
    exact h.active_eq

/-- A new worker is counted, with its task. -/
theorem hire (h : p.Counted) (task : τ) : (p.hire task).Counted where
  workers_eq := by simp [Pool.hire, h.workers_eq]
  idle_eq := by simp [Pool.hire, h.idle_eq, Worker.waits]
  active_eq := by simp [Pool.hire, h.active_eq, Worker.tasks]

/-- New workers without tasks are counted. -/
theorem resize (h : p.Counted) (s : RescanSettings) : (p.resize s).Counted where
  workers_eq := by
    simp [Pool.resize, length_wakeAll, h.workers_eq]
  idle_eq := by
    have hwake := map_wakeAll Worker.waits (fun _ => rfl) p.staff
    simp [Pool.resize, hwake, h.idle_eq, Worker.waits]
  active_eq := by
    have hwake := map_wakeAll Worker.tasks (fun _ => rfl) p.staff
    simp [Pool.resize, hwake, h.active_eq, Worker.tasks]

/-- Closing a pool does not change the counts. -/
theorem close (h : p.Counted) : p.close.Counted where
  workers_eq := h.workers_eq.trans (length_wakeAll p.staff).symm
  idle_eq := by
    rw [Pool.close, map_wakeAll _ (fun _ => rfl)]
    exact h.idle_eq
  active_eq := by
    rw [Pool.close, map_wakeAll _ (fun _ => rfl)]
    exact h.active_eq

/-- Giving up does not change the counts. -/
theorem giveUp (h : p.Counted) : p.giveUp.Counted := ⟨h.workers_eq, h.idle_eq, h.active_eq⟩

/-- The counts follow each move of a worker. -/
theorem effect {next : Pool τ} {front back : List (Worker τ)} {w : Worker τ} {m : Move}
    (h : p.Counted) (hsplit : p.staff = front ++ w :: back)
    (he : Effect p front back w m next) : next.Counted := by
  obtain ⟨hworkers, hidle, hactive⟩ := h
  rw [hsplit] at hworkers hidle hactive
  simp only [List.length_append, List.length_cons, List.map_append, List.map_cons,
    List.sum_append, List.sum_cons] at hworkers hidle hactive
  cases he with
  | begin t =>
    constructor
    · simp [hworkers]
    · simp [hidle, Worker.waits]
    · simp [hactive, Worker.tasks]
  | rise =>
    constructor
    · simp [hworkers]
    · simp [hidle, Worker.waits]
    · simp [hactive, Worker.tasks]
  | refuse first =>
    constructor
    · simp only [List.length_append, hworkers]
      omega
    · simp [hidle, Worker.waits]
    · simp only [List.map_append, List.sum_append, hactive, Worker.tasks]
      omega
  | finish t =>
    constructor
    · simp [hworkers]
    · simp [hidle, Worker.waits]
    · simp only [List.map_append, List.map_cons, List.sum_append, List.sum_cons, hactive,
        Worker.tasks]
      omega
  | take t rest hw hq =>
    have htasks := tasks_of_free hw
    constructor
    · simp [hworkers]
    · simp only [List.map_append, List.map_cons, List.sum_append, List.sum_cons, hidle]
      simp only [Worker.waits]
      omega
    · simp only [List.map_append, List.map_cons, List.sum_append, List.sum_cons, hactive, htasks]
      simp only [Worker.tasks]
      omega
  | leave hw hq =>
    have htasks := tasks_of_free hw
    constructor
    · simp only [List.length_append, hworkers]
      omega
    · simp only [List.map_append, List.sum_append, hidle]
      omega
    · simp only [List.map_append, List.sum_append, hactive, htasks]
      omega
  | park timed hw hq =>
    have htasks := tasks_of_free hw
    constructor
    · simp [hworkers]
    · simp only [List.map_append, List.map_cons, List.sum_append, List.sum_cons, hidle]
      simp only [Worker.waits]
      omega
    · simp only [List.map_append, List.map_cons, List.sum_append, List.sum_cons, hactive, htasks]
      simp only [Worker.tasks]

end Counted

end BuildTriage.Pool
