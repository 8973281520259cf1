import BuildTriage.Settings

/-!
# A pool of workers

Tasks are handed to a pool that has a bounded number of workers and a bounded queue. A
task goes to an idle worker if there is one, else to a new worker if there may be one more,
else into the queue if there is room, and is refused otherwise. The sizes may be changed
at any time. A pool that has been closed takes no tasks and drops those in the queue.

What the submitter, the owner and each worker do between two looks at the shared state is
one step here, and the steps may come in any order. The counters that the pool keeps of
its workers stand beside the workers themselves.
-/

namespace BuildTriage

/-- What a worker is doing. -/
inductive Worker (τ : Type) where
  /-- Its place is reserved and its thread is about to begin, with a task or without one. -/
  | starting (first : Option τ)
  /-- It is at work on a task. -/
  | running (task : τ)
  /-- It is about to look for work. -/
  | looking
  /-- It waits to be woken; a timed one leaves when its time is up. -/
  | parked (timed : Bool)
  /-- It has been woken and has not noticed yet; a timed one may still leave when its time is
  up. -/
  | woken (timed : Bool)
  deriving DecidableEq, Repr

namespace Worker

variable {τ : Type}

/-- The task that a new worker begins with. -/
def first? : Worker τ → Option τ
  | .starting first => first
  | .running _ | .looking | .parked _ | .woken _ => none

/-- The task that a worker is at work on. -/
def task? : Worker τ → Option τ
  | .running task => some task
  | .starting _ | .looking | .parked _ | .woken _ => none

end Worker

/-- Why a task is refused. -/
inductive Rejection where
  /-- All workers are busy and the queue is full. -/
  | saturated (workers queued : Nat)
  /-- The pool is closed. -/
  | closed
  deriving DecidableEq, Repr

/-- The message of a refused task. -/
def Rejection.message : Rejection → String
  | .saturated workers queued =>
    "scan pool saturated (" ++ toString workers ++ " workers busy, " ++ toString queued ++
      " tasks queued)"
  | .closed => "scan pool is shut down"

/-- Where a task goes that is not refused. -/
inductive Admission where
  /-- To the end of the queue. -/
  | queue
  /-- To a new worker. -/
  | worker
  deriving DecidableEq, Repr

/-- A pool of workers with the tasks that wait for them. -/
structure Pool (τ : Type) where
  /-- The sizes in force. -/
  sizes : RescanSettings
  /-- The tasks that wait, the first to be taken first. -/
  queue : List τ
  /-- How many workers there are. -/
  workers : Nat
  /-- How many workers wait, whether they have been woken or not. -/
  idle : Nat
  /-- How many tasks are being worked on. -/
  active : Nat
  /-- No task is taken any more. -/
  closed : Bool
  /-- The tasks that are being worked on are asked to stop. -/
  cancelled : Bool
  /-- The workers. -/
  staff : List (Worker τ)
  deriving DecidableEq, Repr

namespace Pool

variable {τ : Type}

/-- A pool without workers. -/
def ofSettings (s : RescanSettings) : Pool τ := ⟨s.clamped, [], 0, 0, 0, false, false, []⟩

/-- The workers that stay when there is nothing to do. -/
def minWorkers (p : Pool τ) : Nat := p.sizes.minWorkers.toNat

/-- The most workers at a time. -/
def maxWorkers (p : Pool τ) : Nat := p.sizes.maxWorkers.toNat

/-- The most tasks that wait. -/
def capacity (p : Pool τ) : Nat := p.sizes.queueCapacity.toNat

/-- The tasks that new workers begin with, in the order of those workers. -/
def starting (p : Pool τ) : List τ := p.staff.filterMap Worker.first?

/-- The tasks that are being worked on, in the order of their workers. -/
def running (p : Pool τ) : List τ := p.staff.filterMap Worker.task?

/-- Wakes the first worker that is parked. -/
def wakeOne : List (Worker τ) → List (Worker τ)
  | [] => []
  | .parked timed :: rest => .woken timed :: rest
  | w :: rest => w :: wakeOne rest

/-- Wakes every worker that is parked. -/
def wakeAll (staff : List (Worker τ)) : List (Worker τ) :=
  staff.map fun
    | .parked timed => .woken timed
    | w => w

/-- Puts a task at the end of the queue, and wakes a worker for it. -/
def enqueue (p : Pool τ) (task : τ) : Pool τ :=
  { p with queue := p.queue ++ [task], staff := wakeOne p.staff }

/-- Reserves a place for a new worker, with a task that it begins with. -/
def hire (p : Pool τ) (task : τ) : Pool τ :=
  { p with
    workers := p.workers + 1
    active := p.active + 1
    staff := p.staff ++ [.starting (some task)] }

/-- Where the next task goes. -/
def admission (p : Pool τ) : Except Rejection Admission :=
  if p.closed then .error .closed
  else if p.queue.length < p.idle then .ok .queue
  else if p.workers < p.maxWorkers then .ok .worker
  else if p.queue.length < p.capacity then .ok .queue
  else .error (.saturated p.workers p.queue.length)

/-- Hands a task to the pool. -/
def submit (p : Pool τ) (task : τ) : Except Rejection (Pool τ) :=
  p.admission.map fun
    | .queue => p.enqueue task
    | .worker => p.hire task

/-- How many workers new sizes call for: one for each waiting task that has none, as far
as there may be more. -/
def wanted (p : Pool τ) : Nat :=
  if p.closed then 0 else min (p.queue.length - p.idle) (p.maxWorkers - p.workers)

/-- Changes the sizes. All workers are woken to see whether they stay, and new ones come
for the tasks that wait. -/
def resize (p : Pool τ) (s : RescanSettings) : Pool τ :=
  let p := { p with sizes := s.clamped }
  { p with
    workers := p.workers + p.wanted
    staff := wakeAll p.staff ++ List.replicate p.wanted (.starting none) }

/-- Takes no more tasks, and drops those that wait. -/
def close (p : Pool τ) : Pool τ :=
  { p with closed := true, queue := [], staff := wakeAll p.staff }

/-- Gives up waiting for the tasks that are being worked on: if there are any, they are
asked to stop. -/
def giveUp (p : Pool τ) : Pool τ := { p with cancelled := p.cancelled || 0 < p.active }

/-- The place of a worker is taken by what it does next, or is gone if it leaves. -/
def put (staff : List (Worker τ)) (i : Nat) : Option (Worker τ) → List (Worker τ)
  | some w => staff.set i w
  | none => staff.eraseIdx i

/-- A worker looks for work: it takes the first task that waits; else it leaves, if the
pool is closed or has too many workers; else it parks, for a time if it is one of those
that need not stay. -/
def look (p : Pool τ) (i : Nat) : Pool τ :=
  match p.queue with
  | t :: rest =>
    { p with queue := rest, active := p.active + 1, staff := put p.staff i (some (.running t)) }
  | [] =>
    if p.closed ∨ p.maxWorkers < p.workers then
      { p with workers := p.workers - 1, staff := put p.staff i none }
    else
      { p with
        idle := p.idle + 1
        staff := put p.staff i (some (.parked (p.minWorkers < p.workers))) }

/-- What a worker may do next. -/
inductive Move where
  /-- Its thread begins. -/
  | begin
  /-- It cannot have a thread, and its place is given back. -/
  | refuse
  /-- It ends its task, in whatever way, and is about to look for work. -/
  | finish
  /-- It looks for work. -/
  | look
  /-- It notices that it has been woken, or wakes by itself, and looks for work. -/
  | wake
  /-- Its time is up: it leaves, if no task waits and it need not stay, and else looks for
  work. -/
  | expire
  deriving DecidableEq, Repr

/-- A move of the worker at a place, if it can make it. -/
def move? (p : Pool τ) (i : Nat) (m : Move) : Option (Pool τ) :=
  match m, p.staff[i]? with
  | .begin, some (.starting (some t)) =>
    some { p with staff := put p.staff i (some (.running t)) }
  | .begin, some (.starting none) => some { p with staff := put p.staff i (some .looking) }
  | .refuse, some (.starting first) =>
    some { p with
      workers := p.workers - 1
      active := p.active - first.toList.length
      staff := put p.staff i none }
  | .finish, some (.running _) =>
    some { p with active := p.active - 1, staff := put p.staff i (some .looking) }
  | .look, some .looking => some (p.look i)
  | .wake, some (.parked _) | .wake, some (.woken _) =>
    some ({ p with idle := p.idle - 1 }.look i)
  | .expire, some (.parked true) | .expire, some (.woken true) =>
    let p := { p with idle := p.idle - 1 }
    if p.queue.isEmpty ∧ p.minWorkers < p.workers then
      some { p with workers := p.workers - 1, staff := put p.staff i none }
    else some (p.look i)
  | _, _ => none

end Pool

/-- What came of closing a pool. -/
structure PoolReport where
  /-- The tasks that were dropped without having been started. -/
  dropped : Nat
  /-- The tasks that were still being worked on at the end of the grace period. -/
  stragglers : Nat
  deriving DecidableEq, Repr

/-- Whether every task that was started has ended. -/
def PoolReport.terminated (r : PoolReport) : Bool := r.stragglers = 0

/-- The written form of a report. -/
def PoolReport.encode (r : PoolReport) : Json.Value :=
  .record [("dropped", .nat r.dropped), ("stragglers", .nat r.stragglers),
    ("terminated", .bool r.terminated)]

/-- Closes a pool, and gives up waiting at once. -/
def Pool.shutdown {τ : Type} (p : Pool τ) : PoolReport × Pool τ :=
  let closed := p.close
  (⟨p.queue.length, closed.active⟩, closed.giveUp)

end BuildTriage
