import BuildTriage.Pool.Basic

/-!
# A pool at rest

Left alone, the workers of a pool move until each is at work on a task that does not end,
or is parked. A worker that leaves as soon as its time is up does so where no time is
given. The moves are made one at a time, those of the first worker that can move first.
-/

namespace BuildTriage.Pool

variable {τ : Type}

/-- The next move of a worker that is left alone, given which tasks end. -/
def nextMove (p : Pool τ) (ends : τ → Bool) : Worker τ → Option Move
  | .starting _ => some .begin
  | .running t => if ends t then some .finish else none
  | .looking => some .look
  | .woken _ => some .wake
  | .parked timed => if timed ∧ p.sizes.keepAlive = 0 then some .expire else none

/-- The place of the first worker that can move, with its move. -/
def firstMove (p : Pool τ) (ends : τ → Bool) : Option (Nat × Worker τ × Move) :=
  (p.staff.zipIdx.findSome? fun (w, i) => (p.nextMove ends w).map fun m => (i, w, m))

/-- The tasks that end, in order, and the pool at rest after at most so many moves. -/
def settleWithin (ends : τ → Bool) : Nat → Pool τ → List τ × Pool τ
  | 0, p => ([], p)
  | fuel + 1, p =>
    match p.firstMove ends with
    | none => ([], p)
    | some (i, w, m) =>
      match p.move? i m with
      | none => ([], p)
      | some next =>
        let (ended, last) := settleWithin ends fuel next
        match w, m with
        | .running t, .finish => (t :: ended, last)
        | _, _ => (ended, last)

/-- How many moves a worker has before it at most, until it needs a new task. -/
def distance : Worker τ → Nat
  | .starting _ => 4
  | .running _ => 3
  | .looking => 2
  | .woken _ => 2
  | .parked timed => if timed then 1 else 0

/-- How many moves a pool has before it at most: each task that waits sets a worker back
by less than the four moves that it counts for. -/
def bound (p : Pool τ) : Nat :=
  p.staff.foldl (fun n w => n + distance w) (4 * p.queue.length)

/-- The tasks that end, in order, and the pool at rest. -/
def settle (ends : τ → Bool) (p : Pool τ) : List τ × Pool τ := settleWithin ends p.bound p

end BuildTriage.Pool

namespace BuildTriage

/-- A pool of tasks that run until they are released or asked to stop, with those that have
ended. -/
structure HeldPool (τ : Type) where
  /-- The pool. -/
  pool : Pool τ
  /-- The tasks that have been released, started or not. -/
  released : List τ
  /-- The tasks that have ended after their release. -/
  ended : List τ
  /-- The tasks that have ended because they were asked to stop. -/
  cancelled : List τ
  deriving DecidableEq, Repr

namespace HeldPool

variable {τ : Type} [BEq τ]

/-- A pool without tasks. -/
def ofSettings (s : RescanSettings) : HeldPool τ := ⟨.ofSettings s, [], [], []⟩

/-- Releases some tasks. -/
def release (h : HeldPool τ) (tasks : List τ) : HeldPool τ :=
  { h with released := h.released ++ tasks }

/-- The pool at rest, once the tasks that can end have ended. -/
def settle (h : HeldPool τ) : HeldPool τ :=
  let (done, pool) := h.pool.settle fun t => h.released.contains t || h.pool.cancelled
  let (ended, cancelled) := done.partition h.released.contains
  { h with pool := pool, ended := h.ended ++ ended, cancelled := h.cancelled ++ cancelled }

end HeldPool

end BuildTriage
