import BuildTriage.Build

/-!
# Delayed jobs

A job is scheduled to run after a delay, and is pending until it has run. Once the pool of
jobs has been stopped, pending jobs are dropped and new ones are not taken. Time passes
only while somebody waits.
-/

namespace BuildTriage

/-- What a scheduled job does. -/
inductive JobTask where
  /-- It converts a build. -/
  | convert (build : BuildRef)
  /-- It has nothing to do with builds. -/
  | other
  deriving DecidableEq, Repr

/-- A scheduled job. -/
structure Job where
  /-- When it is to run, in milliseconds. -/
  due : Nat
  /-- What it does. -/
  task : JobTask
  deriving DecidableEq, Repr

/-- The jobs that have been scheduled and have not run. -/
structure JobPool where
  /-- The time, in milliseconds. -/
  now : Nat
  /-- The pending jobs, in the order in which they were scheduled. -/
  jobs : List Job
  /-- Jobs are taken. -/
  running : Bool
  deriving DecidableEq, Repr

namespace JobPool

/-- A pool without jobs. -/
def start : JobPool := ⟨0, [], true⟩

/-- How many jobs are pending. -/
def pending (p : JobPool) : Nat := p.jobs.length

/-- Schedules a job after a delay, if jobs are taken. -/
def schedule (p : JobPool) (delay : Nat) (task : JobTask) : JobPool :=
  if p.running then { p with jobs := p.jobs ++ [⟨p.now + delay, task⟩] } else p

/-- The jobs that run by a time, the earliest first. -/
def dueBy (p : JobPool) (time : Nat) : List Job :=
  (p.jobs.filter (·.due ≤ time)).mergeSort (·.due ≤ ·.due)

/-- A job has ended. -/
def finish (p : JobPool) (job : Job) : JobPool := { p with jobs := p.jobs.erase job }

/-- Takes no more jobs, and drops the pending ones. -/
def stop (p : JobPool) : JobPool := { p with jobs := [], running := false }

end JobPool

end BuildTriage
