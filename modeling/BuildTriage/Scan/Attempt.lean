/-!
# Attempts under two budgets

Each item of a log, a line or a window, is matched by a worker under two budgets of
time: one for the item and one for the whole scan. A worker that answers is kept for the
next item. One that does not answer in time is abandoned and goes on running; an allowance
bounds how many abandoned workers run at a time. When the allowance is used up the scan
ends.
-/

namespace BuildTriage.Scan

/-- How the attempt to match one item ends. -/
inductive Ending where
  /-- The worker answers in time. -/
  | answered
  /-- The budget of the item runs out. -/
  | overdue
  /-- The budget of the scan runs out while the worker is busy. -/
  | exhausted
  /-- The budget of the scan has run out before, or no worker can be had. -/
  | unstarted
  /-- The worker crashes. -/
  | crashed
  deriving DecidableEq, Repr, Inhabited

/-- What a worker needs for an item. -/
inductive Effort where
  /-- It answers after so many milliseconds. -/
  | takes (ms : Nat)
  /-- It does not answer while the scan lasts. -/
  | endless
  /-- It crashes at once. -/
  | crash
  deriving DecidableEq, Repr, Inhabited

/-- What befalls the shared allowance from outside a scan. -/
inductive Outside where
  /-- Another scan abandons a worker. -/
  | abandons
  /-- An abandoned worker ends. -/
  | ends
  deriving DecidableEq, Repr, Inhabited

/-- An item of a log with what happens while it is matched. -/
structure Turn (α : Type) where
  /-- The item. -/
  item : α
  /-- How its attempt ends. -/
  ending : Ending
  /-- What befalls the allowance in the meantime. -/
  outside : List Outside
  deriving DecidableEq, Repr, Inhabited

/-- The budgets of time of a scan, in milliseconds. -/
structure Limits where
  /-- For one item. -/
  item : Nat
  /-- For the whole scan. -/
  scan : Nat
  deriving DecidableEq, Repr, Inhabited

namespace Limits

/-- How an attempt ends that begins after `spent` milliseconds, and how many are spent
after it. -/
def ending (l : Limits) (spent : Nat) : Effort → Ending × Nat
  | effort =>
    if l.scan ≤ spent then (.unstarted, spent)
    else
      let wait := min l.item (l.scan - spent)
      let late := (if wait < l.item then Ending.exhausted else .overdue, spent + wait)
      match effort with
      | .takes ms => if ms < wait then (.answered, spent + ms) else late
      | .endless => late
      | .crash => if 0 < wait then (.crashed, spent) else late

/-- The turns of a scan that is alone, when the items need the given efforts. -/
def turns {α : Type} (l : Limits) (effort : α → Effort) :
    Nat → List α → List (Turn α) → List (Turn α)
  | _, [], done => done.reverse
  | spent, a :: rest, done =>
    let (e, spent') := l.ending spent (effort a)
    turns l effort spent' rest (⟨a, e, []⟩ :: done)

end Limits

/-- How many abandoned workers run, and how many may. -/
structure Allowance where
  /-- Those that run. -/
  running : Nat
  /-- The most that may run. -/
  cap : Nat
  deriving DecidableEq, Repr, Inhabited

namespace Allowance

/-- An allowance of which nothing is used. -/
def fresh (cap : Nat) : Allowance := ⟨0, cap⟩

/-- The allowance after one more worker is abandoned, if it has room. -/
def abandon? (a : Allowance) : Option Allowance :=
  if a.running < a.cap then some { a with running := a.running + 1 } else none

/-- The allowance after an abandoned worker has ended. -/
def release (a : Allowance) : Allowance := { a with running := a.running - 1 }

/-- The allowance after something has befallen it. -/
def shift (a : Allowance) : Outside → Allowance
  | .abandons => a.abandon?.getD a
  | .ends => a.release

end Allowance

/-- The two queues between a scan and a worker. -/
structure Mailbox (α : Type) where
  /-- The items that the worker has not taken yet, the oldest first. -/
  jobs : List α
  /-- The answers that the scan has not received yet, the oldest first. -/
  answers : List (Option (Nat × Nat))
  deriving DecidableEq, Repr

namespace Mailbox

variable {α : Type}

/-- The queues of a worker that has just begun. -/
def empty : Mailbox α := ⟨[], []⟩

/-- The scan sends an item. -/
def send (m : Mailbox α) (item : α) : Mailbox α := { m with jobs := m.jobs ++ [item] }

/-- The worker takes the oldest item and answers it. -/
def serve (hit : α → Option (Nat × Nat)) (m : Mailbox α) : Mailbox α :=
  match m.jobs with
  | [] => m
  | item :: jobs => ⟨jobs, m.answers ++ [hit item]⟩

/-- The scan receives the oldest answer. -/
def receive? (m : Mailbox α) : Option (Option (Nat × Nat) × Mailbox α) :=
  match m.answers with
  | [] => none
  | answer :: answers => some (answer, { m with answers := answers })

end Mailbox

/-- What an attempt comes to. -/
inductive Attempt where
  /-- The worker answers the bytes of a hit, or none. -/
  | answer (bytes : Option (Nat × Nat))
  /-- The item is skipped. -/
  | timedOut
  /-- There is nothing to go on with. -/
  | lost
  deriving DecidableEq, Repr, Inhabited

/-- Tries an item on the worker at hand, or on a new one; answers what that comes to, the
worker that is kept, and the allowance. -/
def attempt {α : Type} (hit : α → Option (Nat × Nat)) (worker : Option (Mailbox α))
    (turn : Turn α) (allowance : Allowance) : Attempt × Option (Mailbox α) × Allowance :=
  let sent := (worker.getD .empty).send turn.item
  let allowance := turn.outside.foldl .shift allowance
  match turn.ending with
  | .unstarted => (.lost, worker, allowance)
  | .answered =>
    match (sent.serve hit).receive? with
    | some (bytes, left) => (.answer bytes, some left, allowance)
    | none => (.lost, none, allowance)
  | .overdue =>
    match allowance.abandon? with
    | some less => (.timedOut, none, less)
    | none => (.lost, none, allowance)
  | .exhausted => (.lost, none, allowance.abandon?.getD allowance)
  | .crashed => (.lost, none, allowance)

/-- A worker in the eyes of its scan. -/
inductive MatchWorker where
  /-- Its scan waits for it. -/
  | awaited
  /-- It was abandoned, and counts. -/
  | abandoned
  /-- It was left alone when no more could be abandoned, and does not count. -/
  | dropped
  deriving DecidableEq, Repr, Inhabited

/-- How the last call of a worker ends. -/
inductive LastCall where
  /-- It returns. -/
  | returns
  /-- It crashes, and the worker does nothing any more. -/
  | crashes
  deriving DecidableEq, Repr, Inhabited

/-- How the call of a worker ends in the end that needs an effort. -/
def Effort.lastCall : Effort → LastCall
  | .takes _ | .endless => .returns
  | .crash => .crashes

/-- The workers of all scans that share an allowance. -/
structure Crew where
  /-- What they share. -/
  allowance : Allowance
  /-- The workers that run. -/
  workers : List MatchWorker
  deriving DecidableEq, Repr, Inhabited

namespace Crew

/-- A crew without workers. -/
def fresh (cap : Nat) : Crew := ⟨.fresh cap, []⟩

/-- One more worker begins. -/
def hire (c : Crew) : Crew := { c with workers := c.workers ++ [.awaited] }

/-- The scan of the worker at a place gives it up: the worker is abandoned, if the
allowance has room. -/
def giveUp? (c : Crew) (i : Nat) : Option Crew :=
  if c.workers[i]? = some .awaited then
    match c.allowance.abandon? with
    | some less => some ⟨less, c.workers.set i .abandoned⟩
    | none => some { c with workers := c.workers.set i .dropped }
  else none

/-- The last call of the worker at a place ends, and the worker with it. One that counts
and returns gives its place in the allowance back. -/
def leave? (c : Crew) (i : Nat) (e : LastCall) : Option Crew :=
  (c.workers[i]?).map fun w =>
    let left := c.workers.eraseIdx i
    match w, e with
    | .abandoned, .returns => ⟨c.allowance.release, left⟩
    | _, _ => { c with workers := left }

/-- The crew of abandoned workers only. -/
def ofAllowance (a : Allowance) : Crew := ⟨a, List.replicate a.running .abandoned⟩

/-- The first worker leaves with each of the given calls, if there is one. -/
def leaveFirst : List LastCall → Crew → Crew
  | [], c => c
  | e :: rest, c => leaveFirst rest ((c.leave? 0 e).getD c)

end Crew

end BuildTriage.Scan
