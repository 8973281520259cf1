import BuildTriage.KnowledgeBase.Listing

/-!
# A cache of the listings

A cache holds a snapshot of the live causes and their categories. Its updater takes one
when it begins, when it is asked to, and after a while without being asked. What it is
asked for waits until it reads it: all that waits when it reads the first request causes
one snapshot, and a request to stop ends it. The snapshot stays after that.
-/

namespace BuildTriage

/-- What a cache holds of the listings. -/
structure Snapshot where
  /-- The live causes. -/
  causes : List FailureCause
  /-- Their categories. -/
  categories : List String
  deriving DecidableEq

/-- What an updater is asked for. -/
inductive UpdaterSignal where
  /-- To take a snapshot. -/
  | refresh
  /-- To end. -/
  | stop
  deriving DecidableEq, Repr

/-- What an updater does. -/
inductive UpdaterStage where
  /-- It takes a snapshot. -/
  | fetching
  /-- It waits for a signal. -/
  | waiting
  /-- It reads what has piled up behind a signal to take a snapshot. -/
  | collecting
  /-- It has ended. -/
  | ended
  deriving DecidableEq, Repr

/-- The updater of a cache. -/
structure Updater where
  /-- What it does. -/
  stage : UpdaterStage
  /-- The signals that it has not read, the oldest first. -/
  inbox : List UpdaterSignal
  deriving DecidableEq, Repr

namespace Updater

/-- An updater that begins. -/
def begun : Updater := ⟨.fetching, []⟩

/-- The updater with one more signal. -/
def send (u : Updater) (s : UpdaterSignal) : Updater := { u with inbox := u.inbox ++ [s] }

/-- The updater has taken a snapshot, or has failed to. -/
def fetched? (u : Updater) : Option Updater :=
  if u.stage = .fetching then some { u with stage := .waiting } else none

/-- The updater has waited long enough without a signal. -/
def expire? (u : Updater) : Option Updater :=
  if u.stage = .waiting ∧ u.inbox.isEmpty then some { u with stage := .fetching } else none

/-- The updater reads a signal, or sees that there are no more. -/
def read? (u : Updater) : Option Updater :=
  match u.stage, u.inbox with
  | .waiting, .refresh :: rest | .collecting, .refresh :: rest => some ⟨.collecting, rest⟩
  | .waiting, .stop :: rest | .collecting, .stop :: rest => some ⟨.ended, rest⟩
  | .collecting, [] => some ⟨.fetching, []⟩
  | .waiting, [] | .fetching, _ | .ended, _ => none

/-- How many moves an updater has before it at most, until it waits or has ended. -/
def distance (u : Updater) : Nat :=
  3 * u.inbox.length + match u.stage with
    | .fetching => 1
    | .collecting => 2
    | .waiting | .ended => 0

end Updater

/-- A cache of the listings. -/
structure CauseCache where
  /-- The latest snapshot. -/
  snapshot : Option Snapshot
  /-- The updater, while the cache is running. -/
  updater : Option Updater
  /-- How many snapshots were taken. -/
  refreshes : Nat
  /-- How many snapshots the updater failed to take. -/
  failed : Nat
  deriving DecidableEq

namespace CauseCache

/-- A cache that holds nothing and is not running. -/
def cold : CauseCache := ⟨none, none, 0, 0⟩

/-- A cache is running as long as it has an updater. -/
def running (c : CauseCache) : Bool := c.updater.isSome

/-- The cache with a new snapshot. -/
def install (c : CauseCache) (s : Snapshot) : CauseCache :=
  { c with snapshot := some s, refreshes := c.refreshes + 1 }

/-- The cache after its updater has failed to take a snapshot. -/
def fail (c : CauseCache) : CauseCache := { c with failed := c.failed + 1 }

/-- The cache with a signal for its updater, if it has one. -/
def signal (c : CauseCache) (s : UpdaterSignal) : CauseCache :=
  { c with updater := c.updater.map (·.send s) }

end CauseCache

end BuildTriage
