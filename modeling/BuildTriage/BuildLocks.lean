import BuildTriage.Build

/-!
# Locks for builds

Whoever changes the found causes of a build holds its lock meanwhile. A lock is made when
it is first asked for, and is dropped again by the last call that has it in hand. A call
goes through four steps, and the steps of several calls may come in any order: it gets the
lock of its build in hand, takes it once nobody else holds it, releases it, and leaves.
-/

namespace BuildTriage

/-- How far a call has come. -/
inductive LockStage where
  /-- It has the lock in hand and waits for it. -/
  | waiting
  /-- It holds the lock. -/
  | holding
  /-- It has released the lock and still has it in hand. -/
  | leaving
  deriving DecidableEq, Repr

/-- A call under way. -/
structure LockCall where
  /-- What tells the call from others. -/
  id : Nat
  /-- The build that it is for. -/
  build : BuildRef
  /-- The lock that it has in hand. -/
  lock : Nat
  /-- How far it has come. -/
  stage : LockStage
  deriving DecidableEq, Repr

/-- The locks of builds, and the calls under way. -/
structure BuildLocks where
  /-- The lock of each build that has one. -/
  entries : List (BuildRef × Nat)
  /-- The calls under way. -/
  calls : List LockCall
  /-- A number that no lock and no call has had. -/
  unused : Nat
  deriving DecidableEq, Repr

namespace BuildLocks

/-- No locks. -/
def empty : BuildLocks := ⟨[], [], 0⟩

/-- How many locks there are. -/
def size (l : BuildLocks) : Nat := l.entries.length

/-- Whether there are no locks. -/
def isEmpty (l : BuildLocks) : Bool := l.entries.isEmpty

/-- The lock of a build. -/
def lock? (l : BuildLocks) (b : BuildRef) : Option Nat := l.entries.lookup b

/-- The call of an id. -/
def call? (l : BuildLocks) (id : Nat) : Option LockCall := l.calls.find? (·.id == id)

/-- Whether some call holds a lock. -/
def isHeld (l : BuildLocks) (lock : Nat) : Bool :=
  l.calls.any fun c => c.lock == lock && c.stage == .holding

/-- Changes the stage of a call. -/
def move (l : BuildLocks) (id : Nat) (stage : LockStage) : BuildLocks :=
  { l with calls := l.calls.map fun c => if c.id = id then { c with stage := stage } else c }

/-- A call for a build begins: it gets the lock of the build in hand, which is a new one if
the build has none. -/
def enter (l : BuildLocks) (b : BuildRef) : Nat × BuildLocks :=
  let id := l.unused
  match l.lock? b with
  | some lock => (id, { l with calls := l.calls ++ [⟨id, b, lock, .waiting⟩], unused := id + 1 })
  | none =>
    (id, ⟨l.entries ++ [(b, id)], l.calls ++ [⟨id, b, id, .waiting⟩], id + 1⟩)

/-- A waiting call takes its lock, if nobody holds it. -/
def take? (l : BuildLocks) (id : Nat) : Option BuildLocks :=
  match l.call? id with
  | some c =>
    if c.stage = .waiting ∧ !l.isHeld c.lock then some (l.move id .holding) else none
  | none => none

/-- A call releases the lock that it holds. -/
def release? (l : BuildLocks) (id : Nat) : Option BuildLocks :=
  match l.call? id with
  | some c => if c.stage = .holding then some (l.move id .leaving) else none
  | none => none

/-- A call that has released its lock ends. The lock of its build goes with it, if no other
call has that lock in hand. -/
def leave? (l : BuildLocks) (id : Nat) : Option BuildLocks :=
  match l.call? id with
  | some c =>
    if c.stage = .leaving then
      let calls := l.calls.filter (·.id != id)
      match l.lock? c.build with
      | some lock =>
        if calls.any (·.lock == lock) then some { l with calls := calls }
        else some { l with calls := calls, entries := l.entries.filter (·.1 != c.build) }
      | none => some { l with calls := calls }
    else none
  | none => none

/-- A call gets the lock of a build and takes it, if nobody holds it. -/
def acquire? (l : BuildLocks) (b : BuildRef) : Option (Nat × BuildLocks) :=
  let (id, l) := l.enter b
  (l.take? id).map fun l => (id, l)

/-- A call releases its lock and ends. -/
def drop? (l : BuildLocks) (id : Nat) : Option BuildLocks := (l.release? id).bind (·.leave? id)

/-- Takes the locks of some builds, each within the one before, and leaves them again:
how many locks there are when each of them has been taken, and when each of them has been
left. A build whose lock is held already is waited for without end. -/
def nest? (l : BuildLocks) : List BuildRef → Option (List Nat × BuildLocks)
  | [] => some ([], l)
  | b :: rest => do
    let (id, taken) ← l.acquire? b
    let (sizes, within) ← taken.nest? rest
    let left ← within.drop? id
    return (taken.size :: sizes ++ [left.size], left)

end BuildLocks

end BuildTriage
