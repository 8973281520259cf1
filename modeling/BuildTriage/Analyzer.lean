import BuildTriage.Migration.Basic
import BuildTriage.Pool.Settle

/-!
# The analyzer

The services of a host together: its builds and how they are scanned, the pool that
rescans builds on request, and the conversions of old builds. Requests are taken by the
pool; a rescan that a worker has taken up waits for the lock of its build, and forgets
what was found only when it holds it. The settings may be changed at any time; the sizes
of the pool follow at once, and all other services keep the settings they began with.
-/

namespace BuildTriage

/-- The services of a host. -/
structure Analyzer where
  /-- The latest settings. -/
  settings : Settings
  /-- The builds and how they are scanned. -/
  triage : Triage
  /-- The pool that rescans builds. -/
  pool : Pool BuildRef
  /-- The rescans that hold the lock of their build, with their calls for it. -/
  underWay : List (BuildRef × Nat)
  /-- The conversions. -/
  migration : Migration
  deriving DecidableEq

/-- The first worker that is at work on a task ends it. -/
def Pool.endTask {τ : Type} [BEq τ] (p : Pool τ) (task : τ) : Pool τ :=
  let atWork : Worker τ → Bool
    | .running t => t == task
    | _ => false
  match p.staff.findIdx? atWork with
  | some i => (p.move? i .finish).getD p
  | none => p

namespace Analyzer

/-- The services under settings that can work. -/
def start (settings : Settings) (kb : KnowledgeBase) : Except SettingsError Analyzer := do
  settings.check
  return {
    settings := settings
    triage := .start settings.scanner kb settings.knowledgeBase.masterName
    pool := .ofSettings settings.rescan
    underWay := []
    migration := .start settings.migration }

/-- A step on the builds; its records are written. -/
def step {α : Type} (s : TriageStep α) : EStateM UnknownBuild Analyzer α := fun a =>
  match s a.triage with
  | .ok result t => .ok result { a with triage := t.flush }
  | .error e t => .error e { a with triage := t.flush }

/-- Asks for a rescan; answers whether the pool takes it. -/
def request (a : Analyzer) (build : BuildRef) : Bool × Analyzer :=
  match a.pool.submit build with
  | .ok pool => (true, { a with pool := pool })
  | .error _ => (false, a)

/-- Asks for rescans of some builds; answers how many the pool takes. -/
def requestAll (a : Analyzer) : List BuildRef → Nat × Analyzer
  | [] => (0, a)
  | b :: rest =>
    let (taken, a) := a.request b
    let (n, a) := a.requestAll rest
    (n + taken.toNat, a)

/-- A rescan that a worker has taken up takes the lock of its build, if nobody holds it.
If the rescans are to stop it ends there. -/
def begin (a : Analyzer) (build : BuildRef) : Analyzer :=
  match a.triage.locks.acquire? build with
  | none => a
  | some (call, locks) =>
    if a.pool.cancelled then { a with pool := a.pool.endTask build }
    else { a with
      triage := { a.triage with locks := locks }
      underWay := a.underWay ++ [(build, call)] }

/-- The workers take up what they can, and no rescan under way goes on. -/
def assign (a : Analyzer) : Analyzer :=
  let rest (a : Analyzer) : Analyzer := { a with pool := (a.pool.settle fun _ => false).2 }
  let a := rest a
  rest (a.pool.running.foldl begin a)

/-- The first rescan under way is carried through; one of an unknown build finds
nothing. -/
def finish? (a : Analyzer) : Option Analyzer :=
  match a.underWay with
  | [] => none
  | (build, call) :: rest =>
    let t := match Triage.rescan build a.triage with
      | .ok _ t => t
      | .error _ t => t
    let t := { t with locks := (t.locks.drop? call).getD t.locks }
    some { a with triage := t.flush, underWay := rest, pool := a.pool.endTask build }

/-- Carries rescans through, so many at most. -/
def completeWithin : Nat → Analyzer → Analyzer
  | 0, a => a.assign
  | n + 1, a =>
    match a.assign.finish? with
    | none => a.assign
    | some a => completeWithin n a

/-- All rescans that were taken are carried through, one after the other. -/
def complete (a : Analyzer) : Analyzer :=
  completeWithin (a.pool.queue.length + a.pool.staff.length) a

/-- Takes new settings, if they can work. -/
def reload (a : Analyzer) (settings : Settings) : Except SettingsError Analyzer := do
  settings.check
  let pool := if settings.rescan = a.settings.rescan then a.pool else a.pool.resize settings.rescan
  return { a with settings := settings, pool := pool }

/-- Asks for the conversion of a build, which is held back until the builds are loaded. -/
def convert (a : Analyzer) (build : BuildRef) : Analyzer :=
  { a with migration := a.migration.defer build }

/-- The builds are loaded; answers whether all that were held back have had their turn. -/
def onLoaded (a : Analyzer) : Bool × Analyzer :=
  let (done, migration) := a.migration.onLoaded
  (done, { a with migration := migration })

/-- Waits until all conversions have been made, for some time at most; answers whether they
have. -/
def wait (a : Analyzer) (time : Nat) : Bool × Analyzer :=
  let (done, migration, triage) := a.migration.waitInitial a.triage time
  (done, { a with migration := migration, triage := triage })

/-- Stops the services: first the rescans, then the conversions, then the records, which
are all written, and then the cache of the knowledge base. -/
def stop (a : Analyzer) : PoolReport × Analyzer :=
  let (report, pool) := a.pool.shutdown
  let t := a.triage.closeRecords
  (report, { a with
    pool := pool, migration := a.migration.stop, triage := { t with kb := t.kb.stop } })

end Analyzer

end BuildTriage
