import BuildTriage.Migration.Conversion
import BuildTriage.Migration.Jobs

/-!
# Bringing old builds up to date

Each build is converted at most once, a while after it was asked for. Requests that may be
deferred are held back until the host has loaded its builds, and are then scheduled one
after the other, each a little later than the one before. A delay is so many seconds as a
word holds and less than one more; a release that would need a longer one breaks off.
-/

namespace BuildTriage

namespace MigrationSettings

/-- The longest delay that there is, in milliseconds. -/
def longestDelay : Nat := UInt64.size * 1000 - 1

/-- Whether there is a delay that is longer than the first one by an extra delay. -/
def fits (s : MigrationSettings) (extra : Nat) : Bool := s.debounce.toNat + extra ≤ longestDelay

/-- The extra delay of a build that was held back; those before it in line are counted, and
the product is cut to the longest delay. -/
def offset (s : MigrationSettings) (before : Nat) : Nat :=
  min (s.stagger.toNat * min before (UInt32.size - 1)) longestDelay

end MigrationSettings

/-- The conversions that were asked for. -/
structure Migration where
  /-- The delays. -/
  settings : MigrationSettings
  /-- The jobs. -/
  pool : JobPool
  /-- The builds that have been scheduled. -/
  seen : List BuildRef
  /-- How many builds have been changed. -/
  converted : Nat
  /-- The host has loaded its builds. -/
  loaded : Bool
  /-- The builds that are held back, in the order in which they were asked for. -/
  held : List BuildRef
  deriving DecidableEq

namespace Migration

/-- No conversions. -/
def start (settings : MigrationSettings) : Migration := ⟨settings, .start, [], 0, false, []⟩

/-- Marks a build as one that has been asked for, unless it is. -/
def mark? (m : Migration) (build : BuildRef) : Option Migration :=
  if m.seen.contains build then none else some { m with seen := m.seen ++ [build] }

/-- Schedules a job for a marked build, with an extra delay. -/
def schedule (m : Migration) (extra : Nat) (build : BuildRef) : Migration :=
  { m with pool := m.pool.schedule (m.settings.debounce.toNat + extra) (.convert build) }

/-- Schedules the conversion of a build, with an extra delay; answers whether it had not
been asked for before. There is no answer when there is no such delay; the build is marked
all the same. -/
def convertAfter (m : Migration) (extra : Nat) (build : BuildRef) : Option Bool × Migration :=
  match m.mark? build with
  | some m => if m.settings.fits extra then (some true, m.schedule extra build) else (none, m)
  | none => (some false, m)

/-- Schedules the conversion of a build. -/
def convert (m : Migration) (build : BuildRef) : Option Bool × Migration := m.convertAfter 0 build

/-- Holds a build back, once, if the host has not loaded its builds. -/
def hold? (m : Migration) (build : BuildRef) : Option Migration :=
  if m.loaded then none
  else if m.held.contains build then some m
  else some { m with held := m.held ++ [build] }

/-- Asks for the conversion of a build once the host has loaded its builds. -/
def defer (m : Migration) (build : BuildRef) : Migration :=
  match m.hold? build with
  | some m => m
  | none => (m.convert build).2

/-- Schedules a build that was held back; answers whether there is a delay for it. -/
def release (m : Migration) (build : BuildRef) (before : Nat) : Bool × Migration :=
  let (answer, m) := m.convertAfter (m.settings.offset before) build
  (answer.isSome, m)

/-- Schedules builds that were held back, one after the other, up to the first one that there
is no delay for; answers whether all of them have had their turn. -/
def releaseAll (m : Migration) : List (BuildRef × Nat) → Bool × Migration
  | [] => (true, m)
  | (build, before) :: rest =>
    match m.release build before with
    | (true, m) => m.releaseAll rest
    | (false, m) => (false, m)

/-- The host has loaded its builds: no more are held back. Answers those that were. -/
def load (m : Migration) : List BuildRef × Migration :=
  if m.loaded then ([], m) else (m.held, { m with loaded := true, held := [] })

/-- The host has loaded its builds, and those that were held back are scheduled; answers
whether all of them have had their turn. -/
def onLoaded (m : Migration) : Bool × Migration :=
  let (builds, m) := m.load
  m.releaseAll builds.zipIdx

/-- Takes no more jobs, and drops the pending ones. -/
def stop (m : Migration) : Migration := { m with pool := m.pool.stop }

/-- Runs a job. A conversion that has to wait for the lock of its build stays pending; one
of an unknown build changes nothing. -/
def runJob (state : Migration × Triage) (job : Job) : Migration × Triage :=
  let (m, t) := state
  let ended : Migration := { m with pool := m.pool.finish job }
  match job.task with
  | .other => (ended, t)
  | .convert build =>
    match Triage.convert build t with
    | .ok (some n) t => ({ ended with converted := ended.converted + min n 1 }, t)
    | .ok none t => (m, t)
    | .error _ t => (ended, t)

/-- Lets so much time pass; the jobs that become due run. -/
def pass (m : Migration) (t : Triage) (time : Nat) : Migration × Triage :=
  let till := m.pool.now + time
  let (m, t) := (m.pool.dueBy till).foldl runJob (m, t)
  ({ m with pool := { m.pool with now := till } }, t)

/-- Waits until no job is pending, for some time at most; answers whether none is. -/
def waitIdle (m : Migration) (t : Triage) (time : Nat) : Bool × Migration × Triage :=
  let (m, t) := m.pass t time
  (m.pool.pending = 0, m, t)

/-- Waits until the host has loaded its builds and no job is pending, for some time at
most; answers whether that is so. -/
def waitInitial (m : Migration) (t : Triage) (time : Nat) : Bool × Migration × Triage :=
  let (idle, m, t) := m.waitIdle t time
  (m.loaded && idle, m, t)

end Migration

end BuildTriage
