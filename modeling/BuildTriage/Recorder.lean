import BuildTriage.KnowledgeBase.Basic

/-!
# Recording statistics

The records of scanned builds wait in a queue until they are written to the knowledge
base, so that a scan never waits for it. They are written in the order in which they
came. A write that fails loses its record and nothing else; the causes that a record names
are moved to its start time even then.
-/

namespace BuildTriage

/-- Records on their way to a knowledge base. -/
structure Recorder where
  /-- The controller named for a build that names none. -/
  master : String
  /-- The records that have not been written, the oldest first. -/
  waiting : List Statistics
  /-- New records are taken. -/
  accepting : Bool
  deriving DecidableEq, Repr

/-- The state in which an operation leaves a store, whether it succeeds or not. -/
def stateAfter {σ α : Type} (op : Op σ α) (s : σ) : σ :=
  match op s with
  | .ok _ t => t
  | .error _ t => t

namespace KnowledgeBase

/-- Writes one record: it is kept, and the causes that it names were last seen when its
build started. -/
def write (k : KnowledgeBase) (s : Statistics) : KnowledgeBase :=
  let k := stateAfter (saveStatistics s) k
  if s.causeIds.isEmpty then k else stateAfter (lastSeen s.causeIds s.startTime) k

end KnowledgeBase

namespace Recorder

/-- A recorder without records. -/
def start (master : String) : Recorder := ⟨master, [], true⟩

/-- Takes a record of a build with the causes found for it. -/
def take (r : Recorder) (info : BuildInfo) (causes : List FoundCause) : Recorder :=
  if r.accepting then
    { r with waiting := r.waiting ++ [.ofBuild info causes r.master] }
  else r

/-- Takes no more records. -/
def close (r : Recorder) : Recorder := { r with accepting := false }

/-- Nothing is waiting any more. -/
def cleared (r : Recorder) : Recorder := { r with waiting := [] }

/-- The knowledge base after every waiting record has been written. -/
def drain (r : Recorder) (k : KnowledgeBase) : KnowledgeBase := r.waiting.foldl .write k

end Recorder

end BuildTriage
