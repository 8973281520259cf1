import BuildTriage.KnowledgeBase.Error
import BuildTriage.Statistics

/-!
# What a knowledge base does

The contract of a knowledge base: it keeps causes under their ids, in the order in which
they were added, and it may keep statistics. A removed cause is still found by its id and
is no longer listed. The fresh id for a new cause and the time of a removal are given.
-/

namespace BuildTriage

/-- A knowledge base with states `σ`. -/
class CauseStore (σ : Type) where
  /-- Where the causes are kept. -/
  backend : Backend
  /-- The cause of an id, removed or not. -/
  get : String → Op σ (Option FailureCause)
  /-- The live causes in order. -/
  causes : Op σ (List FailureCause)
  /-- Adds a cause, which gets the fresh id if it is new; answers it. -/
  add : String → FailureCause → Op σ FailureCause
  /-- Replaces the cause of that id, or adds it; answers it. -/
  save : String → FailureCause → Op σ FailureCause
  /-- Puts a tombstone on the cause of an id; answers it, if there is one. -/
  remove : String → Tombstone → Op σ (Option FailureCause)
  /-- Moves the last occurrence of the causes of some ids forward to a time. -/
  lastSeen : List String → UInt64 → Op σ Unit
  /-- Statistics are kept. -/
  keepsStatistics : σ → Bool
  /-- Successful builds are recorded too. -/
  keepsSuccessful : σ → Bool
  /-- Keeps a record, if statistics are kept. -/
  saveStatistics : Statistics → Op σ Unit
  /-- The latest kept records that a filter selects, at most so many. -/
  statistics : StatisticsFilter → Option UInt64 → Op σ (List Statistics)

end BuildTriage
