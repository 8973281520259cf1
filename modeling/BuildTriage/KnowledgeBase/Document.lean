import BuildTriage.KnowledgeBase.Store

/-!
# Knowledge bases over document stores

A document store keeps each cause as a text under its id and can change single members
of it. The contract is small; a knowledge base needs only these primitives.
-/

namespace BuildTriage

/-- Which causes to look for. -/
structure CauseQuery where
  /-- Removed causes too. -/
  includeRemoved : Bool
  /-- Only those of a category. -/
  category : Option String
  deriving DecidableEq, Repr

namespace CauseQuery

/-- All live causes. -/
def live : CauseQuery := ⟨false, none⟩

/-- Whether a cause is looked for. -/
def selects (q : CauseQuery) (c : FailureCause) : Bool :=
  (q.includeRemoved || !c.isRemoved) && q.category.all c.hasCategory

end CauseQuery

/-- A document store with states `σ`. -/
class DocumentStore (σ : Type) where
  /-- Which store it is. -/
  backend : Backend
  /-- The cause of an id. -/
  get : String → Op σ (Option FailureCause)
  /-- The causes that a query selects, in the order in which they were added. -/
  find : CauseQuery → Op σ (List FailureCause)
  /-- Adds a cause whose id is not there yet. -/
  insert : FailureCause → Op σ Unit
  /-- Replaces the cause of that id; answers whether there is one. -/
  update : FailureCause → Op σ Bool
  /-- Puts a tombstone on the cause of an id; answers it, if there is one. -/
  tombstone : String → Tombstone → Op σ (Option FailureCause)
  /-- Moves the last occurrence of the cause of an id forward; answers whether it moved. -/
  touch : String → UInt64 → Op σ Bool
  /-- Keeps a statistics record. -/
  appendStatistics : Statistics → Op σ Unit
  /-- The latest records that a filter selects, at most so many. -/
  findStatistics : StatisticsFilter → Option UInt64 → Op σ (List Statistics)

/-- A knowledge base over a document store. -/
structure DocumentBase (σ : Type) where
  /-- The state of the store. -/
  store : σ
  /-- Statistics are kept. -/
  keepsStatistics : Bool
  /-- Successful builds are recorded too. -/
  keepsSuccessful : Bool
  deriving DecidableEq, Repr

namespace DocumentBase

variable {σ : Type}

/-- An operation of the store. -/
def onStore {α : Type} (op : Op σ α) : Op (DocumentBase σ) α := fun b =>
  match op b.store with
  | .ok a s => .ok a { b with store := s }
  | .error e s => .error e { b with store := s }

variable [DocumentStore σ]

/-- Adds a cause. -/
def add (fresh : String) (cause : FailureCause) : Op (DocumentBase σ) FailureCause := do
  cause.checked
  let cause := cause.identified fresh
  onStore (DocumentStore.insert cause)
  return cause

/-- Replaces the cause of that id, or adds it. -/
def save (fresh : String) (cause : FailureCause) : Op (DocumentBase σ) FailureCause := do
  if cause.isNew then add fresh cause
  else
    cause.checked
    let replaced ← onStore (DocumentStore.update cause)
    unless replaced do onStore (DocumentStore.insert cause)
    return cause

/-- Moves the last occurrence of the causes of some ids forward, one after the other. -/
def lastSeen : List String → UInt64 → Op (DocumentBase σ) Unit
  | [], _ => return ()
  | id :: rest, time => do
    let _ ← onStore (DocumentStore.touch id time)
    lastSeen rest time

instance : CauseStore (DocumentBase σ) where
  backend := DocumentStore.backend σ
  get id := onStore (DocumentStore.get id)
  causes := onStore (DocumentStore.find .live)
  add := add
  save := save
  remove id stone := onStore (DocumentStore.tombstone id stone)
  lastSeen := lastSeen
  keepsStatistics b := b.keepsStatistics
  keepsSuccessful b := b.keepsSuccessful
  saveStatistics s := do
    if (← get).keepsStatistics then onStore (DocumentStore.appendStatistics s)
  statistics f limit := do
    if (← get).keepsStatistics then onStore (DocumentStore.findStatistics f limit)
    else return []

end DocumentBase

end BuildTriage
