import BuildTriage.KnowledgeBase.Cache
import BuildTriage.KnowledgeBase.CauseFile
import BuildTriage.KnowledgeBase.CauseHash
import BuildTriage.KnowledgeBase.CauseTable

/-!
# Knowledge bases

A knowledge base keeps its causes in a file, in tables or in a key-value store, and may
have a cache before it. The cache holds a snapshot of the listings. While it is running,
every change that succeeds is followed by a refresh of the snapshot; a refresh that fails
is counted and leaves the snapshot as it is. A listing that finds no snapshot takes one.
A single cause is always read from the place where it is kept.
-/

namespace BuildTriage

/-- The place where causes are kept. -/
inductive Backing where
  | file (b : CauseFile)
  | table (b : DocumentBase CauseTable)
  | hash (b : DocumentBase CauseHash)
  deriving DecidableEq

namespace Backing

/-- Carries the outcome of an operation over to a larger state. -/
def wrap {σ τ α : Type} (f : σ → τ) : EStateM.Result KnowledgeBaseError σ α →
    EStateM.Result KnowledgeBaseError τ α
  | .ok a s => .ok a (f s)
  | .error e s => .error e (f s)

/-- An operation that every knowledge base has. -/
def run {α : Type} (op : (σ : Type) → [CauseStore σ] → Op σ α) : Op Backing α
  | .file b => wrap .file (op CauseFile b)
  | .table b => wrap .table (op (DocumentBase CauseTable) b)
  | .hash b => wrap .hash (op (DocumentBase CauseHash) b)

/-- A property that every knowledge base has. -/
def view {α : Type} (f : (σ : Type) → [CauseStore σ] → σ → α) : Backing → α
  | .file b => f CauseFile b
  | .table b => f (DocumentBase CauseTable) b
  | .hash b => f (DocumentBase CauseHash) b

end Backing

/-- A knowledge base. -/
structure KnowledgeBase where
  /-- Where the causes are kept. -/
  backing : Backing
  /-- The cache before it, if there is one. -/
  cache : Option CauseCache
  deriving DecidableEq

namespace KnowledgeBase

/-- An operation on the place where causes are kept. -/
def onBacking {α : Type} (op : Op Backing α) : Op KnowledgeBase α := fun k =>
  Backing.wrap (fun b => { k with backing := b }) (op k.backing)

/-- The place where the causes are kept. -/
def backend (k : KnowledgeBase) : Backend := k.backing.view fun σ _ _ => CauseStore.backend σ

/-- Whether statistics are kept. -/
def keepsStatistics (k : KnowledgeBase) : Bool :=
  k.backing.view fun _ _ s => CauseStore.keepsStatistics s

/-- Whether successful builds are recorded too. -/
def keepsSuccessful (k : KnowledgeBase) : Bool :=
  k.backing.view fun _ _ s => CauseStore.keepsSuccessful s

/-- The live causes where they are kept. -/
def keptCauses : Op KnowledgeBase (List FailureCause) :=
  onBacking (Backing.run fun _ => CauseStore.causes)

/-- The categories of the live causes where they are kept. -/
def keptCategories : Op KnowledgeBase (List String) := return categoriesOf (← keptCauses)

/-- Changes the cache, if there is one. -/
def onCache (f : CauseCache → CauseCache) (k : KnowledgeBase) : KnowledgeBase :=
  { k with cache := k.cache.map f }

/-- Takes a snapshot: the causes are listed, then the categories, and then both are put
into the cache. -/
def fetch : Op KnowledgeBase Snapshot := do
  let causes ← keptCauses
  let categories ← keptCategories
  modify (onCache (·.install ⟨causes, categories⟩))
  return ⟨causes, categories⟩

/-- The updater of the cache. -/
def updater (k : KnowledgeBase) : Option Updater := k.cache.bind (·.updater)

/-- The knowledge base with another updater of its cache, or none. -/
def setUpdater (u : Option Updater) : KnowledgeBase → KnowledgeBase :=
  onCache fun c => { c with updater := u }

/-- The next move of the updater: it takes a snapshot, of which a failure is only counted,
or reads a signal. -/
def move? (k : KnowledgeBase) : Option KnowledgeBase :=
  match k.updater with
  | none => none
  | some u =>
    match u.fetched? with
    | some u =>
      match fetch k with
      | .ok _ k => some (k.setUpdater (some u))
      | .error _ k => some ((k.onCache (·.fail)).setUpdater (some u))
    | none => u.read?.map fun u => k.setUpdater (some u)

/-- The knowledge base after so many moves of the updater at most. -/
def settleWithin : Nat → KnowledgeBase → KnowledgeBase
  | 0, k => k
  | n + 1, k =>
    match k.move? with
    | some k => settleWithin n k
    | none => k

/-- The knowledge base once its updater waits or has ended. -/
def settle (k : KnowledgeBase) : KnowledgeBase :=
  settleWithin ((k.updater.map (·.distance)).getD 0) k

/-- The cache is running. -/
def isRunning (k : KnowledgeBase) : Bool := k.cache.any (·.running)

/-- Asks the updater for a snapshot, and waits for it. -/
def updateCache : Op KnowledgeBase Unit :=
  modify fun k => (k.onCache (·.signal .refresh)).settle

/-- Starts the cache, unless it is running, and waits for its first snapshot. -/
def start : Op KnowledgeBase Unit :=
  modify fun k => if k.isRunning then k else (k.setUpdater (some .begun)).settle

/-- Stops the cache, and waits until its updater has ended; the snapshot stays. -/
def stop (k : KnowledgeBase) : KnowledgeBase :=
  (k.onCache (·.signal .stop)).settle.setUpdater none

/-- The snapshot in the cache, or a new one. -/
def snapshot (c : CauseCache) : Op KnowledgeBase Snapshot :=
  match c.snapshot with
  | some s => return s
  | none => fetch

/-- The cause of an id. -/
def getCause (id : String) : Op KnowledgeBase (Option FailureCause) :=
  onBacking (Backing.run fun _ => CauseStore.get id)

/-- The live causes. -/
def causes : Op KnowledgeBase (List FailureCause) := do
  match (← get).cache with
  | some c => return (← snapshot c).causes
  | none => keptCauses

/-- The categories of the live causes. -/
def categories : Op KnowledgeBase (List String) := do
  match (← get).cache with
  | some c => return (← snapshot c).categories
  | none => keptCategories

/-- The ids and names of the live causes. -/
def names : Op KnowledgeBase (List CauseName) := return namesOf (← causes)

/-- What a list shows of the live causes, by name. -/
def shallow : Op KnowledgeBase (List ShallowCause) := return shallowOf (← causes)

/-- A change of the causes, followed by a refresh. -/
def change {α : Type} (op : (σ : Type) → [CauseStore σ] → Op σ α) : Op KnowledgeBase α := do
  let a ← onBacking (Backing.run op)
  updateCache
  return a

/-- Adds a cause, which gets the fresh id if it is new. -/
def add (fresh : String) (cause : FailureCause) : Op KnowledgeBase FailureCause :=
  change fun _ => CauseStore.add fresh cause

/-- Replaces the cause of that id, or adds it. -/
def save (fresh : String) (cause : FailureCause) : Op KnowledgeBase FailureCause :=
  change fun _ => CauseStore.save fresh cause

/-- Puts a tombstone on the cause of an id. -/
def remove (id : String) (stone : Tombstone) : Op KnowledgeBase (Option FailureCause) :=
  change fun _ => CauseStore.remove id stone

/-- Moves the last occurrence of the causes of some ids forward. -/
def lastSeen (ids : List String) (time : UInt64) : Op KnowledgeBase Unit :=
  change fun _ => CauseStore.lastSeen ids time

/-- Keeps a statistics record, if statistics are kept. -/
def saveStatistics (s : Statistics) : Op KnowledgeBase Unit :=
  onBacking (Backing.run fun _ => CauseStore.saveStatistics s)

/-- The latest kept records that a filter selects, at most so many. -/
def statistics (f : StatisticsFilter) (limit : Option UInt64) :
    Op KnowledgeBase (List Statistics) :=
  onBacking (Backing.run fun _ => CauseStore.statistics f limit)

/-- Saves some causes, one after the other; each has a fresh id at hand. -/
def saveAll (fresh : Nat → String) : List FailureCause → Op KnowledgeBase Unit
  | [] => return ()
  | c :: rest => do
    let _ ← save (fresh rest.length) c
    saveAll fresh rest

/-- Copies the live causes of another knowledge base; answers how many there are. The
other one is read once, before anything is saved. -/
def convertFrom (fresh : Nat → String) (live : List FailureCause) : Op KnowledgeBase Nat := do
  saveAll fresh live
  return live.length

/-- A knowledge base on a file, or in memory where there is none. -/
def ofFile (f : CauseFile) : KnowledgeBase := ⟨.file f, none⟩

/-- A knowledge base over tables. -/
def ofTable (t : CauseTable) (keepsStatistics keepsSuccessful : Bool) : KnowledgeBase :=
  ⟨.table ⟨t, keepsStatistics, keepsSuccessful⟩, none⟩

/-- A knowledge base over a key-value store. -/
def ofHash (h : CauseHash) (keepsStatistics keepsSuccessful : Bool) : KnowledgeBase :=
  ⟨.hash ⟨h, keepsStatistics, keepsSuccessful⟩, none⟩

/-- A knowledge base with a new cache before it. -/
def cached (k : KnowledgeBase) : KnowledgeBase := { k with cache := some .cold }

end KnowledgeBase

end BuildTriage
