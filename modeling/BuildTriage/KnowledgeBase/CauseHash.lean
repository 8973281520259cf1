import BuildTriage.KnowledgeBase.Document

/-!
# Causes in a key-value store

The texts of the causes are the fields of a hash, under their ids; a list of ids keeps
the order in which they were added, and a list of statistics has the latest record
first. Every command goes over a link that may fail. A change of a stored text is a
single command: the text is read, changed and written with nothing in between.
-/

namespace BuildTriage

open Json

/-- The link to a store: which of the next commands fail, and whether all later ones do. -/
structure Link where
  /-- The next commands. -/
  failures : List Bool
  /-- All later commands fail. -/
  down : Bool
  deriving DecidableEq, Repr

/-- A store of hashes and lists, as far as causes need it. -/
structure CauseHash where
  /-- The texts of the causes under their ids. -/
  texts : List (String × String)
  /-- The ids in order. -/
  ids : List String
  /-- The texts of the statistics records, the latest first. -/
  records : List String
  /-- The link to the store. -/
  link : Link
  deriving DecidableEq, Repr

namespace CauseHash

/-- An empty store over a link that does not fail. -/
def empty : CauseHash := ⟨[], [], [], ⟨[], false⟩⟩

/-- Refuses a command. -/
def refuse {α : Type} (fault : QueryFault) : Op CauseHash α := throw (.query .redis fault)

/-- Carries out a command over the link. -/
def command {α : Type} (f : CauseHash → α × CauseHash) : Op CauseHash α := do
  let s ← get
  let (fails, later) := match s.link.failures with
    | b :: rest => (b, rest)
    | [] => (s.link.down, [])
  set { s with link := { s.link with failures := later } }
  if fails then refuse .offline
  else modifyGet f

/-- The text of a field of the hash. -/
def fieldGet (id : String) : Op CauseHash (Option String) :=
  command fun s => (s.texts.lookup id, s)

/-- A field is in the hash. -/
def fieldExists (id : String) : Op CauseHash Bool :=
  command fun s => ((s.texts.lookup id).isSome, s)

/-- The fields with one set. -/
def setField (id text : String) : List (String × String) → List (String × String)
  | [] => [(id, text)]
  | (k, t) :: rest => if k = id then (k, text) :: rest else (k, t) :: setField id text rest

/-- Sets a field of the hash. -/
def fieldSet (id text : String) : Op CauseHash Unit :=
  command fun s => ((), { s with texts := setField id text s.texts })

/-- Adds an id at the end of the list. -/
def idsPush (id : String) : Op CauseHash Unit :=
  command fun s => ((), { s with ids := s.ids ++ [id] })

/-- The list of ids. -/
def idsAll : Op CauseHash (List String) := command fun s => (s.ids, s)

/-- How a change of a field comes out. -/
inductive Edit (α : Type) where
  /-- The field gets a new text. -/
  | write (text : String) (result : α)
  /-- The field stays as it is. -/
  | keep
  /-- The field does not read. -/
  | unreadable (fault : Fault)

/-- Changes a field of the hash as its text demands, all in one command; answers what was
written. -/
def fieldUpdate {α : Type} (id : String) (f : Option String → Edit α) :
    Op CauseHash (Option α) := do
  let edit ← command fun s =>
    let edit := f (s.texts.lookup id)
    match edit with
    | .write text _ => (edit, { s with texts := setField id text s.texts })
    | _ => (edit, s)
  match edit with
  | .write _ a => return some a
  | .keep => return none
  | .unreadable fault => throw (.unreadable fault)

/-- A change of a stored cause, or of none. -/
def editCause (f : FailureCause → Option FailureCause) : Option String → Edit FailureCause
  | none => .keep
  | some text =>
    match decodeText FailureCause.decoder text with
    | .error fault => .unreadable fault
    | .ok c =>
      match f c with
      | some c' => .write c'.stored c'
      | none => .keep

/-- The stored cause of an id. -/
def getCause (id : String) : Op CauseHash (Option FailureCause) := do
  match ← fieldGet id with
  | none => return none
  | some text => return some (← FailureCause.ofStored text)

/-- The texts of the listed ids that are in the hash. -/
def textsOf : List String → Op CauseHash (List String)
  | [] => return []
  | id :: rest => do
    let text ← fieldGet id
    return text.toList ++ (← textsOf rest)

/-- The listed causes that a query selects. -/
def findCauses (q : CauseQuery) : Op CauseHash (List FailureCause) := do
  let texts ← textsOf (← idsAll)
  let causes ← texts.mapM FailureCause.ofStored
  return causes.filter q.selects

/-- Adds a cause: its text to the hash, then its id to the list. -/
def insert (c : FailureCause) : Op CauseHash Unit := do
  if ← fieldExists c.id then refuse (.duplicateId c.id)
  fieldSet c.id c.stored
  idsPush c.id

/-- Replaces the text of a cause. -/
def update (c : FailureCause) : Op CauseHash Bool := do
  let written ← fieldUpdate c.id fun
    | some _ => .write c.stored ()
    | none => .keep
  return written.isSome

/-- Puts a tombstone on a stored cause. -/
def tombstone (id : String) (stone : Tombstone) : Op CauseHash (Option FailureCause) :=
  fieldUpdate id (editCause fun c => some (c.bury stone))

/-- Moves the last occurrence of a stored cause forward. -/
def touch (id : String) (time : UInt64) : Op CauseHash Bool := do
  let written ← fieldUpdate id (editCause fun c =>
    if c.touches time then some (c.touch time) else none)
  return written.isSome

/-- The first records of some. -/
def limitRecords (limit : Option UInt64) (records : List Statistics) : List Statistics :=
  match limit with
  | none => records
  | some n => records.take n.toNat

/-- The records that a filter selects, the latest start first, and those of one start in
reverse order of saving. -/
def findStatistics (f : StatisticsFilter) (limit : Option UInt64) :
    Op CauseHash (List Statistics) := do
  let texts ← command fun s => (s.records, s)
  let records ← texts.mapM fun text =>
    match decodeText Statistics.decoder text with
    | .ok s => (pure s : Op CauseHash Statistics)
    | .error e => throw (.unreadable e)
  let sorted := (records.filter f.selects).mergeSort fun a b => decide (b.startTime ≤ a.startTime)
  return limitRecords limit sorted

instance : DocumentStore CauseHash where
  backend := .redis
  get := getCause
  find := findCauses
  insert := insert
  update := update
  tombstone := tombstone
  touch := touch
  appendStatistics s :=
    command fun t => ((), { t with records := s.encode.compact :: t.records })
  findStatistics := findStatistics

end CauseHash

end BuildTriage
