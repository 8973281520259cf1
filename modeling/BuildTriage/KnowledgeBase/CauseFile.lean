import BuildTriage.KnowledgeBase.Listing
import BuildTriage.KnowledgeBase.Store

/-!
# Causes in a file

The causes are held in memory and written to a file, if there is one, after every change.
The new text is written beside the file and then takes its place. A write that fails
leaves the change in memory.
-/

namespace BuildTriage

open Json

/-- How writing a file ends. -/
inductive WriteOutcome where
  /-- The text is in its place. -/
  | done
  /-- The text cannot be written beside the file; what is there then is given. -/
  | writeFails (left : Option String)
  /-- The text is beside the file and cannot take its place. -/
  | renameFails
  deriving DecidableEq, Repr

/-- A file for causes. -/
structure CauseDisk where
  /-- The path of the file. -/
  path : String
  /-- Its text, if it is there. -/
  text : Option String
  /-- The text beside it, if there is one. -/
  beside : Option String
  /-- Why nothing can be written there, if nothing can. -/
  barrier : Option String
  /-- How the next writes end; later ones succeed. -/
  outcomes : List WriteOutcome
  deriving DecidableEq, Repr

namespace CauseDisk

/-- A file with a text or none, whose writes succeed. -/
def ofText (path : String) (text : Option String) : CauseDisk := ⟨path, text, none, none, []⟩

/-- Writes a text; answers why it did not take its place, if it did not. -/
def write (d : CauseDisk) (text : String) : CauseDisk × Option String :=
  match d.barrier, d.outcomes with
  | some reason, _ => (d, some reason)
  | none, [] => ({ d with text := some text, beside := none }, none)
  | none, .done :: rest => ({ d with text := some text, beside := none, outcomes := rest }, none)
  | none, .writeFails left :: rest =>
    ({ d with beside := left, outcomes := rest }, some "write failed")
  | none, .renameFails :: rest =>
    ({ d with beside := some text, outcomes := rest }, some "write failed")

end CauseDisk

/-- Causes in memory, with the file that they are written to. -/
structure CauseFile where
  /-- The causes in order. -/
  causes : List FailureCause
  /-- The file, if there is one. -/
  disk : Option CauseDisk
  deriving DecidableEq

namespace CauseFile

/-- The text of a file of causes. -/
def textOf (causes : List FailureCause) : String :=
  (Value.list (causes.map FailureCause.encode)).indented

/-- No causes, and no file. -/
def inMemory : CauseFile := ⟨[], none⟩

/-- The causes of a file; a file that is not there has none. -/
def openDisk (disk : CauseDisk) : Except KnowledgeBaseError CauseFile :=
  match disk.text with
  | none => .ok ⟨[], some disk⟩
  | some text =>
    match decodeText (.list FailureCause.decoder) text with
    | .ok causes => .ok ⟨causes, some disk⟩
    | .error f => .error (.unreadable f)

/-- Writes the causes to the file, if there is one. -/
def persist : Op CauseFile Unit := do
  let s ← get
  match s.disk with
  | none => return ()
  | some disk =>
    let (written, failure) := disk.write (textOf s.causes)
    set { s with disk := some written }
    match failure with
    | none => return ()
    | some reason => throw (.file disk.path reason)

/-- Changes the causes and writes them. -/
def change (f : List FailureCause → List FailureCause) : Op CauseFile Unit := do
  modify fun s => { s with causes := f s.causes }
  persist

/-- Changes the first cause of an id, if there is one. -/
def updateFirst (id : String) (f : FailureCause → FailureCause) :
    List FailureCause → List FailureCause
  | [] => []
  | c :: rest => if c.id = id then f c :: rest else c :: updateFirst id f rest

/-- The first cause of an id. -/
def find? (id : String) (causes : List FailureCause) : Option FailureCause :=
  causes.find? (·.id == id)

/-- Adds a cause at the end. -/
def add (fresh : String) (cause : FailureCause) : Op CauseFile FailureCause := do
  cause.checked
  let cause := cause.identified fresh
  change (· ++ [cause])
  return cause

/-- Replaces the first cause of that id, or adds it at the end. -/
def save (fresh : String) (cause : FailureCause) : Op CauseFile FailureCause := do
  if cause.isNew then add fresh cause
  else
    cause.checked
    match find? cause.id (← get).causes with
    | some _ => change (updateFirst cause.id fun _ => cause)
    | none => change (· ++ [cause])
    return cause

/-- Puts a tombstone on the first cause of an id. -/
def remove (id : String) (stone : Tombstone) : Op CauseFile (Option FailureCause) := do
  match find? id (← get).causes with
  | none => return none
  | some cause =>
    change (updateFirst id (·.bury stone))
    return some (cause.bury stone)

/-- Moves the last occurrence of the causes of some ids forward; the file is written when
that changes anything. -/
def lastSeen (ids : List String) (time : UInt64) : Op CauseFile Unit := do
  if (← get).causes.any fun c => ids.contains c.id && c.touches time then
    change (List.map fun c => if ids.contains c.id then c.touch time else c)

instance : CauseStore CauseFile where
  backend := .list
  get id := return find? id (← get).causes
  causes := return liveCauses (← get).causes
  add := add
  save := save
  remove := remove
  lastSeen := lastSeen
  keepsStatistics _ := false
  keepsSuccessful _ := false
  saveStatistics _ := return ()
  statistics _ _ := return []

end CauseFile

end BuildTriage
