import BuildTriage.Directory
import BuildTriage.KnowledgeBase.Basic

/-!
# Opening a knowledge base

Settings name the place where causes are kept: in memory, in a file with their text, in a
file with tables, or on a server. Tables and servers come with a cache. No server can be
reached from here.
-/

namespace BuildTriage

/-- The path that names tables which are not kept. -/
def privateTables : String := ":memory:"

namespace KnowledgeBase

/-- Opens a file with the text of causes. A file that is not there has none. -/
def openText (d : Directory) (path : String) : Except KnowledgeBaseError KnowledgeBase := do
  let text ← match d.place path with
    | .nothing | .beyondFile => pure none
    | _ => some <$> (d.readText path).mapError (.file path)
  let disk := { CauseDisk.ofText path text with barrier := d.barrier path }
  return .ofFile (← CauseFile.openDisk disk)

/-- The tables at a path; an empty file has empty ones, and other texts have none. -/
def openTables (d : Directory) (path : String) : Except KnowledgeBaseError CauseTable :=
  if path.isEmpty || path == privateTables then .ok .empty
  else match d.place path with
    | .file (.tables t) => .ok t
    | .file (.text text) => if text.isEmpty then .ok .empty else .error (.connection .sqlite)
    | .nothing => if d.barrier path = none then .ok .empty else .error (.connection .sqlite)
    | .file .bytes | .folder | .beyondFile => .error (.connection .sqlite)

/-- Opens the knowledge base that settings name. -/
def open? (d : Directory) (s : KnowledgeBaseSettings) :
    Except KnowledgeBaseError KnowledgeBase :=
  match s.backend, s.path with
  | .list, none => .ok (.ofFile .inMemory)
  | .list, some path => openText d path
  | .sqlite, some path =>
    (openTables d path).map fun t =>
      (KnowledgeBase.ofTable t s.enableStatistics s.successfulLogging).cached
  | .sqlite, none => .error (.connection .sqlite)
  | .redis, _ => .error (.connection .redis)

/-- The directory as a knowledge base that was opened at a path leaves it. -/
def leaveIn (k : KnowledgeBase) (d : Directory) (path : String) : Directory :=
  match k.backing with
  | .file ⟨_, some ⟨_, some text, _, _, _⟩⟩ => d.put path (.text text)
  | .table b =>
    if path.isEmpty || path == privateTables then d else d.put path (.tables b.store)
  | _ => d

end KnowledgeBase

end BuildTriage
