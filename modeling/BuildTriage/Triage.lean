import BuildTriage.BuildLocks
import BuildTriage.BuildStore
import BuildTriage.Recorder
import BuildTriage.Scan.Match

/-!
# Scanning completed builds

A completed build is scanned unless there is a reason to spare it. A limit for logs that is
too large for a word breaks the call off. A scan matches the log of the build against the
live causes, attaches what it finds to the build and hands a record to the recorder. Where
the causes or the log cannot be read nothing is found; only a build that is not in the
store makes a scan fail. A rescan forgets what was found before and holds the lock of the
build meanwhile.
-/

namespace BuildTriage

open Scan

/-- What becomes of a completed build. -/
inductive Outcome where
  /-- It succeeded, and there is nothing to find. -/
  | successful
  /-- Its result is not one that is looked into. -/
  | filtered (result : BuildResult)
  /-- It has been scanned before. -/
  | alreadyScanned
  /-- Its log is longer than the limit. -/
  | logTooLarge (size limit : UInt64)
  /-- It was scanned, and these causes were found. -/
  | scanned (found : List FoundCause)
  /-- The limit for its log is too large for a word, and the call is broken off. -/
  | overflow
  deriving DecidableEq, Repr

/-- The written form of an outcome. -/
def Outcome.encode : Outcome → Json.Value
  | .successful => .record [("outcome", .text "Successful")]
  | .filtered result => .record [("outcome", .text "Filtered"), ("result", result.encode)]
  | .alreadyScanned => .record [("outcome", .text "AlreadyScanned")]
  | .logTooLarge size limit =>
    .record [("outcome", .text "LogTooLarge"), ("bytes", .word size), ("limit_bytes", .word limit)]
  | .scanned found =>
    .record [("outcome", .text "Scanned"), ("causes", .list (found.map FoundCause.encode))]
  | .overflow => .record [("error", .text "Panic")]

/-- The name of the log in what is found. -/
def logName : String := "log"

/-- The product of two words, if it is one. -/
def product? (a b : UInt64) : Option UInt64 :=
  if a.toNat * b.toNat < UInt64.size then some (a * b) else none

namespace ScannerSettings

/-- The limit for the length of logs, in bytes, if it comes to a word. -/
def logLimit? (s : ScannerSettings) : Option UInt64 := do
  product? (← product? s.maxLogSizeMb 1024) 1024

/-- What becomes of a build that is not scanned: the first reason to spare it. A limit of
zero is none. -/
def spared? (s : ScannerSettings) (info : BuildInfo) (found : Option (List FoundCause)) :
    Option Outcome :=
  if info.result = .success then some .successful
  else if !info.result.needsAnalysis s.skipAborted then some (.filtered info.result)
  else if found.isSome then some .alreadyScanned
  else if s.maxLogSizeMb = 0 then none
  else match s.logLimit? with
    | some limit =>
      if limit < info.logSize then some (.logTooLarge info.logSize limit) else none
    | none => some .overflow

/-- The causes that are reported for a log. -/
def reported (s : ScannerSettings) (causes : List FailureCause) (log : List String)
    (build : BuildRef) : List FoundCause :=
  dropFallbacks s.fallbackCategories
    (matchCauses (.ofSettings s) causes log logName (some build))

end ScannerSettings

/-- The builds of a host with what it takes to scan them. -/
structure Triage where
  /-- How logs are scanned. -/
  settings : ScannerSettings
  /-- The causes to look for. -/
  kb : KnowledgeBase
  /-- The builds. -/
  builds : BuildStore
  /-- The records that are to be written. -/
  recorder : Recorder
  /-- The locks of the builds. -/
  locks : BuildLocks
  deriving DecidableEq

/-- A step that needs a build to be in the store. -/
abbrev TriageStep (α : Type) := EStateM UnknownBuild Triage α

/-- What becomes of a request to rescan a build. -/
inductive TaskOutcome where
  /-- The request was withdrawn before the rescan began. -/
  | cancelled
  /-- The build was rescanned, and so many causes were found. -/
  | rescanned (causes : Nat)
  deriving DecidableEq, Repr

namespace Triage

/-- A host that scans builds, without any build. -/
def start (settings : ScannerSettings) (kb : KnowledgeBase) (master : String) : Triage :=
  ⟨settings, kb, .empty, .start master, .empty⟩

/-- Reads something of a build. -/
def ask {α : Type} (f : BuildStore → Except UnknownBuild α) : TriageStep α := do
  match f (← get).builds with
  | .ok a => return a
  | .error e => throw e

/-- Changes something of a build. -/
def tell (f : BuildStore → Except UnknownBuild BuildStore) : TriageStep Unit := do
  let builds ← ask f
  modify fun t => { t with builds := builds }

/-- Hands a record of a build to the recorder, if statistics are kept. -/
def record (info : BuildInfo) (causes : List FoundCause) : TriageStep Unit :=
  modify fun t =>
    if t.kb.keepsStatistics then { t with recorder := t.recorder.take info causes } else t

/-- The live causes, if they can be listed. -/
def catalog : TriageStep (Option (List FailureCause)) := do
  let t ← get
  match KnowledgeBase.causes t.kb with
  | .ok causes kb =>
    set { t with kb := kb }
    return some causes
  | .error _ kb =>
    set { t with kb := kb }
    return none

/-- The causes that are reported for a build; none if the causes or the log cannot be
read. -/
def findCauses (build : BuildRef) : TriageStep (List FoundCause) := do
  match ← catalog with
  | none => return []
  | some causes =>
    let t ← get
    match t.builds.log build with
    | .ok log => return t.settings.reported causes log build
    | .error _ => return []

/-- Scans a build: what is found is attached to it and recorded. -/
def scan (info : BuildInfo) : TriageStep (List FoundCause) := do
  let found ← findCauses info.build
  tell (·.attach info.build found)
  record info found
  return found

/-- A build has completed: it is scanned, unless it is spared. -/
def completed (build : BuildRef) : TriageStep Outcome := do
  let info ← ask (·.info build)
  let found ← ask (·.found build)
  match (← get).settings.spared? info found with
  | some outcome =>
    if outcome = .successful ∧ (← get).kb.keepsSuccessful then record info []
    return outcome
  | none => return .scanned (← scan info)

/-- Forgets what was found for a build and scans it again. -/
def rescan (build : BuildRef) : TriageStep (List FoundCause) := do
  tell (·.forget build)
  let info ← ask (·.info build)
  scan info

/-- Holds the lock of a build during a step; nothing is done if somebody else holds it. -/
def withLock {α : Type} (build : BuildRef) (step : TriageStep α) : TriageStep (Option α) :=
  fun t =>
    match t.locks.acquire? build with
    | none => .ok none t
    | some (id, locks) =>
      let free (t : Triage) : Triage := { t with locks := (t.locks.drop? id).getD t.locks }
      match step { t with locks := locks } with
      | .ok a t => .ok (some a) (free t)
      | .error e t => .error e (free t)

/-- Rescans a build on request. Whether the request is withdrawn is asked once the lock of
the build is held; a rescan that has begun is carried through. -/
def rescanTask (build : BuildRef) (cancelled : Bool) : TriageStep (Option TaskOutcome) :=
  withLock build do
    if cancelled then return .cancelled
    else return .rescanned (← rescan build).length

/-- Writes all records that are waiting. -/
def flush (t : Triage) : Triage :=
  { t with kb := t.recorder.drain t.kb, recorder := t.recorder.cleared }

/-- Writes all records that are waiting, and takes no more. -/
def closeRecords (t : Triage) : Triage :=
  let t := t.flush
  { t with recorder := t.recorder.close }

end Triage

end BuildTriage
