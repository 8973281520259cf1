import BuildTriage.Json.Decode

/-!
# Builds

A build is one numbered run of a project. What is known of it is its result, its
times, where it ran, what started it and how long its log is.
-/

namespace BuildTriage

open Json

/-- A run of a project, by its number. -/
structure BuildRef where
  /-- The name of the project. -/
  project : String
  /-- The number of the run. -/
  number : UInt64
  deriving DecidableEq, Repr, Inhabited, Hashable

namespace BuildRef

/-- The name that a build goes by in messages. -/
def label (b : BuildRef) : String := b.project ++ "#" ++ toString b.number.toNat

/-- Builds are in the order of their projects, and those of a project in the order of
their numbers. -/
def precedes (a b : BuildRef) : Bool :=
  a.project < b.project || (a.project == b.project && a.number < b.number)

/-- The written form of a build. -/
def encode (b : BuildRef) : Value :=
  .record [("project", .text b.project), ("number", .word b.number)]

/-- The members of a build. -/
def reader : RecordReader BuildRef :=
  .mk <$> .required "project" .text <*> .required "number" .word

/-- Reads a build. -/
def decoder : Decoder BuildRef := reader.decode

end BuildRef

/-- How a build ended. -/
inductive BuildResult where
  | success
  | unstable
  | failure
  | notBuilt
  | aborted
  deriving DecidableEq, Repr, Inhabited

namespace BuildResult

/-- The name of a result. -/
def name : BuildResult → String
  | .success => "SUCCESS"
  | .unstable => "UNSTABLE"
  | .failure => "FAILURE"
  | .notBuilt => "NOT_BUILT"
  | .aborted => "ABORTED"

/-- All results under their names. -/
def choices : List (String × BuildResult) :=
  [success, unstable, failure, notBuilt, aborted].map fun r => (r.name, r)

/-- The result of that name, in whatever case its ASCII letters are. -/
def ofName? (text : String) : Option BuildResult :=
  choices.lookup (String.ofList (text.toList.map Char.toUpper))

/-- The message for a text that names no result. -/
def unknownName (text : String) : String := "Unknown build result: " ++ text

/-- Whether a build that ended so is worth looking into. -/
def needsAnalysis (skipAborted : Bool) : BuildResult → Bool
  | .success => false
  | .aborted => !skipAborted
  | _ => true

/-- The written form of a result. -/
def encode (r : BuildResult) : Value := .text r.name

/-- Reads a result. -/
def decoder : Decoder BuildResult := .choice choices

end BuildResult

/-- The build of another project that started a build. -/
structure ParentBuild where
  /-- The project of the other build. -/
  project : String
  /-- The number of the other build. -/
  build : UInt64
  deriving DecidableEq, Repr, Inhabited

namespace ParentBuild

/-- The written form of a parent build. -/
def encode (u : ParentBuild) : Value :=
  .record [("project", .text u.project), ("build", .word u.build)]

/-- Reads a parent build. -/
def decoder : Decoder ParentBuild :=
  (ParentBuild.mk <$> .required "project" .text <*> .required "build" .word :
    RecordReader ParentBuild).decode

end ParentBuild

/-- What is known of a build. -/
structure BuildInfo where
  /-- The build itself. -/
  build : BuildRef
  /-- The name that is shown for it. -/
  displayName : String
  /-- How it ended. -/
  result : BuildResult
  /-- When it started, in milliseconds. -/
  startTime : UInt64
  /-- How long it took, in milliseconds. -/
  duration : UInt64
  /-- The node that it ran on. -/
  nodeName : Option String
  /-- The controller that it ran under. -/
  master : Option String
  /-- What started it. -/
  triggerCauses : List String
  /-- The build that started it. -/
  parent : Option ParentBuild
  /-- The offset of its time zone. -/
  timeZoneOffset : String
  /-- The length of its log in bytes. -/
  logSize : UInt64
  deriving DecidableEq, Repr, Inhabited

namespace BuildInfo

/-- A build of which nothing but its result is known. -/
def bare (build : BuildRef) (result : BuildResult) : BuildInfo where
  build := build
  displayName := "#" ++ toString build.number.toNat
  result := result
  startTime := 0
  duration := 0
  nodeName := none
  master := none
  triggerCauses := []
  parent := none
  timeZoneOffset := "+00:00"
  logSize := 0

/-- The written form of what is known of a build. -/
def encode (i : BuildInfo) : Value :=
  .record [
    ("build", i.build.encode), ("display_name", .text i.displayName),
    ("result", i.result.encode), ("start_time_ms", .word i.startTime),
    ("duration_ms", .word i.duration), ("node_name", .ofOption .text i.nodeName),
    ("master", .ofOption .text i.master), ("trigger_causes", .texts i.triggerCauses),
    ("upstream", .ofOption ParentBuild.encode i.parent),
    ("time_zone_offset", .text i.timeZoneOffset), ("log_size_bytes", .word i.logSize)]

/-- The members of what is known of a build. -/
def reader : RecordReader BuildInfo :=
  .mk <$> .required "build" BuildRef.decoder
    <*> .required "display_name" .text
    <*> .required "result" BuildResult.decoder
    <*> .required "start_time_ms" .word
    <*> .required "duration_ms" .word
    <*> .nullable "node_name" .text
    <*> .nullable "master" .text
    <*> .required "trigger_causes" (.list .text)
    <*> .nullable "upstream" ParentBuild.decoder
    <*> .required "time_zone_offset" .text
    <*> .required "log_size_bytes" .word

/-- Reads what is known of a build. -/
def decoder : Decoder BuildInfo := reader.decode

end BuildInfo

end BuildTriage
