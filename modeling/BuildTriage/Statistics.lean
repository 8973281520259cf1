import BuildTriage.Found

/-!
# Statistics

A statistics record says how one scanned build went and which causes were found for
it. A filter selects records; a field of it that is not set selects all.
-/

namespace BuildTriage

open Json

/-- A found cause in a record, by its id. -/
structure CauseStatistics where
  /-- The id of the cause. -/
  id : String
  /-- The indications that matched. -/
  indications : List FoundIndication
  deriving DecidableEq, Repr, Inhabited

namespace CauseStatistics

/-- The written form of a found cause in a record. -/
def encode (c : CauseStatistics) : Value :=
  .record [("id", .text c.id), ("indications", .list (c.indications.map FoundIndication.encode))]

/-- Reads a found cause in a record. -/
def decoder : Decoder CauseStatistics :=
  (CauseStatistics.mk <$> .required "id" .text
    <*> .defaulted "indications" (.list FoundIndication.decoder) [] :
    RecordReader CauseStatistics).decode

end CauseStatistics

/-- How one scanned build went. -/
structure Statistics where
  /-- The project of the build. -/
  projectName : String
  /-- The number of the build. -/
  buildNumber : UInt64
  /-- The name that is shown for the build. -/
  displayName : String
  /-- When the build started, in milliseconds. -/
  startTime : UInt64
  /-- How long it took, in milliseconds. -/
  duration : UInt64
  /-- What started it. -/
  triggerCauses : List String
  /-- The node that it ran on. -/
  nodeName : String
  /-- The controller that it ran under. -/
  master : String
  /-- The offset of its time zone. -/
  timeZoneOffset : String
  /-- The name of its result. -/
  result : String
  /-- The build that started it. -/
  parent : Option ParentBuild
  /-- The causes that were found. -/
  failureCauses : List CauseStatistics
  deriving DecidableEq, Repr, Inhabited

namespace Statistics

/-- The name of the node where none is known. -/
def noNode : String := "NoNodeInformation"

/-- The record of a build for which the given causes were found; `master` names the
controller where the build does not. -/
def ofBuild (info : BuildInfo) (causes : List FoundCause) (master : String) : Statistics where
  projectName := info.build.project
  buildNumber := info.build.number
  displayName := info.displayName
  startTime := info.startTime
  duration := info.duration
  triggerCauses := info.triggerCauses
  nodeName := info.nodeName.getD noNode
  master := info.master.getD master
  timeZoneOffset := info.timeZoneOffset
  result := info.result.name
  parent := info.parent
  failureCauses := causes.map fun c => ⟨c.id, c.indications⟩

/-- The ids of the causes in a record. -/
def causeIds (s : Statistics) : List String := s.failureCauses.map (·.id)

/-- The written form of a record. -/
def encode (s : Statistics) : Value :=
  .record ([
    ("projectName", .text s.projectName), ("buildNumber", .word s.buildNumber),
    ("displayName", .text s.displayName), ("startTime", .word s.startTime),
    ("duration", .word s.duration), ("triggerCauses", .texts s.triggerCauses),
    ("nodeName", .text s.nodeName), ("master", .text s.master),
    ("timeZoneOffset", .text s.timeZoneOffset), ("result", .text s.result)] ++
    optionalMember "upstreamCause" ParentBuild.encode s.parent ++
    [("failureCauses", .list (s.failureCauses.map CauseStatistics.encode))])

/-- The members of a record. -/
def reader : RecordReader Statistics :=
  .mk <$> .required "projectName" .text
    <*> .required "buildNumber" .word
    <*> .defaulted "displayName" .text ""
    <*> .required "startTime" .word
    <*> .required "duration" .word
    <*> .defaulted "triggerCauses" (.list .text) []
    <*> .required "nodeName" .text
    <*> .required "master" .text
    <*> .defaulted "timeZoneOffset" .text ""
    <*> .required "result" .text
    <*> .optional "upstreamCause" ParentBuild.decoder
    <*> .defaulted "failureCauses" (.list CauseStatistics.decoder) []

/-- Reads a record. -/
def decoder : Decoder Statistics := reader.decode

end Statistics

/-- Which records to select. -/
structure StatisticsFilter where
  /-- The project of the build. -/
  projectName : Option String
  /-- The numbers that the build may have; none means any. -/
  buildNumbers : List UInt64
  /-- The build started then or later. -/
  since : Option UInt64
  /-- The build started earlier. -/
  before : Option UInt64
  /-- The result of the build. -/
  result : Option BuildResult
  /-- A result that the build does not have. -/
  excludeResult : Option BuildResult
  /-- The controller of the build. -/
  master : Option String
  /-- The node of the build. -/
  nodeName : Option String
  deriving DecidableEq, Repr, Inhabited

namespace StatisticsFilter

/-- Selects every record. -/
def all : StatisticsFilter := ⟨none, [], none, none, none, none, none, none⟩

/-- Whether a field that is set has the value, or the field is not set. -/
def agrees {α : Type} [BEq α] (wanted : Option α) (actual : α) : Bool :=
  wanted.all (· == actual)

/-- Whether the filter selects a record. -/
def selects (f : StatisticsFilter) (s : Statistics) : Bool :=
  agrees f.projectName s.projectName &&
  (f.buildNumbers.isEmpty || f.buildNumbers.contains s.buildNumber) &&
  f.since.all (· ≤ s.startTime) &&
  f.before.all (s.startTime < ·) &&
  f.result.all (·.name == s.result) &&
  f.excludeResult.all (·.name != s.result) &&
  agrees f.master s.master &&
  agrees f.nodeName s.nodeName

/-- The written form of a filter. -/
def encode (f : StatisticsFilter) : Value :=
  .record [
    ("project_name", .ofOption .text f.projectName),
    ("build_numbers", .list (f.buildNumbers.map .word)),
    ("since", .ofOption .word f.since), ("until", .ofOption .word f.before),
    ("result", .ofOption BuildResult.encode f.result),
    ("exclude_result", .ofOption BuildResult.encode f.excludeResult),
    ("master", .ofOption .text f.master), ("node_name", .ofOption .text f.nodeName)]

/-- The members of a filter. -/
def reader : RecordReader StatisticsFilter :=
  .mk <$> .nullable "project_name" .text
    <*> .required "build_numbers" (.list .word)
    <*> .nullable "since" .word
    <*> .nullable "until" .word
    <*> .nullable "result" BuildResult.decoder
    <*> .nullable "exclude_result" BuildResult.decoder
    <*> .nullable "master" .text
    <*> .nullable "node_name" .text

/-- Reads a filter. -/
def decoder : Decoder StatisticsFilter := reader.decode

end StatisticsFilter

end BuildTriage
