import BuildTriage.Formats
import BuildTriage.Proofs.KnowledgeBase.CauseText

/-!
# What is stored reads back

A record is restored because its members are: its reader takes each member for the value
that the member was written for, and the written form lists the members in the order in
which the reader knows them. So whatever is stored or exchanged reads back from its compact
text and from its indented text.
-/

namespace BuildTriage

open Json RecordReader

/-- A build is restored. -/
theorem BuildRef.restores : Restores BuildRef.encode BuildRef.decoder :=
  RecordReader.restores (by decide) fun b =>
    ((takes_required restores_text "project" b.project).map BuildRef.mk
      |>.seq (takes_required restores_word "number" b.number) :)

/-- The build that started another one is restored. -/
theorem ParentBuild.restores : Restores ParentBuild.encode ParentBuild.decoder :=
  RecordReader.restores (by decide) fun u =>
    ((takes_required restores_text "project" u.project).map ParentBuild.mk
      |>.seq (takes_required restores_word "build" u.build) :)

/-- A result is restored from its name. -/
theorem BuildResult.restores : Restores BuildResult.encode BuildResult.decoder :=
  restores_choice fun r => by cases r <;> rfl

/-- What is known of a build is restored: what is not known is written as a null. -/
theorem BuildInfo.restores : Restores BuildInfo.encode BuildInfo.decoder :=
  RecordReader.restores (by decide) fun i =>
    ((takes_required BuildRef.restores "build" i.build).map BuildInfo.mk
      |>.seq (takes_required restores_text "display_name" i.displayName)
      |>.seq (takes_required BuildResult.restores "result" i.result)
      |>.seq (takes_required restores_word "start_time_ms" i.startTime)
      |>.seq (takes_required restores_word "duration_ms" i.duration)
      |>.seq (takes_nullable restores_text (fun _ => nofun) "node_name" i.nodeName)
      |>.seq (takes_nullable restores_text (fun _ => nofun) "master" i.master)
      |>.seq (takes_required restores_texts "trigger_causes" i.triggerCauses)
      |>.seq (takes_nullable ParentBuild.restores (fun _ => nofun) "upstream" i.parent)
      |>.seq (takes_required restores_text "time_zone_offset" i.timeZoneOffset)
      |>.seq (takes_required restores_word "log_size_bytes" i.logSize) :)

/-- A cause is restored. -/
theorem FailureCause.restores : Restores FailureCause.encode FailureCause.decoder :=
  fun c => ⟨(depicts_encode c).exact, (depicts_encode c).reads⟩

/-- What a list shows of a cause is restored. -/
theorem ShallowCause.restores : Restores ShallowCause.encode ShallowCause.decoder :=
  RecordReader.restores (by decide) fun c =>
    ((takes_required restores_text "id" c.id).map ShallowCause.mk
      |>.seq (takes_required restores_text "name" c.name)
      |>.seq (takes_required restores_text "description" c.description)
      |>.seq (takes_required restores_texts "categories" c.categories) :)

/-- The id and name of a cause are restored. -/
theorem CauseName.restores : Restores CauseName.encode CauseName.decoder :=
  RecordReader.restores (by decide) fun c =>
    ((takes_required restores_text "id" c.id).map CauseName.mk
      |>.seq (takes_required restores_text "name" c.name) :)

/-- A found indication is restored: what it does not have is not written. -/
theorem FoundIndication.restores : Restores FoundIndication.encode FoundIndication.decoder :=
  RecordReader.restores (by decide) fun f =>
    ((takes_required restores_text "pattern" f.pattern).map FoundIndication.mk
      |>.seq (takes_required restores_text "matchingFile" f.matchingFile)
      |>.seq (takes_optional restores_word (fun _ => nofun) "matchingLine" f.matchingLine)
      |>.seq (takes_optional restores_text (fun _ => nofun) "matchingString" f.matchingString)
      |>.seq (takes_optional restores_text (fun _ => nofun) "matchingHash" f.matchingHash)
      |>.seq (takes_optional BuildRef.restores (fun _ => nofun) "build" f.build) :)

/-- A found cause is restored. -/
theorem FoundCause.restores : Restores FoundCause.encode FoundCause.decoder :=
  RecordReader.restores (by decide) fun f =>
    ((takes_required restores_text "id" f.id).map FoundCause.mk
      |>.seq (takes_required restores_text "name" f.name)
      |>.seq (takes_defaulted restores_text "description" "" f.description)
      |>.seq (takes_defaulted restores_texts "categories" [] f.categories)
      |>.seq (takes_required FoundIndication.restores.list "indications" f.indications) :)

/-- A found cause in a record is restored. -/
theorem CauseStatistics.restores : Restores CauseStatistics.encode CauseStatistics.decoder :=
  RecordReader.restores (by decide) fun c =>
    ((takes_required restores_text "id" c.id).map CauseStatistics.mk
      |>.seq (takes_defaulted FoundIndication.restores.list "indications" [] c.indications) :)

/-- A statistics record is restored. -/
theorem Statistics.restores : Restores Statistics.encode Statistics.decoder :=
  RecordReader.restores (by decide) fun s =>
    ((takes_required restores_text "projectName" s.projectName).map Statistics.mk
      |>.seq (takes_required restores_word "buildNumber" s.buildNumber)
      |>.seq (takes_defaulted restores_text "displayName" "" s.displayName)
      |>.seq (takes_required restores_word "startTime" s.startTime)
      |>.seq (takes_required restores_word "duration" s.duration)
      |>.seq (takes_defaulted restores_texts "triggerCauses" [] s.triggerCauses)
      |>.seq (takes_required restores_text "nodeName" s.nodeName)
      |>.seq (takes_required restores_text "master" s.master)
      |>.seq (takes_defaulted restores_text "timeZoneOffset" "" s.timeZoneOffset)
      |>.seq (takes_required restores_text "result" s.result)
      |>.seq (takes_optional ParentBuild.restores (fun _ => nofun) "upstreamCause" s.parent)
      |>.seq (takes_defaulted CauseStatistics.restores.list "failureCauses" [] s.failureCauses) :)

/-- A filter is restored: a field that is not set is written as a null. -/
theorem StatisticsFilter.restores : Restores StatisticsFilter.encode StatisticsFilter.decoder :=
  RecordReader.restores (by decide) fun f =>
    ((takes_nullable restores_text (fun _ => nofun) "project_name" f.projectName).map
        StatisticsFilter.mk
      |>.seq (takes_required restores_word.list "build_numbers" f.buildNumbers)
      |>.seq (takes_nullable restores_word (fun _ => nofun) "since" f.since)
      |>.seq (takes_nullable restores_word (fun _ => nofun) "until" f.before)
      |>.seq (takes_nullable BuildResult.restores (fun _ => nofun) "result" f.result)
      |>.seq (takes_nullable BuildResult.restores (fun _ => nofun) "exclude_result"
        f.excludeResult)
      |>.seq (takes_nullable restores_text (fun _ => nofun) "master" f.master)
      |>.seq (takes_nullable restores_text (fun _ => nofun) "node_name" f.nodeName) :)

/-- Every value of a type reads back from both of its texts. -/
structure RoundTrips (α : Type) [Format α] : Prop where
  /-- The compact text of a value reads as the value. -/
  compact : ∀ a : α, decodeText Format.decoder (Format.encode a).compact = .ok a
  /-- The indented text of a value reads as the value. -/
  indented : ∀ a : α, decodeText Format.decoder (Format.encode a).indented = .ok a
  /-- Whatever text a value was read from, writing the value and reading it again gives the
  value. -/
  rewritten : ∀ (text : String) (a : α), decodeText Format.decoder text = .ok a →
    decodeText Format.decoder (Format.encode a).compact = .ok a ∧
      decodeText Format.decoder (Format.encode a).indented = .ok a

/-- What is restored reads back from both of its texts. -/
theorem RoundTrips.of_restores {α : Type} [Format α]
    (h : Restores (Format.encode : α → Value) Format.decoder) : RoundTrips α where
  compact := h.compact
  indented := h.indented
  rewritten _ a _ := ⟨h.compact a, h.indented a⟩

/-- Reading undoes writing over everything that is stored or exchanged. -/
theorem formats_roundTrip :
    RoundTrips FailureCause ∧ RoundTrips Indication ∧ RoundTrips ReaderMode ∧
    RoundTrips Modification ∧ RoundTrips Tombstone ∧ RoundTrips ShallowCause ∧
    RoundTrips CauseName ∧ RoundTrips FoundIndication ∧ RoundTrips FoundCause ∧
    RoundTrips Statistics ∧ RoundTrips StatisticsFilter ∧ RoundTrips BuildRef ∧
    RoundTrips BuildInfo ∧ RoundTrips BuildResult :=
  ⟨.of_restores FailureCause.restores, .of_restores Indication.restores,
    .of_restores ReaderMode.restores, .of_restores Modification.restores,
    .of_restores Tombstone.restores, .of_restores ShallowCause.restores,
    .of_restores CauseName.restores, .of_restores FoundIndication.restores,
    .of_restores FoundCause.restores, .of_restores Statistics.restores,
    .of_restores StatisticsFilter.restores, .of_restores BuildRef.restores,
    .of_restores BuildInfo.restores, .of_restores BuildResult.restores⟩

end BuildTriage
