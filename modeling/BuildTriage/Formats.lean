import BuildTriage.Settings
import BuildTriage.Statistics

/-!
# The formats of stored values

Everything that is stored or exchanged has one written form, and is read back by the reader
that stands beside it.
-/

namespace BuildTriage

open Json

instance : Format ReaderMode := ⟨ReaderMode.encode, ReaderMode.decoder⟩

instance : Format Indication := ⟨Indication.encode, Indication.decoder⟩

instance : Format Modification := ⟨Modification.encode, Modification.decoder⟩

instance : Format Tombstone := ⟨Tombstone.encode, Tombstone.decoder⟩

instance : Format FailureCause := ⟨FailureCause.encode, FailureCause.decoder⟩

instance : Format ShallowCause := ⟨ShallowCause.encode, ShallowCause.decoder⟩

instance : Format CauseName := ⟨CauseName.encode, CauseName.decoder⟩

instance : Format BuildRef := ⟨BuildRef.encode, BuildRef.decoder⟩

instance : Format BuildResult := ⟨BuildResult.encode, BuildResult.decoder⟩

instance : Format BuildInfo := ⟨BuildInfo.encode, BuildInfo.decoder⟩

instance : Format FoundIndication := ⟨FoundIndication.encode, FoundIndication.decoder⟩

instance : Format FoundCause := ⟨FoundCause.encode, FoundCause.decoder⟩

instance : Format Statistics := ⟨Statistics.encode, Statistics.decoder⟩

instance : Format StatisticsFilter := ⟨StatisticsFilter.encode, StatisticsFilter.decoder⟩

instance : Format ScannerSettings := ⟨ScannerSettings.encode, ScannerSettings.decoder⟩

instance : Format KnowledgeBaseSettings :=
  ⟨KnowledgeBaseSettings.encode, KnowledgeBaseSettings.decoder⟩

instance : Format RescanSettings := ⟨RescanSettings.encode, RescanSettings.decoder⟩

instance : Format MigrationSettings := ⟨MigrationSettings.encode, MigrationSettings.decoder⟩

instance : Format Settings := ⟨Settings.encode, Settings.decoder⟩

end BuildTriage
