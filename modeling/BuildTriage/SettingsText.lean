import BuildTriage.Settings
import BuildTriage.Toml.Reader

/-!
# Settings as text

Settings are written as a TOML document with a table for each section. Text that reads
as settings is checked; a document is the settings it stands for or an error.
-/

namespace BuildTriage.Settings

open Json

/-- The settings that a TOML document stands for, when they can work. -/
def ofText (text : String) : Except SettingsError Settings := do
  let table ← match Toml.read text with
    | some table => pure table
    | none => throw .malformed
  let settings ← (decodeValue decoder table.record).mapError fun _ => .malformed
  settings.check
  return settings

end BuildTriage.Settings
