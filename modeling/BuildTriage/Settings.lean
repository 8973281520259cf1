import BuildTriage.Json.Decode

/-!
# Settings

The settings have a section for the scanner, for the knowledge base, for rescans on
demand and for the migration of old records. Every member has a default, so that an
empty record is a valid form of every section. `Settings.check` refuses the values
that cannot work; the sizes of the rescan pool are raised to their floors instead.
-/

namespace BuildTriage

open Json

/-- How logs are scanned. -/
structure ScannerSettings where
  /-- How long one line may take, in milliseconds. -/
  lineTimeout : UInt64 := 1000
  /-- How long a whole scan may take, in milliseconds. -/
  fileTimeout : UInt64 := 10000
  /-- How long one window of several lines may take, in milliseconds. -/
  blockTimeout : UInt64 := 2000
  /-- The bytes of a window. -/
  blockSize : UInt64 := 15000
  /-- The bytes that a window shares with the one before. -/
  blockOverlap : UInt64 := 5000
  /-- How many abandoned workers may be running at a time. -/
  maxAbandonedWorkers : UInt64 := 16
  /-- Longer logs are not scanned; zero means no limit. -/
  maxLogSizeMb : UInt64 := 0
  /-- Aborted builds are not scanned. -/
  skipAborted : Bool := false
  /-- The categories of causes that are reported only when no other is found. -/
  fallbackCategories : List String := []
  deriving DecidableEq, Repr, Inhabited

namespace ScannerSettings

/-- The written form of the section. -/
def encode (s : ScannerSettings) : Value :=
  .record [
    ("line_timeout_ms", .word s.lineTimeout), ("file_timeout_ms", .word s.fileTimeout),
    ("block_timeout_ms", .word s.blockTimeout), ("block_size", .word s.blockSize),
    ("block_overlap", .word s.blockOverlap),
    ("max_abandoned_workers", .word s.maxAbandonedWorkers),
    ("max_log_size_mb", .word s.maxLogSizeMb), ("skip_aborted", .bool s.skipAborted),
    ("fallback_categories", .texts s.fallbackCategories)]

/-- The members of the section. -/
def reader : RecordReader ScannerSettings :=
  .mk <$> .defaulted "line_timeout_ms" .word 1000
    <*> .defaulted "file_timeout_ms" .word 10000
    <*> .defaulted "block_timeout_ms" .word 2000
    <*> .defaulted "block_size" .word 15000
    <*> .defaulted "block_overlap" .word 5000
    <*> .defaulted "max_abandoned_workers" .word 16
    <*> .defaulted "max_log_size_mb" .word 0
    <*> .defaulted "skip_aborted" .bool false
    <*> .defaulted "fallback_categories" (.list .text) []

/-- Reads the section. -/
def decoder : Decoder ScannerSettings := reader.decode

end ScannerSettings

/-- Where a knowledge base keeps its causes. -/
inductive Backend where
  | list
  | sqlite
  | redis
  deriving DecidableEq, Repr, Inhabited

namespace Backend

/-- The name of a backend. -/
def name : Backend → String
  | .list => "local"
  | .sqlite => "sqlite"
  | .redis => "redis"

/-- All backends under their names. -/
def choices : List (String × Backend) := [list, sqlite, redis].map fun b => (b.name, b)

/-- The written form of a backend. -/
def encode (b : Backend) : Value := .text b.name

/-- Reads a backend. -/
def decoder : Decoder Backend := .choice choices

end Backend

/-- Which knowledge base is used, and what it records. -/
structure KnowledgeBaseSettings where
  /-- Where causes are kept. -/
  backend : Backend := .list
  /-- The file that they are kept in. -/
  path : Option String := none
  /-- The address of the server that keeps them. -/
  url : Option String := none
  /-- Statistics are recorded. -/
  enableStatistics : Bool := false
  /-- Successful builds are recorded too. -/
  successfulLogging : Bool := false
  /-- How often the cache before a remote backend is refreshed, in seconds. -/
  cacheRefresh : UInt64 := 60
  /-- The controller named in statistics for a build that names none. -/
  masterName : String := "local"
  deriving DecidableEq, Repr, Inhabited

namespace KnowledgeBaseSettings

/-- The written form of the section. -/
def encode (s : KnowledgeBaseSettings) : Value :=
  .record [
    ("backend", s.backend.encode), ("path", .ofOption .text s.path),
    ("url", .ofOption .text s.url), ("enable_statistics", .bool s.enableStatistics),
    ("successful_logging", .bool s.successfulLogging),
    ("cache_refresh_secs", .word s.cacheRefresh), ("master_name", .text s.masterName)]

/-- The members of the section. -/
def reader : RecordReader KnowledgeBaseSettings :=
  .mk <$> .defaulted "backend" Backend.decoder .list
    <*> .optional "path" .text
    <*> .optional "url" .text
    <*> .defaulted "enable_statistics" .bool false
    <*> .defaulted "successful_logging" .bool false
    <*> .defaulted "cache_refresh_secs" .word 60
    <*> .defaulted "master_name" .text "local"

/-- Reads the section. -/
def decoder : Decoder KnowledgeBaseSettings := reader.decode

end KnowledgeBaseSettings

/-- The sizes of the pool that rescans builds on demand. -/
structure RescanSettings where
  /-- The workers that are kept when there is nothing to do. -/
  minWorkers : UInt64 := 1
  /-- The most workers at a time. -/
  maxWorkers : UInt64 := 5
  /-- How long a surplus worker waits for work, in seconds. -/
  keepAlive : UInt64 := 900
  /-- The most builds that wait for a worker. -/
  queueCapacity : UInt64 := 1000
  /-- How long running rescans are waited for at the end, in seconds. -/
  shutdownGrace : UInt64 := 30
  deriving DecidableEq, Repr, Inhabited

namespace RescanSettings

/-- The section with its sizes raised to their floors: at least one worker, no
fewer at most than at least, and room for one build in the queue. -/
def clamped (s : RescanSettings) : RescanSettings :=
  let minWorkers := max s.minWorkers 1
  { s with
    minWorkers := minWorkers
    maxWorkers := max s.maxWorkers minWorkers
    queueCapacity := max s.queueCapacity 1 }

/-- The written form of the section. -/
def encode (s : RescanSettings) : Value :=
  .record [
    ("min_workers", .word s.minWorkers), ("max_workers", .word s.maxWorkers),
    ("keep_alive_secs", .word s.keepAlive), ("queue_capacity", .word s.queueCapacity),
    ("shutdown_grace_secs", .word s.shutdownGrace)]

/-- The members of the section. -/
def reader : RecordReader RescanSettings :=
  .mk <$> .defaulted "min_workers" .word 1
    <*> .defaulted "max_workers" .word 5
    <*> .defaulted "keep_alive_secs" .word 900
    <*> .defaulted "queue_capacity" .word 1000
    <*> .defaulted "shutdown_grace_secs" .word 30

/-- Reads the section. -/
def decoder : Decoder RescanSettings := reader.decode

end RescanSettings

/-- How old records are brought up to date. -/
structure MigrationSettings where
  /-- How long a conversion waits before it runs, in milliseconds. -/
  debounce : UInt64 := 3000
  /-- The workers that run conversions. -/
  poolSize : UInt64 := 10
  /-- How much later each held-back conversion runs than the one before, in milliseconds. -/
  stagger : UInt64 := 100
  deriving DecidableEq, Repr, Inhabited

namespace MigrationSettings

/-- The written form of the section. -/
def encode (s : MigrationSettings) : Value :=
  .record [("debounce_ms", .word s.debounce), ("pool_size", .word s.poolSize),
    ("stagger_ms", .word s.stagger)]

/-- The members of the section. -/
def reader : RecordReader MigrationSettings :=
  .mk <$> .defaulted "debounce_ms" .word 3000
    <*> .defaulted "pool_size" .word 10
    <*> .defaulted "stagger_ms" .word 100

/-- Reads the section. -/
def decoder : Decoder MigrationSettings := reader.decode

end MigrationSettings

/-- All settings. -/
structure Settings where
  /-- How logs are scanned. -/
  scanner : ScannerSettings := {}
  /-- Which knowledge base is used. -/
  knowledgeBase : KnowledgeBaseSettings := {}
  /-- How builds are rescanned on demand. -/
  rescan : RescanSettings := {}
  /-- How old records are brought up to date. -/
  migration : MigrationSettings := {}
  deriving DecidableEq, Repr, Inhabited

/-- Why settings are refused. -/
inductive SettingsError where
  /-- The file with the settings cannot be read. -/
  | unreadable (path reason : String)
  /-- The text of the settings does not read as settings. -/
  | malformed
  /-- A scanner timeout is zero. -/
  | zeroTimeout
  /-- A window is not longer than what it shares with the one before. -/
  | blockTooSmall (size overlap : UInt64)
  /-- The knowledge base is kept in a file, and no file is given. -/
  | missingPath
  /-- The knowledge base is kept on a server, and no address is given. -/
  | missingUrl
  /-- The cache is never to be refreshed. -/
  | zeroRefresh
  /-- No worker is to run conversions. -/
  | zeroPool
  deriving DecidableEq, Repr

namespace SettingsError

/-- What is wrong with the settings. -/
def reason : SettingsError → String
  | .unreadable path reason => "cannot read " ++ path ++ ": " ++ reason
  | .malformed => "TOML parse error"
  | .zeroTimeout => "scanner timeouts must be greater than zero"
  | .blockTooSmall size overlap =>
    "scanner block_size (" ++ toString size.toNat ++ ") must exceed block_overlap (" ++
      toString overlap.toNat ++ ")"
  | .missingPath => "sqlite backend requires knowledge_base.path"
  | .missingUrl => "redis backend requires knowledge_base.url"
  | .zeroRefresh => "knowledge_base.cache_refresh_secs must be greater than zero"
  | .zeroPool => "migration.pool_size must be greater than zero"

/-- The message of refused settings. -/
def message (e : SettingsError) : String := "invalid configuration: " ++ e.reason

end SettingsError

/-- The section for the scanner can work: every timeout leaves some time, and a window is
longer than what it shares with the one before. -/
def ScannerSettings.check (s : ScannerSettings) : Except SettingsError Unit :=
  if s.lineTimeout = 0 ∨ s.fileTimeout = 0 ∨ s.blockTimeout = 0 then .error .zeroTimeout
  else if s.blockSize ≤ s.blockOverlap then .error (.blockTooSmall s.blockSize s.blockOverlap)
  else .ok ()

/-- The section for the knowledge base can work: its place is given, and the cache is
refreshed at times. -/
def KnowledgeBaseSettings.check (s : KnowledgeBaseSettings) : Except SettingsError Unit :=
  if s.backend = .sqlite ∧ s.path = none then .error .missingPath
  else if s.backend = .redis ∧ s.url = none then .error .missingUrl
  else if s.cacheRefresh = 0 then .error .zeroRefresh
  else .ok ()

/-- The section for migration can work: someone runs the conversions. -/
def MigrationSettings.check (s : MigrationSettings) : Except SettingsError Unit :=
  if s.poolSize = 0 then .error .zeroPool else .ok ()

namespace Settings

/-- All sections can work; the first that cannot is named. -/
def check (s : Settings) : Except SettingsError Unit := do
  s.scanner.check
  s.knowledgeBase.check
  s.migration.check

/-- The written form of all settings. -/
def encode (s : Settings) : Value :=
  .record [
    ("scanner", s.scanner.encode), ("knowledge_base", s.knowledgeBase.encode),
    ("scan_on_demand", s.rescan.encode), ("migration", s.migration.encode)]

/-- The members of the settings. -/
def reader : RecordReader Settings :=
  .mk <$> .defaulted "scanner" ScannerSettings.decoder {}
    <*> .defaulted "knowledge_base" KnowledgeBaseSettings.decoder {}
    <*> .defaulted "scan_on_demand" RescanSettings.decoder {}
    <*> .defaulted "migration" MigrationSettings.decoder {}

/-- Reads all settings. -/
def decoder : Decoder Settings := reader.decode

end Settings

end BuildTriage
