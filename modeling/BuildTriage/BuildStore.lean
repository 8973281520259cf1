import BuildTriage.Found

/-!
# Builds with their logs

A build store keeps what is known of each build, its log and the causes found for it.
A build that was never scanned has no found causes, which is not the same as an empty
list of them. The records stand in the order of their builds, one for each build.
-/

namespace BuildTriage

/-- A build is not in the store. -/
structure UnknownBuild where
  /-- The build that was asked for. -/
  build : BuildRef
  deriving DecidableEq, Repr

/-- The message of an unknown build. -/
def UnknownBuild.message (e : UnknownBuild) : String := "build not found: " ++ e.build.label

/-- A build with its log. -/
structure BuildRecord where
  /-- What is known of the build. -/
  info : BuildInfo
  /-- The lines of its log. -/
  log : List String
  /-- The causes found for it, once it has been scanned. -/
  found : Option (List FoundCause)
  deriving DecidableEq, Repr

namespace BuildRecord

/-- The length of a log in bytes, with a new line after each of its lines. -/
def logSize (log : List String) : UInt64 :=
  log.foldl (fun n line => n + (UInt64.ofNat line.utf8ByteSize + 1)) 0

/-- The record of a build that has not been scanned; the length of its log is taken from
the log. -/
def unscanned (info : BuildInfo) (log : List String) : BuildRecord :=
  ⟨{ info with logSize := logSize log }, log, none⟩

end BuildRecord

/-- The records of builds, in the order of their builds. -/
structure BuildStore where
  /-- The records. -/
  records : List BuildRecord
  deriving DecidableEq, Repr

namespace BuildStore

/-- A store without builds. -/
def empty : BuildStore := ⟨[]⟩

/-- Puts a record in its place among ordered records, for one of the same build if there
is one. -/
def place (r : BuildRecord) : List BuildRecord → List BuildRecord
  | [] => [r]
  | s :: rest =>
    if r.info.build = s.info.build then r :: rest
    else if r.info.build.precedes s.info.build then r :: s :: rest
    else s :: place r rest

/-- The store with a build and its log; what it held of that build before is lost. -/
def insert (s : BuildStore) (info : BuildInfo) (log : List String) : BuildStore :=
  ⟨place (.unscanned info log) s.records⟩

/-- The record of a build. -/
def get (s : BuildStore) (b : BuildRef) : Except UnknownBuild BuildRecord :=
  match s.records.find? (·.info.build == b) with
  | some r => .ok r
  | none => .error ⟨b⟩

/-- The log of a build. -/
def log (s : BuildStore) (b : BuildRef) : Except UnknownBuild (List String) := (s.get b).map (·.log)

/-- What is known of a build. -/
def info (s : BuildStore) (b : BuildRef) : Except UnknownBuild BuildInfo := (s.get b).map (·.info)

/-- The causes found for a build, once it has been scanned. -/
def found (s : BuildStore) (b : BuildRef) : Except UnknownBuild (Option (List FoundCause)) :=
  (s.get b).map (·.found)

/-- The store with other found causes for a build. -/
def setFound (s : BuildStore) (b : BuildRef) (found : Option (List FoundCause)) :
    Except UnknownBuild BuildStore := do
  let _ ← s.get b
  return ⟨s.records.map fun r => if r.info.build = b then { r with found := found } else r⟩

/-- The store with found causes attached to a build, in place of those it had. -/
def attach (s : BuildStore) (b : BuildRef) (causes : List FoundCause) :
    Except UnknownBuild BuildStore :=
  s.setFound b (some causes)

/-- The store in which a build counts as never scanned. -/
def forget (s : BuildStore) (b : BuildRef) : Except UnknownBuild BuildStore := s.setFound b none

/-- All builds, in order. -/
def builds (s : BuildStore) : List BuildRef := s.records.map (·.info.build)

end BuildStore

end BuildTriage
