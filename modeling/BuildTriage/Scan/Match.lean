import BuildTriage.Scan.Report

/-!
# Matching a log against causes

Every live cause is tried on a log, indication by indication, and is found when one of
its indications is. A cause of a fallback category is reported only when no other cause
is found.
-/

namespace BuildTriage.Scan

/-- What the indications of a cause find in a log, in their order. -/
def causeHits (s : Scanner) (cause : FailureCause) (lines : List String) (file : String)
    (build : Option BuildRef) : List FoundIndication :=
  cause.indications.filterMap fun i =>
    (s.scan i lines file).found.map fun f =>
      match build with
      | some b => f.withBuild b
      | none => f

/-- The live causes that are found in a log, in their order. -/
def matchCauses (s : Scanner) (causes : List FailureCause) (lines : List String)
    (file : String) (build : Option BuildRef) : List FoundCause :=
  (causes.filter fun c => !c.isRemoved).filterMap fun c =>
    let hits := causeHits s c lines file build
    if hits.isEmpty then none else some (.ofCause c hits)

/-- Whether a found cause belongs to a fallback category. -/
def isFallback (categories : List String) (found : FoundCause) : Bool :=
  categories.any found.hasCategory

/-- The found causes without those of fallback categories, unless there are only those. -/
def dropFallbacks (categories : List String) (found : List FoundCause) : List FoundCause :=
  if found.all (isFallback categories) then found
  else found.filter fun c => !isFallback categories c

end BuildTriage.Scan
