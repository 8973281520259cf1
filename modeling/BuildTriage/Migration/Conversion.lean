import BuildTriage.Triage

/-!
# Filling in what old records lack

Old records of found indications have the number of a line and not its text. The text is
filled in from the log of the build, under its lock, so that it never takes the place of
what a rescan has found meanwhile. A record whose line the log does not have stays as it
is, and a build of which nothing is filled in is not written.
-/

namespace BuildTriage

/-- Found indications, each with the text of its line where it can be filled in, and how
many were filled in. -/
def FoundIndication.fillAll (log : List String) :
    List FoundIndication → Nat × List FoundIndication
  | [] => (0, [])
  | f :: rest =>
    let (n, filled) := fillAll log rest
    match f.fill? log with
    | some g => (n + 1, g :: filled)
    | none => (n, f :: filled)

/-- Found causes with the texts of their lines filled in, and how many were filled in. -/
def FoundCause.fillAll (log : List String) : List FoundCause → Nat × List FoundCause
  | [] => (0, [])
  | c :: rest =>
    let (n, filled) := fillAll log rest
    let (m, indications) := FoundIndication.fillAll log c.indications
    (m + n, { c with indications := indications } :: filled)

/-- The store with what was found for a build filled in, and how many texts were. -/
def BuildStore.fillFound (s : BuildStore) (b : BuildRef) :
    Except UnknownBuild (Nat × BuildStore) := do
  match ← s.found b with
  | none => return (0, s)
  | some causes =>
    let (n, filled) := FoundCause.fillAll (← s.log b) causes
    if n = 0 then return (0, s) else return (n, ← s.attach b filled)

namespace Triage

/-- Fills in what was found for a build; answers how many texts were filled in. -/
def fillFound (build : BuildRef) : TriageStep Nat := do
  let (n, builds) ← ask (·.fillFound build)
  modify fun t => { t with builds := builds }
  return n

/-- Fills in what was found for a build, under its lock; nothing is done while somebody
else holds it. -/
def convert (build : BuildRef) : TriageStep (Option Nat) := withLock build (fillFound build)

end Triage

end BuildTriage
