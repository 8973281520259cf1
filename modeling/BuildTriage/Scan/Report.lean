import BuildTriage.Found
import BuildTriage.Settings
import BuildTriage.Scan.Attempt
import BuildTriage.Scan.Window

/-!
# Scans and their reports

A scan goes through the items of a log in order and stops at the first hit. Read line
by line, the items are the lines, and a hit reports its whole line. Read over several
lines, the items are the windows over the lines joined by new lines, and a hit reports
the text that matched, with the number of the line in which it begins. An item that is
overdue counts as one without a hit; an exhausted scan reports nothing.
-/

namespace BuildTriage.Scan

open Text

/-- Where a scan stands. -/
inductive State where
  | notStarted
  | scanning
  | found
  | notFound
  | lineTimedOut
  | scanTimedOut
  deriving DecidableEq, Repr, Inhabited

namespace State

/-- The name of a state. -/
def label : State → String
  | .notStarted => "not_started"
  | .scanning => "scanning"
  | .found => "found"
  | .notFound => "not_found"
  | .lineTimedOut => "line_timed_out"
  | .scanTimedOut => "scan_timed_out"

/-- All states, from first to last. -/
def all : List State := [notStarted, scanning, found, notFound, lineTimedOut, scanTimedOut]

end State

/-- The bytes of the first match in a text. -/
abbrev Matcher := List Char → Option (Nat × Nat)

/-- How far a scan is. -/
structure Progress where
  /-- Where it stands. -/
  state : State
  /-- How many items were overdue. -/
  late : Nat
  deriving DecidableEq, Repr

namespace Progress

/-- A scan that has not started. -/
def begun : Progress := ⟨.notStarted, 0⟩

/-- The scan goes over to a state. -/
def reach (p : Progress) (next : State) : Progress :=
  ⟨next, if next = .lineTimedOut then p.late + 1 else p.late⟩

end Progress

/-- What is known after a search. -/
structure Search (α : Type) where
  /-- The item that has a hit, and the bytes of the hit. -/
  hit : Option (α × (Nat × Nat))
  /-- How far the scan is. -/
  progress : Progress
  /-- The abandoned workers. -/
  allowance : Allowance
  deriving DecidableEq, Repr

/-- Searches the items in order, with the worker at hand, up to the first hit. -/
def search {α : Type} (hit : α → Option (Nat × Nat)) :
    List (Turn α) → Option (Mailbox α) → Progress → Allowance → Search α
  | [], _, progress, allowance => ⟨none, progress, allowance⟩
  | turn :: rest, worker, progress, allowance =>
    match attempt hit worker turn allowance with
    | (.answer (some bytes), _, allowance) => ⟨some (turn.item, bytes), progress, allowance⟩
    | (.answer none, worker, allowance) => search hit rest worker progress allowance
    | (.timedOut, worker, allowance) =>
      search hit rest worker ((progress.reach .lineTimedOut).reach .scanning) allowance
    | (.lost, _, allowance) => ⟨none, progress.reach .scanTimedOut, allowance⟩

/-- The items that a search tries: those up to the one at which it ends. -/
def tried {α : Type} (hit : α → Option (Nat × Nat)) : List (Turn α) → Allowance → List α
  | [], _ => []
  | turn :: rest, allowance =>
    let allowance := turn.outside.foldl .shift allowance
    match turn.ending with
    | .answered => turn.item :: if (hit turn.item).isSome then [] else tried hit rest allowance
    | .overdue =>
      turn.item :: match allowance.abandon? with
        | some less => tried hit rest less
        | none => []
    | .exhausted | .crashed => [turn.item]
    | .unstarted => []

/-- The items whose workers a search abandons, in order. -/
def forsaken {α : Type} (hit : α → Option (Nat × Nat)) : List (Turn α) → Allowance → List α
  | [], _ => []
  | turn :: rest, allowance =>
    let allowance := turn.outside.foldl .shift allowance
    match turn.ending with
    | .answered => if (hit turn.item).isSome then [] else forsaken hit rest allowance
    | .overdue =>
      match allowance.abandon? with
      | some less => turn.item :: forsaken hit rest less
      | none => []
    | .exhausted => if allowance.abandon?.isSome then [turn.item] else []
    | .crashed | .unstarted => []

/-- What a scan reports. -/
structure Report where
  /-- How the scan ends. -/
  state : State
  /-- What it found. -/
  found : Option FoundIndication
  /-- How many items were overdue. -/
  late : Nat
  deriving DecidableEq, Repr

/-- The written form of a report. -/
def Report.encode (r : Report) : Json.Value :=
  .record [("state", .text r.state.label),
    ("found", .ofOption FoundIndication.encode r.found), ("lines_timed_out", .nat r.late)]

/-- The report of a search; `describe` makes a found indication of a hit. -/
def Report.ofSearch {α : Type} (describe : α → Nat × Nat → FoundIndication) (s : Search α) :
    Report :=
  let progress :=
    if s.progress.state = .scanTimedOut then s.progress
    else s.progress.reach (if s.hit.isSome then .found else .notFound)
  ⟨progress.state, s.hit.map fun h => describe h.1 h.2, progress.late⟩

/-- The number of the line, from one, in which a byte of a text stands. -/
def lineAt (text : List Char) (offset : Nat) : Nat := (takeBytes offset text).count '\n' + 1

/-- The lines of a log as one text. -/
def joinLines (lines : List String) : List Char := ("\n".intercalate lines).toList

/-- The record of a hit in a numbered line. -/
def lineFound (pattern file : String) (item : String × Nat) : FoundIndication :=
  .ofMatch pattern file (UInt64.ofNat (item.2 + 1)) item.1

/-- The record of a hit at the given bytes of a window over a text. -/
def blockFound (pattern file : String) (text : List Char) (w : Window) (bytes : Nat × Nat) :
    FoundIndication :=
  .ofMatch pattern file (UInt64.ofNat (lineAt text (w.start + bytes.1)))
    (String.ofList (sliceBytes bytes.1 bytes.2 w.rest))

/-- A way to scan logs. -/
structure Scanner where
  /-- The budgets of a line. -/
  lineLimits : Limits
  /-- The budgets of a window. -/
  blockLimits : Limits
  /-- The bytes of a window. -/
  size : Nat
  /-- The bytes that a window shares with the one before. -/
  overlap : Nat
  /-- A window has bytes, and more than it shares. -/
  overlap_lt : overlap < size
  deriving DecidableEq, Repr

namespace Scanner

/-- The scanner of the settings: a window has at least one byte, and shares at most all
but one of them. -/
def ofSettings (s : ScannerSettings) : Scanner where
  lineLimits := ⟨s.lineTimeout.toNat, s.fileTimeout.toNat⟩
  blockLimits := ⟨s.blockTimeout.toNat, s.fileTimeout.toNat⟩
  size := max s.blockSize.toNat 1
  overlap := min s.blockOverlap.toNat (s.blockSize.toNat - 1)
  overlap_lt := by omega

/-- The numbered lines of a log. -/
def lineItems (lines : List String) : List (String × Nat) := lines.zipIdx

/-- The windows over a log. -/
def blockItems (s : Scanner) (lines : List String) : List Window :=
  Window.cover s.size s.overlap (joinLines lines)

/-- Searches items from the start of a scan, with no worker at hand; answers the report and
the abandoned workers. -/
def conduct {α : Type} (hit : α → Option (Nat × Nat)) (describe : α → Nat × Nat → FoundIndication)
    (turns : List (Turn α)) (allowance : Allowance) : Report × Allowance :=
  let s := search hit turns none (Progress.begun.reach .scanning) allowance
  (.ofSearch describe s, s.allowance)

/-- Scans the lines of a log, in the given turns. -/
def scanLines (matcher : Matcher) (pattern file : String) (turns : List (Turn (String × Nat)))
    (allowance : Allowance) : Report × Allowance :=
  conduct (fun item => matcher item.1.toList) (fun item _ => lineFound pattern file item) turns
    allowance

/-- Scans the windows over a log, in the given turns. -/
def scanBlocks (matcher : Matcher) (pattern file : String) (lines : List String)
    (turns : List (Turn Window)) (allowance : Allowance) : Report × Allowance :=
  conduct (fun w => matcher w.chars) (blockFound pattern file (joinLines lines)) turns allowance

/-- The turns of the lines of a log, when texts need the given effort. -/
def lineTurns (s : Scanner) (effort : List Char → Effort) (lines : List String) :
    List (Turn (String × Nat)) :=
  s.lineLimits.turns (fun item => effort item.1.toList) 0 (lineItems lines) []

/-- The turns of the windows over a log, when texts need the given effort. -/
def blockTurns (s : Scanner) (effort : List Char → Effort) (lines : List String) :
    List (Turn Window) :=
  s.blockLimits.turns (fun w => effort w.chars) 0 (s.blockItems lines) []

/-- Scans a log for a pattern with a matcher that needs the given effort for each text;
answers what is found and the abandoned workers. -/
def run (s : Scanner) (matcher : Matcher) (effort : List Char → Effort) (mode : ReaderMode)
    (pattern : String) (lines : List String) (file : String) (allowance : Allowance) :
    Report × Allowance :=
  match mode with
  | .singleLine => scanLines matcher pattern file (s.lineTurns effort lines) allowance
  | .multiLine => scanBlocks matcher pattern file lines (s.blockTurns effort lines) allowance

/-- The texts that a scan shows to its matcher, in order. -/
def shown (s : Scanner) (matcher : Matcher) (effort : List Char → Effort) (mode : ReaderMode)
    (lines : List String) (allowance : Allowance) : List String :=
  match mode with
  | .singleLine =>
    (tried (fun item => matcher item.1.toList) (s.lineTurns effort lines) allowance).map (·.1)
  | .multiLine =>
    (tried (fun w => matcher w.chars) (s.blockTurns effort lines) allowance).map fun w =>
      String.ofList w.chars

/-- How the calls of the workers that a scan abandons end, in the order of their items. -/
def lastCalls (s : Scanner) (matcher : Matcher) (effort : List Char → Effort) (mode : ReaderMode)
    (lines : List String) (allowance : Allowance) : List LastCall :=
  match mode with
  | .singleLine =>
    (forsaken (fun item => matcher item.1.toList) (s.lineTurns effort lines) allowance).map
      fun item => (effort item.1.toList).lastCall
  | .multiLine =>
    (forsaken (fun w => matcher w.chars) (s.blockTurns effort lines) allowance).map
      fun w => (effort w.chars).lastCall

/-- The most abandoned workers of all scans together, whatever the settings say. -/
def sharedCap : Nat := 16

/-- Scans a log for an indication, whose attempts take no time. -/
def scan (s : Scanner) (i : Indication) (lines : List String) (file : String) : Report :=
  (s.run i.compiled.find (fun _ => .takes 0) i.mode i.pattern lines file (.fresh sharedCap)).1

end Scanner

end BuildTriage.Scan
