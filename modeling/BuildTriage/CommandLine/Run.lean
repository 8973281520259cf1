import BuildTriage.CommandLine.Request
import BuildTriage.KnowledgeBase.Opening
import BuildTriage.Scan.Match
import BuildTriage.SettingsText

/-!
# Running the program

A run reads its command line, then the settings, opens the knowledge base that they name
and carries out the request. It prints what it answers, or ends with a message. The time
and the id for a new cause are given.
-/

namespace BuildTriage.CommandLine

/-- Why a run fails. -/
inductive Failure where
  /-- The settings cannot be used. -/
  | settings (e : SettingsError)
  /-- The knowledge base, or a file, cannot be used. -/
  | knowledgeBase (e : KnowledgeBaseError)
  /-- No cause has the id. -/
  | unknownCause (id : String)
  deriving DecidableEq, Repr

/-- The message of a failure. -/
def Failure.message : Failure → String
  | .settings e => e.message
  | .knowledgeBase e => e.message
  | .unknownCause id => "failure cause not found: " ++ id

/-- How a run ends. -/
inductive Exit where
  /-- It has printed a text. -/
  | success (output : String)
  /-- It has failed. -/
  | failure (f : Failure)
  /-- The command line is not understood. -/
  | usage (e : UsageError)
  deriving DecidableEq, Repr

namespace Exit

/-- The exit code of a run. -/
def code : Exit → Nat
  | .success _ => 0
  | .failure _ => 1
  | .usage .help => 0
  | .usage .version => 0
  | .usage _ => 2

/-- What a run has printed. -/
def output : Exit → String
  | .success text => text
  | .usage .version => "build-failure-analyzer 0.1.0\n"
  | .usage .help => "Usage: build-failure-analyzer [OPTIONS] <COMMAND>\n"
  | _ => ""

/-- What a run says went wrong. -/
def complaint : Exit → String
  | .failure f => "error: " ++ f.message ++ "\n"
  | .usage .help => ""
  | .usage .version => ""
  | .usage _ => "Usage: build-failure-analyzer [OPTIONS] <COMMAND>\n"
  | .success _ => ""

end Exit

/-- Lines that are printed, each with its end. -/
def printed (lines : List String) : String := String.join (lines.map (· ++ "\n"))

/-- A line of a log without what ends it. -/
def chomp (line : List Char) : List Char :=
  match line.reverse with
  | '\r' :: rest => rest.reverse
  | _ => line

/-- The lines of a text: a new line ends a line, with a carriage return before it if there
is one. -/
def linesFrom : List Char → List Char → List String
  | [], [] => []
  | line, [] => [String.ofList line.reverse]
  | line, '\n' :: rest => String.ofList (chomp line.reverse) :: linesFrom [] rest
  | line, c :: rest => linesFrom (c :: line) rest

/-- The lines of a log. -/
def logLines (text : String) : List String := linesFrom [] text.toList

/-- The lines that show a found indication. -/
def indicationLine (f : FoundIndication) : String :=
  let line := (f.matchingLine.map fun n => toString n.toNat).getD "?"
  "  " ++ f.matchingFile ++ ":" ++ line ++ "  " ++ f.matchingString.getD ""

/-- The lines that show a found cause. -/
def foundLines (c : FoundCause) : List String :=
  ("● " ++ c.name) :: (if c.description.isEmpty then [] else ["  " ++ c.description]) ++
    c.indications.map indicationLine

/-- What is printed of found causes. -/
def foundText (found : List FoundCause) : String :=
  if found.isEmpty then printed ["no known failure cause found"]
  else printed (found.flatMap foundLines)

/-- The line that shows a cause in a list. -/
def shallowLine (c : ShallowCause) : String :=
  let categories :=
    if c.categories.isEmpty then "" else " [" ++ ", ".intercalate c.categories ++ "]"
  c.id ++ "  " ++ c.name ++ categories

/-- The line that shows a statistics record. -/
def statisticsLine (s : Statistics) : String :=
  s.projectName ++ "#" ++ toString s.buildNumber.toNat ++ "  " ++ s.result ++ "  " ++
    s.nodeName ++ "  causes=" ++ toString s.failureCauses.length

/-- Steps of a run, over the knowledge base. -/
abbrev Program (α : Type) := EStateM Failure KnowledgeBase α

/-- An operation of the knowledge base as a step. -/
def ask {α : Type} (op : Op KnowledgeBase α) : Program α := fun k =>
  match op k with
  | .ok a k => .ok a k
  | .error e k => .error (.knowledgeBase e) k

/-- Scans a log. -/
def scanLog (s : ScannerSettings) (d : Directory) (log : String) : Program (List FoundCause) := do
  match d.readText log with
  | .error reason => throw (.knowledgeBase (.file log reason))
  | .ok text =>
    let causes ← ask KnowledgeBase.causes
    return Scan.dropFallbacks s.fallbackCategories
      (Scan.matchCauses (.ofSettings s) causes (logLines text) log none)

/-- What a request prints. -/
def answer (s : Settings) (d : Directory) (now : UInt64) (fresh : String) :
    Request → Program String
  | .scan log json => do
    let found ← scanLog s.scanner d log
    return if json then printed [(Json.Value.list (found.map FoundCause.encode)).indented]
      else foundText found
  | .listCauses => return printed ((← ask KnowledgeBase.shallow).map shallowLine)
  | .showCause id => do
    match ← ask (KnowledgeBase.getCause id) with
    | some c => return printed [c.encode.indented]
    | none => throw (.unknownCause id)
  | .addCause draft => do
    match draft.cause with
    | .error e => throw (.knowledgeBase (.cause e))
    | .ok c =>
      let c := { c with modifications := c.modifications ++ [⟨"cli", now, "created"⟩] }
      let saved ← ask (KnowledgeBase.add fresh c)
      return printed ["added " ++ saved.name ++ " " ++ saved.id]
  | .removeCause id user => do
    match ← ask (KnowledgeBase.remove id ⟨user, now⟩) with
    | some c => return printed ["removed " ++ c.name ++ " " ++ c.id]
    | none => throw (.unknownCause id)
  | .categories => return printed (← ask KnowledgeBase.categories)
  | .statistics query => do
    if (← get).keepsStatistics then
      return printed ((← ask (KnowledgeBase.statistics query.filter query.limit)).map statisticsLine)
    else return printed ["statistics are disabled for this knowledge base"]

/-- The settings at a path, or those that apply without any. -/
def settingsAt (d : Directory) : Option String → Except SettingsError Settings
  | none => .ok {}
  | some path => do Settings.ofText (← (d.readText path).mapError (.unreadable path))

/-- Carries out a request; answers how that ends and what it leaves. -/
def carryOut (a : Arguments) (d : Directory) (now : UInt64) (fresh : String) :
    Exit × Directory :=
  match settingsAt d a.settings with
  | .error e => (.failure (.settings e), d)
  | .ok s =>
    match KnowledgeBase.open? d s.knowledgeBase with
    | .error e => (.failure (.knowledgeBase e), d)
    | .ok k =>
      let program : Program String := do
        ask KnowledgeBase.start
        answer s d now fresh a.request
      let (exit, k) := match program k with
        | .ok text k => (Exit.success text, k)
        | .error f k => (.failure f, k)
      (exit, k.leaveIn d (s.knowledgeBase.path.getD ""))

/-- Runs the program on the words of a command line. -/
def run (words : List String) (d : Directory) (now : UInt64) (fresh : String) :
    Exit × Directory :=
  match readArguments words with
  | .error e => (.usage e, d)
  | .ok a => carryOut a d now fresh

end BuildTriage.CommandLine
