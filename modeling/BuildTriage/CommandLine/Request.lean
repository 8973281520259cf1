import BuildTriage.CommandLine.Parse
import BuildTriage.Statistics

/-!
# Requests

What the program can be asked for: to scan a log, to list, show, add and remove causes,
to list categories and to list statistics. The path of the settings may be given to any
command; the innermost one counts.
-/

namespace BuildTriage.CommandLine

/-- The option that names the settings. -/
def settingsOption : Param := { name := "config", short := some 'c', form := .path }

/-- A command without commands under it. -/
def leaf (name : String) (options places : List Param) : Grammar :=
  .command name false (settingsOption :: options) places []

/-- The commands on causes. -/
def causeCommands : List Grammar := [
  leaf "list" [] [],
  leaf "show" [] [{ name := "id", required := true }],
  leaf "add" [
      { name := "description", short := some 'd' }, { name := "comment" },
      { name := "category", arity := .many },
      { name := "pattern", arity := .many, required := true },
      { name := "multi-line", arity := .flag }]
    [{ name := "name", required := true }],
  leaf "remove" [{ name := "by" }] [{ name := "id", required := true }]]

/-- The whole program. -/
def grammar : Grammar :=
  .command "build-failure-analyzer" true [settingsOption] [] [
    leaf "scan" [{ name := "json", arity := .flag }]
      [{ name := "log", form := .path, required := true }],
    .command "causes" false [settingsOption] [] causeCommands,
    leaf "categories" [] [],
    leaf "stats" [
      { name := "project" }, { name := "result", form := .result },
      { name := "since", form := .word }, { name := "until", form := .word },
      { name := "limit", form := .word }] []]

/-- A cause as it is described on the command line. -/
structure CauseDraft where
  /-- Its name. -/
  name : String
  /-- What the reason is. -/
  description : String
  /-- A note. -/
  comment : Option String
  /-- The categories that it belongs to. -/
  categories : List String
  /-- The patterns that give it away. -/
  patterns : List String
  /-- Logs are read for them over several lines. -/
  multiLine : Bool
  deriving DecidableEq, Repr

/-- The cause of a draft: all patterns compile, and then the name is not blank. -/
def CauseDraft.cause (d : CauseDraft) : Except CauseError FailureCause := do
  let mode := if d.multiLine then ReaderMode.multiLine else .singleLine
  let indications ← d.patterns.mapM fun p =>
    (Indication.ofPattern p mode).mapError (.invalidPattern p)
  let cause := { FailureCause.named d.name d.description with
    comment := d.comment.getD ""
    categories := d.categories
    indications := indications }
  cause.validate
  return cause

/-- Which statistics are asked for. -/
structure StatisticsQuery where
  /-- The project of the builds. -/
  project : Option String
  /-- The result of the builds. -/
  result : Option BuildResult
  /-- The builds started then or later. -/
  since : Option UInt64
  /-- The builds started earlier. -/
  before : Option UInt64
  /-- The most records. -/
  limit : UInt64
  deriving DecidableEq, Repr

/-- The filter of a query. -/
def StatisticsQuery.filter (q : StatisticsQuery) : StatisticsFilter :=
  { StatisticsFilter.all with
    projectName := q.project, result := q.result, since := q.since, before := q.before }

/-- What the program is asked for. -/
inductive Request where
  | scan (log : String) (json : Bool)
  | listCauses
  | showCause (id : String)
  | addCause (draft : CauseDraft)
  | removeCause (id user : String)
  | categories
  | statistics (query : StatisticsQuery)
  deriving DecidableEq, Repr

/-- The written form of a request: the words of its command with what it is given. -/
def Request.encode : Request → Json.Value
  | .scan log json => under "scan" [("log", .text log), ("json", .bool json)]
  | .listCauses => .text "causes list"
  | .showCause id => under "causes show" [("id", .text id)]
  | .addCause d => under "causes add" [
      ("name", .text d.name), ("description", .text d.description),
      ("comment", .ofOption .text d.comment), ("categories", .texts d.categories),
      ("patterns", .texts d.patterns), ("multi_line", .bool d.multiLine)]
  | .removeCause id user => under "causes remove" [("id", .text id), ("by", .text user)]
  | .categories => .text "categories"
  | .statistics q => under "stats" [
      ("project", .ofOption .text q.project), ("result", .ofOption BuildResult.encode q.result),
      ("since", .ofOption .word q.since), ("until", .ofOption .word q.before),
      ("limit", .word q.limit)]
where
  /-- A record of one member, which is a record itself. -/
  under (name : String) (members : List (String × Json.Value)) : Json.Value :=
    .record [(name, .record members)]

/-- A request with the path of the settings. -/
structure Arguments where
  /-- The path of the settings. -/
  settings : Option String
  /-- What is asked for. -/
  request : Request
  deriving DecidableEq, Repr

/-- The latest value of a name. -/
def Values.last? (v : Values) (name : String) : Option String :=
  (v.lookup name).bind List.getLast?

/-- Whether a name is given. -/
def Values.has (v : Values) (name : String) : Bool := (v.lookup name).isSome

/-- The request of the innermost command with its values. -/
def requestOf (commands : List String) (v : Values) : Option Request :=
  match commands with
  | ["scan"] => (v.last? "log").map fun log => .scan log (v.has "json")
  | ["causes", "list"] => some .listCauses
  | ["causes", "show"] => (v.last? "id").map .showCause
  | ["causes", "add"] => (v.last? "name").map fun name => .addCause
    { name := name
      description := (v.last? "description").getD ""
      comment := v.last? "comment"
      categories := (v.lookup "category").getD []
      patterns := (v.lookup "pattern").getD []
      multiLine := v.has "multi-line" }
  | ["causes", "remove"] =>
    (v.last? "id").map fun id => .removeCause id ((v.last? "by").getD "cli")
  | ["categories"] => some .categories
  | ["stats"] => some (.statistics
    { project := v.last? "project"
      result := (v.last? "result").bind BuildResult.ofName?
      since := (v.last? "since").bind readWord?
      before := (v.last? "until").bind readWord?
      limit := ((v.last? "limit").bind readWord?).getD 20 })
  | _ => none

/-- Reads a command line. -/
def readArguments (words : List String) : Except UsageError Arguments := do
  let parsed ← parse grammar words
  let settings := parsed.levels.foldl (fun path v => (v.last? "config").or path) none
  match requestOf parsed.commands (parsed.levels.getLast?.getD []) with
  | some request => return ⟨settings, request⟩
  | none => throw .missingWord

end BuildTriage.CommandLine
