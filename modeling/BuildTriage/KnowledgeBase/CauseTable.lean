import BuildTriage.Json.Edit
import BuildTriage.KnowledgeBase.Document

/-!
# Causes in tables

A table of causes has a row for each cause, with its id, its name, whether it is removed
and its text; a second table has a row for each statistics record. Rows are selected by
their columns; the texts of the selected rows are read afterwards. Whole numbers in
columns are signed, so a larger unsigned one is negative there. A tombstone and a last
occurrence are written into the stored text in place, by functions that the tables have for
texts of their own: these read texts that are not of the written form.
-/

namespace BuildTriage

open Json

/-- A row of the table of causes. -/
structure CauseRow where
  /-- The id, by which a row is found. -/
  id : String
  /-- The name. -/
  name : String
  /-- The cause is removed. -/
  removed : Bool
  /-- The text of the cause. -/
  text : String
  deriving DecidableEq, Repr

/-- A row of the table of statistics. -/
structure StatisticsRow where
  /-- The project of the build. -/
  projectName : String
  /-- The number of the build. -/
  buildNumber : Int64
  /-- When the build started. -/
  startTime : Int64
  /-- The result of the build. -/
  result : String
  /-- The controller of the build. -/
  master : String
  /-- The node of the build. -/
  nodeName : String
  /-- The text of the record. -/
  text : String
  deriving DecidableEq, Repr

/-- The two tables, with their rows in the order in which they were added. -/
structure CauseTable where
  /-- The causes. -/
  rows : List CauseRow
  /-- The statistics. -/
  records : List StatisticsRow
  deriving DecidableEq, Repr

/-- The row of a cause. -/
def FailureCause.row (c : FailureCause) : CauseRow := ⟨c.id, c.name, c.isRemoved, c.stored⟩

/-- The row of a statistics record. -/
def Statistics.row (s : Statistics) : StatisticsRow :=
  ⟨s.projectName, s.buildNumber.toInt64, s.startTime.toInt64, s.result, s.master, s.nodeName,
    s.encode.compact⟩

/-- Whether a filter selects a row, by its columns. -/
def StatisticsFilter.selectsRow (f : StatisticsFilter) (r : StatisticsRow) : Bool :=
  agrees f.projectName r.projectName &&
  (f.buildNumbers.isEmpty || f.buildNumbers.any (·.toInt64 == r.buildNumber)) &&
  f.since.all (·.toInt64 ≤ r.startTime) &&
  f.before.all (r.startTime < ·.toInt64) &&
  f.result.all (·.name == r.result) &&
  f.excludeResult.all (·.name != r.result) &&
  agrees f.master r.master &&
  agrees f.nodeName r.nodeName

/-- The functions that tables have for the texts in their columns. Each gives nothing for a
text that it does not read. -/
structure TextFunctions where
  /-- A text with one member of its record replaced or added. -/
  set : String → String → Value → Option String
  /-- Whether a member is missing or earlier than a time. -/
  isEarlier : String → String → Int64 → Option Bool
  /-- Whether a category is listed in a text. -/
  hasCategory : String → String → Option Bool

namespace TextFunctions

/-- What compares as a text in a list of categories. -/
def memberText? : Node → Option String
  | .text spelling => textOfSpelling? spelling
  | .list items => some (Node.list items).compact
  | .record members => some (Node.record members).compact
  | _ => none

/-- The items of a member; one that is no list or record is its own only item. -/
def itemsOf (name : String) (v : Node) : List Node :=
  match v.firstMember? name with
  | none => []
  | some (.list items) => items
  | some (.record members) => members.map (·.2)
  | some w => [w]

/-- A last occurrence is missing or earlier than a time. -/
def earlier (last : Option Node) (time : Int64) : Bool :=
  match last with
  | none | some .null => true
  | some (.number n) => n.below time
  | some (.bool b) => (if b then 1 else 0) < time.toInt
  | some _ => false

/-- The functions that read the loose form. -/
def json : TextFunctions where
  set text name v := (Node.read? text).map fun w => (w.setMember name v.node).compact
  isEarlier text name time :=
    (Node.read? text).map fun w => earlier (w.firstMember? name) time
  hasCategory category text :=
    (Node.read? text).map fun w =>
      (itemsOf "categories" w).any (memberText? · == some category)

end TextFunctions

namespace CauseTable

/-- Tables without rows. -/
def empty : CauseTable := ⟨[], []⟩

/-- The version of the layout of the tables. -/
def schemaVersion : Nat := 1

/-- Refuses a command. -/
def refuse {α : Type} (fault : QueryFault) : Op CauseTable α := throw (.query .sqlite fault)

/-- The row of an id. -/
def row? (t : CauseTable) (id : String) : Option CauseRow := t.rows.find? (·.id == id)

/-- Changes the row of an id. -/
def changeRow (id : String) (f : CauseRow → CauseRow) : Op CauseTable Unit :=
  modify fun t => { t with rows := t.rows.map fun r => if r.id = id then f r else r }

/-- What a function of texts gives; a text that it does not read is refused. -/
def applied {α : Type} (given : Option α) : Op CauseTable α :=
  match given with
  | some a => return a
  | none => refuse .malformedText

/-- Whether a query selects a row. -/
def selectsRow (f : TextFunctions) (q : CauseQuery) (r : CauseRow) : Op CauseTable Bool := do
  if !q.includeRemoved && r.removed then return false
  match q.category with
  | none => return true
  | some category => applied (f.hasCategory category r.text)

/-- The stored cause of an id. -/
def getCause (id : String) : Op CauseTable (Option FailureCause) := do
  match (← get).row? id with
  | none => return none
  | some r => return some (← FailureCause.ofStored r.text)

/-- The stored causes of the rows that a query selects. -/
def findCauses (f : TextFunctions) (q : CauseQuery) : Op CauseTable (List FailureCause) := do
  let rows ← (← get).rows.filterM (selectsRow f q)
  rows.mapM fun r => FailureCause.ofStored r.text

/-- Adds a row. -/
def insert (c : FailureCause) : Op CauseTable Unit := do
  if ((← get).row? c.id).isSome then refuse .duplicateRow
  modify fun t => { t with rows := t.rows ++ [c.row] }

/-- Replaces a row. -/
def update (c : FailureCause) : Op CauseTable Bool := do
  if ((← get).row? c.id).isNone then return false
  changeRow c.id fun _ => c.row
  return true

/-- Writes a tombstone into a stored text, and reads the text as a cause afterwards. -/
def tombstone (f : TextFunctions) (id : String) (stone : Tombstone) :
    Op CauseTable (Option FailureCause) := do
  match (← get).row? id with
  | none => return none
  | some r =>
    let text ← applied (f.set r.text "removed" stone.encode)
    changeRow id fun r => { r with removed := true, text := text }
    return some (← FailureCause.ofStored text)

/-- Writes a last occurrence into a stored text, if there is none or an earlier one. -/
def touch (f : TextFunctions) (id : String) (time : UInt64) : Op CauseTable Bool := do
  match (← get).row? id with
  | none => return false
  | some r =>
    if ← applied (f.isEarlier r.text "lastOccurred" time.toInt64) then
      let text ← applied (f.set r.text "lastOccurred" (.signed time.toInt64))
      changeRow id fun r => { r with text := text }
      return true
    else return false

/-- The first rows of some, unless the limit is negative. -/
def limitRows (limit : Option UInt64) (rows : List StatisticsRow) : List StatisticsRow :=
  match limit with
  | none => rows
  | some n => if n.toInt64 < 0 then rows else rows.take n.toNat

/-- The statistics of the rows that a filter selects, the latest start first, and those of
one start in reverse order of their rows. -/
def findStatistics (f : StatisticsFilter) (limit : Option UInt64) :
    Op CauseTable (List Statistics) := do
  let rows := ((← get).records.filter f.selectsRow).reverse
  let rows := rows.mergeSort fun a b => decide (b.startTime ≤ a.startTime)
  (limitRows limit rows).mapM fun r =>
    match decodeText Statistics.decoder r.text with
    | .ok s => pure s
    | .error e => throw (.unreadable e)

/-- Tables whose functions of texts are the given ones keep causes by their texts. -/
@[reducible]
def store (f : TextFunctions) : DocumentStore CauseTable where
  backend := .sqlite
  get := getCause
  find := findCauses f
  insert := insert
  update := update
  tombstone := tombstone f
  touch := touch f
  appendStatistics s := modify fun t => { t with records := t.records ++ [s.row] }
  findStatistics := findStatistics

instance : DocumentStore CauseTable := store .json

end CauseTable

end BuildTriage
