import BuildTriage.KnowledgeBase.CauseTable

/-!
# Tables as a text

Tables are written to a file as one record, with the rows of either table in order. The
signed numbers in columns are written by their bits.
-/

namespace BuildTriage

open Json

namespace CauseRow

/-- The written form of a row. -/
def encode (r : CauseRow) : Value :=
  .record [("id", .text r.id), ("name", .text r.name), ("removed", .bool r.removed),
    ("doc", .text r.text)]

/-- The members of a row. -/
def reader : RecordReader CauseRow :=
  .mk <$> .required "id" .text <*> .required "name" .text <*> .required "removed" .bool
    <*> .required "doc" .text

end CauseRow

namespace StatisticsRow

/-- The written form of a row. -/
def encode (r : StatisticsRow) : Value :=
  .record [("project_name", .text r.projectName), ("build_number", .word r.buildNumber.toUInt64),
    ("start_time", .word r.startTime.toUInt64), ("result", .text r.result),
    ("master", .text r.master), ("node_name", .text r.nodeName), ("doc", .text r.text)]

/-- A row with its numbers given by their bits. -/
def ofBits (projectName : String) (buildNumber startTime : UInt64)
    (result master nodeName text : String) : StatisticsRow :=
  ⟨projectName, buildNumber.toInt64, startTime.toInt64, result, master, nodeName, text⟩

/-- The members of a row. -/
def reader : RecordReader StatisticsRow :=
  ofBits <$> .required "project_name" .text <*> .required "build_number" .word
    <*> .required "start_time" .word <*> .required "result" .text <*> .required "master" .text
    <*> .required "node_name" .text <*> .required "doc" .text

end StatisticsRow

namespace CauseTable

/-- The text of a file with tables. -/
def toText (t : CauseTable) : String :=
  (Value.record [("failure_causes", .list (t.rows.map CauseRow.encode)),
    ("statistics", .list (t.records.map StatisticsRow.encode))]).compact

/-- The members of a file with tables. -/
def reader : RecordReader CauseTable :=
  .mk <$> .required "failure_causes" (.list CauseRow.reader.decode)
    <*> .required "statistics" (.list StatisticsRow.reader.decode)

/-- The tables of a text, if it is one of tables. -/
def ofText? (text : String) : Option CauseTable := (decodeText reader.decode text).toOption

end CauseTable

end BuildTriage
