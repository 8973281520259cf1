import BuildTriage.Cause
import BuildTriage.Settings

/-!
# Operations that can fail

An operation on a store answers a value or an error, and leaves the store in a state in
either case: an error may come after part of the work is done.
-/

namespace BuildTriage

/-- Why a store refuses a command. -/
inductive QueryFault where
  /-- A row with that id is there already. -/
  | duplicateRow
  /-- A stored text that has to be changed in place is no record text. -/
  | malformedText
  /-- A cause with that id is there already. -/
  | duplicateId (id : String)
  /-- The store cannot be reached. -/
  | offline
  deriving DecidableEq, Repr

/-- What a store says when it refuses a command. -/
def QueryFault.reason : QueryFault → String
  | .duplicateRow => "UNIQUE constraint failed: failure_causes.id"
  | .malformedText => "malformed JSON"
  | .duplicateId id => "duplicate failure cause id " ++ id
  | .offline => "store offline"

/-- Why an operation on a knowledge base fails. -/
inductive KnowledgeBaseError where
  /-- The cause is not valid. -/
  | cause (e : CauseError)
  /-- The store cannot be opened. -/
  | connection (backend : Backend)
  /-- The store refuses a command. -/
  | query (backend : Backend) (fault : QueryFault)
  /-- What is stored does not read as what it should be. -/
  | unreadable (fault : Json.Fault)
  /-- A file cannot be read or written. -/
  | file (path reason : String)
  deriving DecidableEq, Repr

/-- What is wrong with a text that does not read. -/
def Json.Fault.reason : Json.Fault → String
  | .malformed => "malformed text"
  | .mismatch => "unexpected value"
  | .truncated => "unexpected end of text"

/-- The message of an operation that failed. -/
def KnowledgeBaseError.message : KnowledgeBaseError → String
  | .cause e => e.message
  | .connection backend => backend.name ++ " connection failed"
  | .query backend fault => backend.name ++ " query failed: " ++ fault.reason
  | .unreadable fault => "serialization error: " ++ fault.reason
  | .file path reason => "I/O error on " ++ path ++ ": " ++ reason

/-- An operation on a store with states `σ`. -/
abbrev Op (σ α : Type) := EStateM KnowledgeBaseError σ α

/-- A cause that has an id: its own, or the fresh one if it is new. -/
def FailureCause.identified (c : FailureCause) (fresh : String) : FailureCause :=
  if c.isNew then { c with id := fresh } else c

/-- Refuses a cause that is not valid. -/
def FailureCause.checked {σ : Type} (c : FailureCause) : Op σ Unit :=
  match c.validate with
  | .ok () => pure ()
  | .error e => throw (.cause e)

/-- Reads a stored text as a cause. -/
def FailureCause.ofStored {σ : Type} (text : String) : Op σ FailureCause :=
  match Json.decodeText FailureCause.decoder text with
  | .ok c => pure c
  | .error f => throw (.unreadable f)

/-- The text under which a cause is stored. -/
def FailureCause.stored (c : FailureCause) : String := c.encode.compact

/-- The cause with a tombstone. -/
def FailureCause.bury (c : FailureCause) (stone : Tombstone) : FailureCause :=
  { c with removed := some stone }

end BuildTriage
