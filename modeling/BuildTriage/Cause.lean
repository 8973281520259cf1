import BuildTriage.Indication
import BuildTriage.Text.Blank

/-!
# Failure causes

A failure cause is a known reason for builds to fail: a name, a description and the
indications that give it away. A removed cause keeps its place and carries a
tombstone. A cause that has not been stored yet has an empty id.
-/

namespace BuildTriage

open Json

/-- A change that someone made to a cause. -/
structure Modification where
  /-- Who made it. -/
  user : String
  /-- When it was made. -/
  time : UInt64
  /-- What was changed. -/
  description : String
  deriving DecidableEq, Repr, Inhabited

namespace Modification

/-- The written form of a change. -/
def encode (m : Modification) : Value :=
  .record [("user", .text m.user), ("time", .word m.time), ("description", .text m.description)]

/-- Reads a change. -/
def decoder : Decoder Modification :=
  (Modification.mk <$> .required "user" .text <*> .required "time" .word
    <*> .defaulted "description" .text "" : RecordReader Modification).decode

end Modification

/-- Who removed a cause, and when. -/
structure Tombstone where
  /-- Who removed it. -/
  user : String
  /-- When it was removed. -/
  time : UInt64
  deriving DecidableEq, Repr, Inhabited

namespace Tombstone

/-- The written form of a tombstone. -/
def encode (t : Tombstone) : Value := .record [("by", .text t.user), ("time", .word t.time)]

/-- Reads a tombstone. -/
def decoder : Decoder Tombstone :=
  (Tombstone.mk <$> .required "by" .text <*> .required "time" .word :
    RecordReader Tombstone).decode

end Tombstone

/-- A known reason for builds to fail. -/
structure FailureCause where
  /-- The id under which it is stored, empty before that. -/
  id : String
  /-- The name that is shown. -/
  name : String
  /-- What the reason is. -/
  description : String
  /-- A note. -/
  comment : String
  /-- The categories that it belongs to. -/
  categories : List String
  /-- What gives it away. -/
  indications : List Indication
  /-- When it was last seen in a build. -/
  lastOccurred : Option UInt64
  /-- The changes made to it. -/
  modifications : List Modification
  /-- Who removed it, if someone has. -/
  removed : Option Tombstone
  deriving DecidableEq

/-- What a list of causes shows of one. -/
structure ShallowCause where
  /-- Its id. -/
  id : String
  /-- Its name. -/
  name : String
  /-- What the reason is. -/
  description : String
  /-- The categories that it belongs to. -/
  categories : List String
  deriving DecidableEq, Repr, Inhabited

/-- A cause by its id and name only. -/
structure CauseName where
  /-- Its id. -/
  id : String
  /-- Its name. -/
  name : String
  deriving DecidableEq, Repr, Inhabited

/-- Why a cause is not valid. -/
inductive CauseError where
  /-- Its name has no character but blanks. -/
  | emptyName
  /-- A pattern does not compile. -/
  | invalidPattern (pattern : String) (refusal : Pattern.Refusal)
  deriving DecidableEq, Repr

/-- The message of a cause that is not valid. -/
def CauseError.message : CauseError → String
  | .emptyName => "failure cause name must not be empty"
  | .invalidPattern pattern refusal =>
    "invalid pattern '" ++ pattern ++ "': " ++ refusal.reason

namespace FailureCause

/-- A cause that is named and described, and has nothing else yet. -/
def named (name description : String) : FailureCause where
  id := ""
  name := name
  description := description
  comment := ""
  categories := []
  indications := []
  lastOccurred := none
  modifications := []
  removed := none

/-- Whether the cause has not been stored yet. -/
def isNew (c : FailureCause) : Bool := c.id.isEmpty

/-- Whether the cause has been removed. -/
def isRemoved (c : FailureCause) : Bool := c.removed.isSome

/-- Whether some indication is read over several lines. -/
def isMultiLine (c : FailureCause) : Bool := c.indications.any (·.mode == .multiLine)

/-- Whether the cause belongs to a category. -/
def hasCategory (c : FailureCause) (category : String) : Bool := c.categories.contains category

/-- A cause is valid when its name has a character that is not blank. -/
def validate (c : FailureCause) : Except CauseError Unit :=
  if Text.allBlank c.name then .error .emptyName else .ok ()

/-- The cause with its last occurrence moved forward to a time. -/
def touch (c : FailureCause) (time : UInt64) : FailureCause :=
  match c.lastOccurred with
  | some last => if time ≤ last then c else { c with lastOccurred := some time }
  | none => { c with lastOccurred := some time }

/-- Whether moving the last occurrence forward to a time changes anything. -/
def touches (c : FailureCause) (time : UInt64) : Bool :=
  match c.lastOccurred with
  | some last => last < time
  | none => true

/-- What a list shows of the cause. -/
def shallow (c : FailureCause) : ShallowCause := ⟨c.id, c.name, c.description, c.categories⟩

/-- The id and name of the cause. -/
def nameOnly (c : FailureCause) : CauseName := ⟨c.id, c.name⟩

/-- The written form of a cause. -/
def encode (c : FailureCause) : Value :=
  .record ([
    ("id", .text c.id), ("name", .text c.name), ("description", .text c.description),
    ("comment", .text c.comment), ("categories", .texts c.categories),
    ("indications", .list (c.indications.map Indication.encode))] ++
    optionalMember "lastOccurred" .word c.lastOccurred ++
    [("modifications", .list (c.modifications.map Modification.encode))] ++
    optionalMember "removed" Tombstone.encode c.removed)

/-- The members of a cause. -/
def reader : RecordReader FailureCause :=
  .mk <$> .defaulted "id" .text ""
    <*> .required "name" .text
    <*> .defaulted "description" .text ""
    <*> .defaulted "comment" .text ""
    <*> .defaulted "categories" (.list .text) []
    <*> .defaulted "indications" (.list Indication.decoder) []
    <*> .optional "lastOccurred" .word
    <*> .defaulted "modifications" (.list Modification.decoder) []
    <*> .optional "removed" Tombstone.decoder

/-- Reads a cause. -/
def decoder : Decoder FailureCause := reader.decode

end FailureCause

namespace ShallowCause

/-- The written form of what a list shows of a cause. -/
def encode (c : ShallowCause) : Value :=
  .record [("id", .text c.id), ("name", .text c.name), ("description", .text c.description),
    ("categories", .texts c.categories)]

/-- Reads what a list shows of a cause. -/
def decoder : Decoder ShallowCause :=
  (ShallowCause.mk <$> .required "id" .text <*> .required "name" .text
    <*> .required "description" .text <*> .required "categories" (.list .text) :
    RecordReader ShallowCause).decode

end ShallowCause

namespace CauseName

/-- The written form of an id and name. -/
def encode (c : CauseName) : Value := .record [("id", .text c.id), ("name", .text c.name)]

/-- Reads an id and name. -/
def decoder : Decoder CauseName :=
  (CauseName.mk <$> .required "id" .text <*> .required "name" .text :
    RecordReader CauseName).decode

end CauseName

end BuildTriage
