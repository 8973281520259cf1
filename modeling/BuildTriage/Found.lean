import BuildTriage.Build
import BuildTriage.Cause
import BuildTriage.Text.Digest

/-!
# Found causes

A found indication says where in the log of a build an indication matched and what
text matched. Old records hold the number of the line only; the text is filled in
from the log later. A found cause is a snapshot of the cause with its found
indications.
-/

namespace BuildTriage

open Json

/-- Where and how an indication matched. -/
structure FoundIndication where
  /-- The pattern that matched. -/
  pattern : String
  /-- The file in which it matched. -/
  matchingFile : String
  /-- The number of the line at which the match begins, from one. -/
  matchingLine : Option UInt64
  /-- The text that matched. -/
  matchingString : Option String
  /-- The digest of the text that matched. -/
  matchingHash : Option String
  /-- The build in whose log it matched. -/
  build : Option BuildRef
  deriving DecidableEq, Repr, Inhabited

namespace FoundIndication

/-- A match of a pattern in a file at a line, with its text. -/
def ofMatch (pattern file : String) (line : UInt64) (text : String) : FoundIndication where
  pattern := pattern
  matchingFile := file
  matchingLine := some line
  matchingString := some text
  matchingHash := some (Text.Digest.ofText text)
  build := none

/-- An old record of a match, which holds its line only. -/
def lineOnly (pattern file : String) (line : UInt64) : FoundIndication where
  pattern := pattern
  matchingFile := file
  matchingLine := some line
  matchingString := none
  matchingHash := none
  build := none

/-- The record with the build that it belongs to. -/
def withBuild (f : FoundIndication) (build : BuildRef) : FoundIndication :=
  { f with build := some build }

/-- Whether the record holds a line and no text. -/
def needsConversion (f : FoundIndication) : Bool :=
  f.matchingString.isNone && f.matchingLine.isSome

/-- The record with the text of its line filled in, when it needs one and the log has
that line; line zero counts as the first. -/
def fill? (f : FoundIndication) (log : List String) : Option FoundIndication :=
  if f.needsConversion then do
    let line ← f.matchingLine
    let text ← log[line.toNat - 1]?
    return { f with matchingString := some text, matchingHash := some (Text.Digest.ofText text) }
  else none

/-- The written form of a found indication. -/
def encode (f : FoundIndication) : Value :=
  .record ([("pattern", .text f.pattern), ("matchingFile", .text f.matchingFile)] ++
    optionalMember "matchingLine" .word f.matchingLine ++
    optionalMember "matchingString" .text f.matchingString ++
    optionalMember "matchingHash" .text f.matchingHash ++
    optionalMember "build" BuildRef.encode f.build)

/-- The members of a found indication. -/
def reader : RecordReader FoundIndication :=
  .mk <$> .required "pattern" .text
    <*> .required "matchingFile" .text
    <*> .optional "matchingLine" .word
    <*> .optional "matchingString" .text
    <*> .optional "matchingHash" .text
    <*> .optional "build" BuildRef.decoder

/-- Reads a found indication. -/
def decoder : Decoder FoundIndication := reader.decode

end FoundIndication

/-- A cause as it was when it was found, with the indications that matched. -/
structure FoundCause where
  /-- The id of the cause. -/
  id : String
  /-- Its name. -/
  name : String
  /-- What the reason is. -/
  description : String
  /-- The categories that it belonged to. -/
  categories : List String
  /-- The indications that matched. -/
  indications : List FoundIndication
  deriving DecidableEq, Repr, Inhabited

namespace FoundCause

/-- The snapshot of a cause with the indications that matched. -/
def ofCause (c : FailureCause) (indications : List FoundIndication) : FoundCause where
  id := c.id
  name := c.name
  description := c.description
  categories := c.categories
  indications := indications

/-- Whether the cause belonged to a category. -/
def hasCategory (f : FoundCause) (category : String) : Bool := f.categories.contains category

/-- The written form of a found cause. -/
def encode (f : FoundCause) : Value :=
  .record [("id", .text f.id), ("name", .text f.name), ("description", .text f.description),
    ("categories", .texts f.categories),
    ("indications", .list (f.indications.map FoundIndication.encode))]

/-- The members of a found cause. -/
def reader : RecordReader FoundCause :=
  .mk <$> .required "id" .text
    <*> .required "name" .text
    <*> .defaulted "description" .text ""
    <*> .defaulted "categories" (.list .text) []
    <*> .required "indications" (.list FoundIndication.decoder)

/-- Reads a found cause. -/
def decoder : Decoder FoundCause := reader.decode

end FoundCause

end BuildTriage
