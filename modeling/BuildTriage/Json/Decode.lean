import BuildTriage.Json.Doc

/-!
# Readers of typed values

A decoder reads a document as a value of some type. A record of fixed members is
described by a `RecordReader`: the names it knows, in order, and how each is read.
A record may also be written as the list of its members' values in that order.
A member that is not known is skipped, one that is given twice is a mismatch, and
one that is missing has its default or is a mismatch.
-/

namespace BuildTriage.Json

/-- Reads a document as a value of a type. -/
abbrev Decoder (α : Type) := Doc → Except Fault α

/-- The fault of meeting a document of another kind than the one expected: a
scalar is read to its end first, a list or record is refused at its bracket. -/
def Doc.refusal : Doc → Fault
  | .number (.error f) => f
  | .text (.error f) => f
  | .broken used _ => used
  | _ => .mismatch

/-- A text. -/
def Decoder.text : Decoder String
  | .text s => s
  | d => .error d.refusal

/-- An unsigned number of 64 bits. -/
def Decoder.word : Decoder UInt64
  | .number (.ok (.unsigned n)) => if n ≤ maxWord then .ok (UInt64.ofNat n) else .error .mismatch
  | d => .error d.refusal

/-- A truth value. -/
def Decoder.bool : Decoder Bool
  | .bool b => .ok b
  | d => .error d.refusal

/-- Nothing for a null, and otherwise a value. -/
def Decoder.option {α : Type} (read : Decoder α) : Decoder (Option α)
  | .null => .ok none
  | d => (read d).map some

/-- The fault of an ending that is not the closing bracket. -/
def Ending.check : Ending → Except Fault Unit
  | .closed => .ok ()
  | .torn _ used _ => .error used

/-- A list of values. -/
def Decoder.list {α : Type} (read : Decoder α) : Decoder (List α)
  | .list items ending => do
    let out ← items.mapM read
    ending.check
    return out
  | d => .error d.refusal

/-- The choice of that name. -/
def chooseName {α : Type} (choices : List (String × α)) (name : String) : Except Fault α :=
  match choices.find? (·.1 == name) with
  | some (_, a) => .ok a
  | none => .error .mismatch

/-- What may follow the last used value in a bracket: nothing but its end. -/
def Ending.checkLast : Ending → Except Fault Unit
  | .closed => .ok ()
  | .torn true _ _ => .error .malformed
  | .torn false used _ => .error used

/-- One of a number of names, as a text or as the name of a null member. -/
def Decoder.choice {α : Type} (choices : List (String × α)) : Decoder α
  | .text name => do chooseName choices (← name)
  | .record ((name, inner) :: more) ending => do
    let a ← chooseName choices (← name)
    match inner with
    | .null => pure ()
    | d => throw d.refusal
    if more.isEmpty then ending.checkLast else throw .malformed
    return a
  | .record [] (.torn _ used _) => .error used
  | .broken used _ => .error used
  | _ => .error .malformed

/-- What is known of one member of a record. -/
structure Field where
  /-- The name of the member. -/
  name : String
  /-- Whether a value reads as the member's type. -/
  probe : Doc → Except Fault Unit
  /-- The member may be left out of the list form, at its end. -/
  omissible : Bool

/-- How a record is read: the members it knows, and the value made of those found. -/
structure RecordReader (α : Type) where
  /-- The members, in the order of the list form. -/
  fields : List Field
  /-- The value made of the members that were found. -/
  build : (String → Option Doc) → Except Fault α

namespace RecordReader

/-- A member that has to be there. -/
def required {α : Type} (name : String) (read : Decoder α) : RecordReader α where
  fields := [⟨name, fun d => (read d).map fun _ => (), false⟩]
  build found := match found name with
    | some d => read d
    | none => .error .mismatch

/-- A member with a default for when it is left out. -/
def defaulted {α : Type} (name : String) (read : Decoder α) (default : α) : RecordReader α where
  fields := [⟨name, fun d => (read d).map fun _ => (), true⟩]
  build found := match found name with
    | some d => read d
    | none => .ok default

/-- A member that may be null or left out, in the list form too. -/
def optional {α : Type} (name : String) (read : Decoder α) : RecordReader (Option α) :=
  defaulted name (.option read) none

/-- A member that may be null or left out of a record, but not of the list form. -/
def nullable {α : Type} (name : String) (read : Decoder α) : RecordReader (Option α) where
  fields := [⟨name, fun d => (Decoder.option read d).map fun _ => (), false⟩]
  build found := match found name with
    | some d => Decoder.option read d
    | none => .ok none

/-- A record of one member. -/
def map {α β : Type} (f : α → β) (r : RecordReader α) : RecordReader β where
  fields := r.fields
  build found := (r.build found).map f

/-- The members of two readers, one after the other. -/
def both {α β : Type} (f : RecordReader (α → β)) (r : RecordReader α) : RecordReader β where
  fields := f.fields ++ r.fields
  build found := do
    let g ← f.build found
    let a ← r.build found
    return g a

instance : Functor RecordReader where
  map := map

instance : Seq RecordReader where
  seq f r := both f (r ())

/-- The members found in a record, in written order: each known one is read where it
stands, each unknown one is skipped. -/
def collect (fields : List Field) :
    List (Except Fault String × Doc) → List (String × Doc) → Except Fault (List (String × Doc))
  | [], found => .ok found
  | (name, d) :: rest, found => do
    let name ← name
    match fields.find? (·.name == name) with
    | none =>
      match d.skipFault with
      | some f => .error f
      | none => collect fields rest found
    | some field =>
      if found.any (·.1 == name) then .error .mismatch
      else
        field.probe d
        collect fields rest (found ++ [(name, d)])

/-- The members found in the list form; a missing one has to be omissible. -/
def collectItems :
    List Field → List Doc → Ending → List (String × Doc) → Except Fault (List (String × Doc))
  | [], [], ending, found => do
    ending.checkLast
    return found
  | [], _ :: _, _, _ => .error .malformed
  | field :: fields, [], ending, found => do
    ending.check
    if field.omissible then collectItems fields [] ending found else .error .mismatch
  | field :: fields, d :: rest, ending, found => do
    field.probe d
    collectItems fields rest ending (found ++ [(field.name, d)])

/-- Reads a document as the record. -/
def decode {α : Type} (r : RecordReader α) : Decoder α
  | .record members ending => do
    let found ← collect r.fields members []
    ending.check
    r.build (List.lookup · found)
  | .list items ending => do
    let found ← collectItems r.fields items ending []
    r.build (List.lookup · found)
  | d => .error d.refusal

end RecordReader

/-- Reads a whole text as a value of a type, with blanks around it or none. -/
def decodeText {α : Type} (read : Decoder α) (s : String) : Except Fault α := do
  let (doc, rest) := Doc.read s.toList
  let a ← read doc
  match rest with
  | some rest => if (skipBlank rest).isEmpty then .ok a else .error .malformed
  | none => .error .truncated

/-- Reads an undamaged value as a value of a type; whatever is wrong is a mismatch. -/
def decodeValue {α : Type} (read : Decoder α) (v : Value) : Except Fault α :=
  (read v.doc).mapError fun _ => .mismatch

/-- A type whose values are written as JSON and read back. -/
class Format (α : Type) where
  /-- The written form of a value. -/
  encode : α → Value
  /-- Reads a value. -/
  decoder : Decoder α

instance : Format String := ⟨.text, .text⟩

instance : Format UInt64 := ⟨.word, .word⟩

instance {α : Type} [Format α] : Format (Option α) :=
  ⟨.ofOption Format.encode, .option Format.decoder⟩

instance {α : Type} [Format α] : Format (List α) :=
  ⟨fun items => .list (items.map Format.encode), .list Format.decoder⟩

end BuildTriage.Json
