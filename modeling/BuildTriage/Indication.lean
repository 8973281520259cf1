import BuildTriage.Json.Decode
import BuildTriage.Pattern.Basic

/-!
# Indications

An indication is a pattern that gives a failure away, with the way in which a log is
read for it. The text of the pattern is set into a frame: read line by line, the
framed pattern is meant to cover a whole line; read over several lines, a match is
extended to whole lines at both ends. Only the framed text is compiled.
-/

namespace BuildTriage

open Json

/-- How a log is read for an indication. -/
inductive ReaderMode where
  | singleLine
  | multiLine
  deriving DecidableEq, Repr, Inhabited

namespace ReaderMode

/-- The name of a mode in messages. -/
def label : ReaderMode → String
  | .singleLine => "single-line"
  | .multiLine => "multi-line"

/-- The name of a mode in records. -/
def name : ReaderMode → String
  | .singleLine => "singleLine"
  | .multiLine => "multiLine"

/-- All modes under their names. -/
def choices : List (String × ReaderMode) := [singleLine, multiLine].map fun m => (m.name, m)

/-- What stands before and after the text of a pattern in its frame. -/
def frame : ReaderMode → String × String
  | .singleLine => ("^(?:", ")$")
  | .multiLine => ("(?ms)^[^\\r\\n]*?(?:", ")[^\\r\\n]*?$")

/-- The text of a pattern in its frame. -/
def wrap (m : ReaderMode) (pattern : String) : String := m.frame.1 ++ pattern ++ m.frame.2

/-- The written form of a mode. -/
def encode (m : ReaderMode) : Value := .text m.name

/-- Reads a mode. -/
def decoder : Decoder ReaderMode := .choice choices

end ReaderMode

/-- A pattern that gives a failure away, compiled in its frame. -/
structure Indication where
  /-- The text of the pattern. -/
  pattern : String
  /-- How a log is read for it. -/
  mode : ReaderMode
  /-- The framed pattern. -/
  compiled : Pattern
  /-- The framed text compiles to it. -/
  compiles : Pattern.ofText (mode.wrap pattern) = .ok compiled

namespace Indication

/-- The indication of a pattern and mode, if the framed pattern compiles. -/
def ofPattern (pattern : String) (mode : ReaderMode) : Except Pattern.Refusal Indication :=
  match h : Pattern.ofText (mode.wrap pattern) with
  | .ok compiled => .ok ⟨pattern, mode, compiled, h⟩
  | .error e => .error e

/-- Two indications with the same pattern and mode are the same. -/
theorem ext_of {a b : Indication} (hp : a.pattern = b.pattern) (hm : a.mode = b.mode) :
    a = b := by
  obtain ⟨p, m, c, h⟩ := a
  obtain ⟨q, n, d, k⟩ := b
  simp only at hp hm
  subst hp hm
  have : c = d := Except.ok.inj (h.symm.trans k)
  subst this
  rfl

instance : DecidableEq Indication := fun a b =>
  if h : a.pattern = b.pattern ∧ a.mode = b.mode then isTrue (ext_of h.1 h.2)
  else isFalse fun e => h ⟨congrArg _ e, congrArg _ e⟩

/-- The bytes of the first match in a text. -/
def find (i : Indication) (text : String) : Option (Nat × Nat) := i.compiled.find text.toList

/-- The written form of an indication. -/
def encode (i : Indication) : Value :=
  .record [("pattern", .text i.pattern), ("mode", i.mode.encode)]

/-- The members of an indication. -/
def reader : RecordReader (String × ReaderMode) :=
  .mk <$> .required "pattern" .text <*> .defaulted "mode" ReaderMode.decoder .singleLine

/-- Reads an indication; a pattern that does not compile is a mismatch. -/
def decoder : Decoder Indication := fun d => do
  let (pattern, mode) ← reader.decode d
  (ofPattern pattern mode).mapError fun _ => .mismatch

end Indication

end BuildTriage
