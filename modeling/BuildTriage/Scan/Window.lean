import BuildTriage.Text.Bytes

/-!
# Overlapping windows over a text

A long text is searched window by window. A window starts at a byte offset and has
at least the wanted number of bytes; the next one starts so that both share the
wanted overlap, and at least one byte further on. Offsets that fall inside a
character are pushed forward to its end, so every window is whole characters. The
last window ends with the text; an empty text has no window.
-/

namespace BuildTriage.Scan

open Text

/-- A stretch of a text. -/
structure Window where
  /-- The number of bytes before it. -/
  start : Nat
  /-- The text from its start on. -/
  rest : List Char
  /-- How many characters of `rest` belong to it. -/
  length : Nat
  deriving Repr, DecidableEq

namespace Window

/-- The characters of a window. -/
def chars (w : Window) : List Char := w.rest.take w.length

/-- The number of bytes before the end of a window. -/
def stop (w : Window) : Nat := w.start + byteLength w.chars

/-- The window of `size` bytes at the front of `rest`, which stands at `start`. -/
def front (size start : Nat) (rest : List Char) : Window := ⟨start, rest, countBytes size rest 0⟩

/-- How far after the start of a window the next one starts, before that place is
pushed forward to the end of a character. -/
def stride (overlap : Nat) (w : Window) : Nat := max (byteLength w.chars - overlap) 1

/-- The windows over `rest`, which stands at `start`, after those in `done`, of which
the latest stands first. -/
def slide (size overlap start : Nat) (rest : List Char) (done : List Window) : List Window :=
  let w := front size start rest
  if w.length = rest.length then (w :: done).reverse
  else
    let step := w.stride overlap
    slide size overlap (start + byteLength (takeBytes step rest)) (dropBytes step rest)
      (w :: done)
termination_by rest.length
decreasing_by
  rename_i h
  refine length_dropBytes_lt (by simp only [stride]; omega) ?_
  rintro rfl
  exact h rfl

/-- The windows over a text. -/
def cover (size overlap : Nat) (text : List Char) : List Window :=
  if text.isEmpty then [] else slide size overlap 0 text []

end Window

end BuildTriage.Scan
