import BuildTriage.Pattern.Program

/-!
# The size of a compiled pattern

A pattern is refused when a byte-wise automaton for it would be too large, whatever
its text looks like. The size counts the states of the automaton and the edges that
leave them, once for reading forwards and once for reading backwards; the larger of
the two counts. A class is laid out by the UTF-8 forms of its characters: forwards
equal remainders of forms are shared, backwards equal beginnings are.
-/

namespace BuildTriage.Pattern

/-- A range of bytes. -/
abbrev ByteRange := Nat × Nat

/-- The bytes of a character in UTF-8. -/
def utf8Bytes (n : Nat) : List Nat :=
  if n < 0x80 then [n]
  else if n < 0x800 then [0xC0 + n / 0x40, 0x80 + n % 0x40]
  else if n < 0x10000 then [0xE0 + n / 0x1000, 0x80 + n / 0x40 % 0x40, 0x80 + n % 0x40]
  else [0xF0 + n / 0x40000, 0x80 + n / 0x1000 % 0x40, 0x80 + n / 0x40 % 0x40, 0x80 + n % 0x40]

/-- Cuts a range of characters where the number of bytes changes and at the gap that
is left for surrogates. -/
def splitByLength (lo hi : Nat) : List (Nat × Nat) :=
  [(0, 0x7F), (0x80, 0x7FF), (0x800, 0xD7FF), (0xE000, 0xFFFF), (0x10000, 0x10FFFF)].filterMap
    fun (a, b) =>
      let lo := max lo a
      let hi := min hi b
      if lo ≤ hi then some (lo, hi) else none

/-- Cuts a range of characters of one length so that each piece is a product of byte
ranges; `shift` is the number of bits below the byte looked at. -/
def splitByBytes : Nat → Nat → Nat → Nat → List (Nat × Nat)
  | 0, _, lo, hi => [(lo, hi)]
  | fuel + 1, level, lo, hi =>
    if level > 3 then [(lo, hi)]
    else
      let m := 1 <<< (6 * level)
      if lo / m ≠ hi / m then
        if lo % m ≠ 0 then
          let cut := (lo / m + 1) * m
          splitByBytes fuel 1 lo (cut - 1) ++ splitByBytes fuel 1 cut hi
        else if hi % m ≠ m - 1 then
          let cut := hi / m * m
          splitByBytes fuel 1 lo (cut - 1) ++ splitByBytes fuel 1 cut hi
        else splitByBytes fuel (level + 1) lo hi
      else splitByBytes fuel (level + 1) lo hi

/-- The forms of the characters of a set, as products of byte ranges. -/
def byteForms (s : Charset) : List (List ByteRange) :=
  s.flatMap fun (lo, hi) =>
    (splitByLength lo hi).flatMap fun (lo, hi) =>
      (splitByBytes 64 1 lo hi).map fun (lo, hi) => (utf8Bytes lo).zip (utf8Bytes hi)

/-- The bytes that a state takes. -/
def stateSize : Nat := 32

/-- The bytes that an edge over a range of bytes takes. -/
def rangeEdgeSize : Nat := 8

/-- The bytes that an edge of a split takes. -/
def splitEdgeSize : Nat := 4

/-- The states and edges of the forms that share their remainders: the distinct
states so far, each by its edges, and the number of the state made last. -/
def shareForms : Nat → List (List ByteRange) → List (List (ByteRange × Nat)) →
    Nat × List (List (ByteRange × Nat))
  | 0, _, states => (0, states)
  | fuel + 1, forms, states =>
    if forms.all List.isEmpty then (0, states)
    else
      let heads := forms.foldl (fun hs f => match f with
        | h :: _ => if hs.head? == some h then hs else h :: hs
        | [] => hs) []
      let (edges, states) := heads.reverse.foldl (fun (acc, states) h =>
        let (n, states) :=
          shareForms fuel (forms.filterMap fun f => match f with
            | a :: rest => if a == h then some rest else none
            | [] => none) states
        (acc ++ [(h, n)], states)) ([], states)
      match states.findIdx? (· == edges) with
      | some i => (states.length - i, states)
      | none => (states.length + 1, edges :: states)

/-- The size of a class that is read forwards. -/
def classSize (s : Charset) : Nat :=
  if s.within 0x7F then 2 * stateSize + s.length * rangeEdgeSize
  else
    let (_, states) := shareForms 5 (byteForms s) []
    stateSize + states.foldl (fun n edges => n + stateSize + edges.length * rangeEdgeSize) 0

/-- The distinct non-empty beginnings of forms that are in order. -/
def beginnings (forms : List (List ByteRange)) : Nat :=
  (forms.foldl (fun (n, last) f =>
    let shared := ((f.zip last).takeWhile fun (a, b) => a == b).length
    (n + (f.length - shared), f)) (0, ([] : List ByteRange))).1

/-- The size of a class that is read backwards. -/
def classSizeBackwards (s : Charset) : Nat :=
  if s.within 0x7F then 2 * stateSize + s.length * rangeEdgeSize
  else
    let forms := byteForms s
    (beginnings forms + 2) * stateSize + forms.length * splitEdgeSize

mutual

/-- The size of an expression, given that of its classes and whether captures are
kept. -/
def Expr.size (ofClass : Charset → Nat) (captures : Bool) : Expr → Nat
  | .empty => 0
  | .char c => c.utf8Size * stateSize
  | .set s => ofClass s
  | .look _ => stateSize
  | .repeated body min max _ =>
    let one := body.size ofClass captures
    match max with
    | some max =>
      if min = max then min * one
      else min * one + (max - min) * (one + stateSize + 2 * splitEdgeSize) + stateSize
    | none =>
      if min = 0 && !body.takes then one + 3 * stateSize + 4 * splitEdgeSize
      else Nat.max min 1 * one + stateSize + 2 * splitEdgeSize
  | .capture body =>
    body.size ofClass captures + if captures then 2 * stateSize else 0
  | .sequence parts => Expr.sizes ofClass captures parts
  | .choice branches =>
    Expr.sizes ofClass captures branches +
      2 * stateSize + branches.length * splitEdgeSize

/-- The size of some expressions. -/
def Expr.sizes (ofClass : Charset → Nat) (captures : Bool) : List Expr → Nat
  | [] => 0
  | e :: rest => e.size ofClass captures + Expr.sizes ofClass captures rest

end

/-- The states around an expression: a loop that passes over the text before a match,
the whole match, and its acceptance. -/
def frameSize : Nat := 8 * stateSize

/-- The size of the automaton for an expression. -/
def Expr.footprint (e : Expr) : Nat :=
  frameSize + max (e.size classSize true) (e.size classSizeBackwards false)

/-- The largest size that is accepted, two mebibytes. -/
def maxFootprint : Nat := 2 <<< 20

end BuildTriage.Pattern
