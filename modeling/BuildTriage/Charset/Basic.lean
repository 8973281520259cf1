/-!
# Sets of characters

A set is a sorted list of disjoint ranges of code points with a gap between each
two. A table of the character database writes a set as run lengths, alternately
outside and inside it, starting from code point zero.
-/

namespace BuildTriage

/-- A set of code points: ranges in increasing order, each with both its ends. -/
abbrev Charset := List (Nat × Nat)

namespace Charset

/-- The largest code point. -/
def top : Nat := 0x10FFFF

/-- Whether a code point is in the set. -/
def contains (s : Charset) (c : Nat) : Bool :=
  match s with
  | [] => false
  | (lo, hi) :: rest => if c < lo then false else c ≤ hi || contains rest c

/-- Adds a range; ranges that touch it become one with it. -/
def insert (lo hi : Nat) : Charset → Charset
  | [] => [(lo, hi)]
  | (a, b) :: rest =>
    if hi + 1 < a then (lo, hi) :: (a, b) :: rest
    else if b + 1 < lo then (a, b) :: insert lo hi rest
    else insert (min lo a) (max hi b) rest

/-- The code points of either set. -/
def union (s t : Charset) : Charset :=
  if s.length ≤ t.length then s.foldl (fun u r => insert r.1 r.2 u) t
  else t.foldl (fun u r => insert r.1 r.2 u) s

/-- The code points from `start` up to `limit` that are not in the set. -/
def complementFrom (start limit : Nat) : Charset → Charset
  | [] => if start ≤ limit then [(start, limit)] else []
  | (lo, hi) :: rest =>
    if start < lo then (start, lo - 1) :: complementFrom (hi + 1) limit rest
    else complementFrom (hi + 1) limit rest

/-- The code points up to `limit` that are not in the set. -/
def complement (s : Charset) (limit : Nat) : Charset := complementFrom 0 limit s

/-- The code points of both sets. -/
def inter (s t : Charset) (limit : Nat) : Charset :=
  complement (union (complement s limit) (complement t limit)) limit

/-- The code points of the first set that are not in the second. -/
def diff (s t : Charset) (limit : Nat) : Charset :=
  complement (union (complement s limit) t) limit

/-- The code points of exactly one of the two sets. -/
def symmDiff (s t : Charset) (limit : Nat) : Charset :=
  union (diff s t limit) (diff t s limit)

/-- Whether every code point of the set is at most `limit`. -/
def within (s : Charset) (limit : Nat) : Bool := s.all (·.2 ≤ limit)

/-- The numbers of a line of a table, separated by blanks. -/
def numbers (table : List Char) : List Nat :=
  (go table none).reverse
where
  /-- The numbers read so far, last first; `pending` is the one being read. -/
  go : List Char → Option Nat → List Nat
    | cs, pending => (cs.foldl step ([], pending)) |> fun (done, pending) =>
      match pending with
      | none => done
      | some n => n :: done
  /-- Takes one character of a table. -/
  step (st : List Nat × Option Nat) (c : Char) : List Nat × Option Nat :=
    let (done, pending) := st
    if c.isDigit then (done, some (pending.getD 0 * 10 + (c.toNat - '0'.toNat)))
    else match pending with
      | none => (done, none)
      | some n => (n :: done, none)

/-- The set whose run lengths, outside and inside it in turn, are given. -/
def ofRunLengths (start : Nat) : List Nat → Charset
  | outside :: inside :: rest =>
    if inside = 0 then ofRunLengths (start + outside) rest
    else (start + outside, start + outside + inside - 1) ::
      ofRunLengths (start + outside + inside) rest
  | _ => []

/-- The numbers of a table in several lines. -/
def tableNumbers (lines : List String) : List Nat := lines.flatMap fun l => numbers l.toList

/-- The set that a table of run lengths writes. -/
def ofRuns (lines : List String) : Charset := ofRunLengths 0 (tableNumbers lines)

/-- A set of the character database under the names it goes by, in lower case and
without blanks, hyphens or low lines. -/
structure Named where
  /-- The names of the set. -/
  names : List String
  /-- The run lengths of the set, in lines. -/
  runs : List String

/-- The set of that name. -/
def find? (table : List Named) (name : String) : Option Charset :=
  (table.find? (·.names.contains name)).map (ofRuns ·.runs)

end Charset

end BuildTriage
