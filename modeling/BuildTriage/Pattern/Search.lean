import BuildTriage.Pattern.Program

/-!
# Searching a text

A search runs all paths of a program over the text at once, one character at a time.
A thread is a path with the place where its match began; threads are kept in order of
preference, and one that comes to a position where a preferred one already is, is
dropped. The match found is the one that begins first and, of those, the preferred
one. Places are counted in bytes of UTF-8.
-/

namespace BuildTriage.Pattern

/-- Whether a character is one of words. -/
def isWord (ascii : Bool) (c : Char) : Bool :=
  if c.toNat < 0x80 then asciiWordSet.contains c.toNat
  else !ascii && wordSet.contains c.toNat

/-- Whether a condition holds between two characters, an end of the text being
none. -/
def Look.holds (l : Look) (before after : Option Char) : Bool :=
  match l with
  | .textStart => before.isNone
  | .textEnd => after.isNone
  | .lineStart => before.isNone || before == some '\n'
  | .lineEnd => after.isNone || after == some '\n'
  | .anyLineStart =>
    before.isNone || before == some '\n' || (before == some '\r' && after != some '\n')
  | .anyLineEnd =>
    after.isNone || after == some '\r' || (after == some '\n' && before != some '\r')
  | .word kind ascii =>
    let b := before.any (isWord ascii)
    let a := after.any (isWord ascii)
    match kind with
    | .boundary => b != a
    | .inside => b == a
    | .start => !b && a
    | .finish => b && !a
    | .startHalf => !b
    | .finishHalf => !a

/-- A path through a program: its position and where its match began. -/
structure Thread where
  /-- The position of its next instruction. -/
  pc : Nat
  /-- The byte at which its match began. -/
  start : Nat
  deriving Repr, Inhabited

/-- The threads at one place of the text, and the positions that are taken. -/
structure Frontier where
  /-- The threads that wait for a character or have matched, in order of preference. -/
  threads : Array Thread
  /-- For each position the mark of the place at which it was last taken. -/
  marks : Array Nat

/-- Follows a thread, and those in the list after it, without taking a character. -/
def follow (insts : Array Inst) (before after : Option Char) (start mark : Nat) :
    Nat → List Nat → Frontier → Frontier
  | 0, _, f => f
  | _ + 1, [], f => f
  | fuel + 1, pc :: rest, f =>
    if f.marks.getD pc 0 == mark then follow insts before after start mark fuel rest f
    else
      let f : Frontier := ⟨f.threads, f.marks.setIfInBounds pc mark⟩
      match insts[pc]? with
      | some (.split targets) =>
        follow insts before after start mark fuel (targets ++ rest) f
      | some (.check l next) =>
        if l.holds before after
        then follow insts before after start mark fuel (next :: rest) f
        else follow insts before after start mark fuel rest f
      | some _ =>
        follow insts before after start mark fuel rest ⟨f.threads.push ⟨pc, start⟩, f.marks⟩
      | none => follow insts before after start mark fuel rest f

/-- A bound for the steps of following one thread: every position is entered once,
and a split puts all its targets on the list. -/
def Program.followSteps (p : Program) : Nat :=
  p.insts.foldl (fun n i => n + match i with
    | .split targets => targets.length + 1
    | _ => 2) 2

/-- The outcome of taking a character: the threads after it and the match, if a thread
has matched before it; less preferred threads end there. -/
def advance (p : Program) (fuel : Nat) (here : Nat) (c : Option Char) (after : Option Char)
    (mark : Nat) : List Thread → Frontier → Option (Nat × Nat) →
      Frontier × Option (Nat × Nat)
  | [], f, found => (f, found)
  | t :: rest, f, found =>
    match p.insts[t.pc]?, c with
    | some .accept, _ => (f, some (t.start, here))
    | some (.take s next), some x =>
      let f := if s.contains x.toNat
        then follow p.insts (some x) after t.start mark fuel [next] f else f
      advance p fuel here c after mark rest f found
    | _, _ => advance p fuel here c after mark rest f found

/-- Searches the rest of a text, at byte `here`, with the threads that are under way;
the match found so far is only given up for a preferred one. -/
def searchFrom (p : Program) (fuel : Nat) :
    List Char → Nat → Option Char → Nat → Frontier → Option (Nat × Nat) → Option (Nat × Nat)
  | cs, here, before, mark, f, found =>
    let f := if found.isSome then f
      else follow p.insts before cs.head? here mark fuel [p.start] f
    match cs with
    | [] => (advance p fuel here none none (mark + 1) f.threads.toList ⟨#[], f.marks⟩ found).2
    | c :: rest =>
      let (next, found) :=
        advance p fuel here (some c) rest.head? (mark + 1) f.threads.toList ⟨#[], f.marks⟩ found
      if found.isSome && next.threads.isEmpty then found
      else searchFrom p fuel rest (here + c.utf8Size) (some c) (mark + 1) next found

/-- The bytes of the first match in a text, its start and its end. -/
def Program.search (p : Program) (cs : List Char) : Option (Nat × Nat) :=
  searchFrom p p.followSteps cs 0 none 1 ⟨#[], Array.replicate p.insts.size 0⟩ none

end BuildTriage.Pattern
