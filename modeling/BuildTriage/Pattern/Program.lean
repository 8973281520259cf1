import BuildTriage.Pattern.Expr

/-!
# Programs for searching

A program is an array of instructions that refer to each other by position. A split
lists where to go on in order of preference, so the order of a program's paths says
which of several matches is meant. A repetition of something that can match nothing
is compiled as an optional repetition of once or more, which keeps that order right.
-/

namespace BuildTriage.Pattern

/-- One instruction. -/
inductive Inst where
  /-- Takes one character of a set. -/
  | take (s : Charset) (next : Nat)
  /-- Goes on at each of the positions, the preferred one first. -/
  | split (targets : List Nat)
  /-- Goes on where a condition holds. -/
  | check (l : Look) (next : Nat)
  /-- The pattern has matched. -/
  | accept
  deriving Repr, Inhabited

/-- The instructions of a pattern and the first of them. -/
structure Program where
  /-- The instructions by position. -/
  insts : Array Inst
  /-- The position to start from. -/
  start : Nat
  deriving Repr, Inhabited

mutual

/-- Every match of the expression takes a character. -/
def Expr.takes : Expr → Bool
  | .empty => false
  | .char _ => true
  | .set s => !s.isEmpty
  | .look _ => false
  | .repeated body min _ _ => min ≠ 0 && body.takes
  | .capture body => body.takes
  | .sequence parts => Expr.anyTakes parts
  | .choice branches => Expr.allTake branches

/-- Some part takes a character. -/
def Expr.anyTakes : List Expr → Bool
  | [] => false
  | e :: rest => e.takes || Expr.anyTakes rest

/-- Every branch takes a character. -/
def Expr.allTake : List Expr → Bool
  | [] => true
  | e :: rest => e.takes && Expr.allTake rest

end

/-- Adds instructions that lead to the given position; the result says where they
start. -/
abbrev Emitter := Nat → Array Inst → Nat × Array Inst

/-- Adds one instruction. -/
def emit (i : Inst) (p : Array Inst) : Nat × Array Inst := (p.size, p.push i)

/-- A split between going on with a body and leaving it. -/
def branch (greedy : Bool) (body leave : Nat) : Inst :=
  .split (if greedy then [body, leave] else [leave, body])

/-- The body a number of times in a row. -/
def copies (body : Emitter) : Nat → Emitter
  | 0, next, p => (next, p)
  | n + 1, next, p =>
    let (next, p) := copies body n next p
    body next p

/-- The body once or more. -/
def onceOrMore (body : Emitter) (greedy : Bool) : Emitter := fun next p =>
  let loop := p.size
  let (start, p) := body loop (p.push .accept)
  (start, p.setIfInBounds loop (branch greedy start next))

/-- The body any number of times. -/
def anyNumber (body : Emitter) (takes greedy : Bool) : Emitter := fun next p =>
  if takes then
    let loop := p.size
    let (start, p) := body loop (p.push .accept)
    (loop, p.setIfInBounds loop (branch greedy start next))
  else
    let (start, p) := onceOrMore body greedy next p
    emit (branch greedy start next) p

/-- The body up to a number of times, each further time inside the one before. -/
def upTo (body : Emitter) (greedy : Bool) : Nat → Emitter
  | 0, next, p => (next, p)
  | n + 1, next, p =>
    let (inner, p) := upTo body greedy n next p
    let (start, p) := body inner p
    emit (branch greedy start next) p

mutual

/-- The instructions of an expression. -/
def Expr.emit : Expr → Emitter
  | .empty, next, p => (next, p)
  | .char c, next, p => Pattern.emit (.take [(c.toNat, c.toNat)] next) p
  | .set s, next, p => Pattern.emit (.take s next) p
  | .look l, next, p => Pattern.emit (.check l next) p
  | .repeated body min max greedy, next, p =>
    match max with
    | some max =>
      let (next, p) := upTo body.emit greedy (max - min) next p
      copies body.emit min next p
    | none =>
      match min with
      | 0 => anyNumber body.emit body.takes greedy next p
      | n + 1 =>
        let (next, p) := onceOrMore body.emit greedy next p
        copies body.emit n next p
  | .capture body, next, p => body.emit next p
  | .sequence parts, next, p => Expr.emitAll parts next p
  | .choice branches, next, p =>
    let (starts, p) := Expr.emitBranches branches next p
    Pattern.emit (.split starts) p

/-- The instructions of expressions in a row. -/
def Expr.emitAll : List Expr → Emitter
  | [], next, p => (next, p)
  | e :: rest, next, p =>
    let (next, p) := Expr.emitAll rest next p
    e.emit next p

/-- The instructions of expressions that all lead to one position, and where each
starts. -/
def Expr.emitBranches : List Expr → Nat → Array Inst → List Nat × Array Inst
  | [], _, p => ([], p)
  | e :: rest, next, p =>
    let (start, p) := e.emit next p
    let (starts, p) := Expr.emitBranches rest next p
    (start :: starts, p)

end

/-- The program of an expression. -/
def Expr.program (e : Expr) : Program :=
  let (start, insts) := e.emit 0 #[.accept]
  ⟨insts, start⟩

end BuildTriage.Pattern
