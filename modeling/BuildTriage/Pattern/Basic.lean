import BuildTriage.Pattern.Footprint
import BuildTriage.Pattern.Search

/-!
# Patterns

A pattern is a text that has been read, found small enough and compiled; it is
searched for in other texts.
-/

namespace BuildTriage

/-- A pattern that is ready to be searched for. -/
structure Pattern where
  /-- The meaning of its text. -/
  expr : Pattern.Expr
  /-- The program that searches for it. -/
  program : Pattern.Program
  deriving Inhabited

namespace Pattern

/-- The pattern that a text writes. -/
def ofText (text : String) : Except Refusal Pattern := do
  let e ← Expr.read text.toList
  if e.footprint > maxFootprint then throw .size
  return ⟨e, e.program⟩

/-- The bytes of the first match in a text. -/
def find (p : Pattern) (text : List Char) : Option (Nat × Nat) := p.program.search text

end Pattern

end BuildTriage
