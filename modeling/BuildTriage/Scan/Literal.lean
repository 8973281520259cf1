import BuildTriage.Scan.Report

/-!
# Searching for a literal text

The simplest matcher: it hits a text at the first occurrence of a target.
-/

namespace BuildTriage.Scan

/-- The bytes of the first occurrence of a target in a text that starts at an offset. -/
def occurrenceFrom (target : List Char) : List Char → Nat → Option (Nat × Nat)
  | [], start => if target.isEmpty then some (start, start) else none
  | c :: rest, start =>
    if target.isPrefixOf (c :: rest) then some (start, start + Text.byteLength target)
    else occurrenceFrom target rest (start + c.utf8Size)

/-- The matcher that hits a text at the first occurrence of a target. -/
def Matcher.literal (target : String) : Matcher := fun text => occurrenceFrom target.toList text 0

/-- Whether a word occurs in a text. -/
def holdsWord (word : String) (text : List Char) : Bool := (Matcher.literal word text).isSome

end BuildTriage.Scan
