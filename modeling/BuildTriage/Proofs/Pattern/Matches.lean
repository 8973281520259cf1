import BuildTriage.Pattern.Search

/-!
# What an expression matches

An expression matches a part of a text, seen between the text before it and the text after
it: a condition looks at the characters on both sides and takes none. This is said without
programs and threads, and without preference among several matches.
-/

namespace BuildTriage.Pattern

/-- An expression matches `hit` between `front` and `back`. -/
inductive Expr.Matches : Expr → List Char → List Char → List Char → Prop where
  /-- The empty expression matches nothing. -/
  | empty (front back : List Char) : Matches .empty front [] back
  /-- A character matches itself. -/
  | char (c : Char) (front back : List Char) : Matches (.char c) front [c] back
  /-- A set matches any of its characters. -/
  | set {s : Charset} {c : Char} (front back : List Char) (hc : s.contains c.toNat = true) :
      Matches (.set s) front [c] back
  /-- A condition holds between the characters on both sides. -/
  | look {l : Look} {front back : List Char} (hl : l.holds front.getLast? back.head? = true) :
      Matches (.look l) front [] back
  /-- A body is matched a number of times in a row, within its bounds; an upper bound below
  the lower one counts for nothing. -/
  | repeated {body : Expr} {min : Nat} {max : Option Nat} {greedy : Bool}
      {front hit back : List Char} (n : Nat) (hmin : min ≤ n) (hmax : ∀ k ∈ max, n ≤ Nat.max min k)
      (h : Matches (.sequence (List.replicate n body)) front hit back) :
      Matches (.repeated body min max greedy) front hit back
  /-- A capture matches what its body does. -/
  | capture {body : Expr} {front hit back : List Char} (h : Matches body front hit back) :
      Matches (.capture body) front hit back
  /-- No parts match nothing. -/
  | done (front back : List Char) : Matches (.sequence []) front [] back
  /-- The first part is followed by what the other parts match. -/
  | next {e : Expr} {rest : List Expr} {front first others back : List Char}
      (he : Matches e front first (others ++ back))
      (hrest : Matches (.sequence rest) (front ++ first) others back) :
      Matches (.sequence (e :: rest)) front (first ++ others) back
  /-- Some branch matches. -/
  | choice {e : Expr} {branches : List Expr} {front hit back : List Char} (he : e ∈ branches)
      (h : Matches e front hit back) : Matches (.choice branches) front hit back

/-- What matches a part of a text between two others. -/
abbrev Relation := List Char → List Char → List Char → Prop

namespace Relation

/-- Matches nothing. -/
def nothing : Relation := fun _ hit _ => hit = []

/-- Matches by one relation and then by another. -/
def andThen (r s : Relation) : Relation := fun front hit back =>
  ∃ first others, hit = first ++ others ∧ r front first (others ++ back) ∧
    s (front ++ first) others back

/-- Matches a number of times in a row. -/
def times (r : Relation) : Nat → Relation
  | 0 => nothing
  | n + 1 => r.andThen (r.times n)

/-- Matches any number of times in a row. -/
def star (r : Relation) : Relation := fun front hit back => ∃ n, r.times n front hit back

/-- Matches so many times and then so many more. -/
theorem times_add {r : Relation} (m n : Nat) {front hit back : List Char}
    (h : (r.times m).andThen (r.times n) front hit back) : r.times (m + n) front hit back := by
  induction m generalizing front hit with
  | zero =>
    obtain ⟨first, others, rfl, rfl, hothers⟩ := h
    rw [Nat.zero_add]
    simpa using hothers
  | succ m ih =>
    obtain ⟨first, others, rfl, ⟨one, more, rfl, hone, hmore⟩, hothers⟩ := h
    rw [Nat.succ_add]
    refine ⟨one, more ++ others, List.append_assoc .., ?_, ih ⟨more, others, rfl, ?_, ?_⟩⟩
    · rwa [List.append_assoc]
    · exact hmore
    · rwa [List.append_assoc]

end Relation

namespace Expr

/-- No parts match nothing. -/
theorem matches_nil {front hit back : List Char} :
    (sequence []).Matches front hit back ↔ hit = [] := by
  constructor
  · intro h; cases h; rfl
  · rintro rfl; exact .done front back

/-- Parts in a row match one after the other. -/
theorem matches_cons {e : Expr} {rest : List Expr} {front hit back : List Char} :
    (sequence (e :: rest)).Matches front hit back ↔
      Relation.andThen e.Matches (sequence rest).Matches front hit back := by
  constructor
  · intro h
    cases h with
    | next he hrest => exact ⟨_, _, rfl, he, hrest⟩
  · rintro ⟨first, others, rfl, he, hrest⟩
    exact .next he hrest

/-- Equal parts in a row match as many times as there are. -/
theorem matches_replicate {e : Expr} (n : Nat) {front hit back : List Char} :
    (sequence (List.replicate n e)).Matches front hit back ↔
      Relation.times e.Matches n front hit back := by
  induction n generalizing front hit back with
  | zero => exact matches_nil
  | succ n ih =>
    rw [List.replicate_succ, matches_cons]
    simp only [Relation.times, Relation.andThen, ih]

/-- A repetition matches as many times as its bounds allow. -/
theorem matches_repeated {e : Expr} {min : Nat} {max : Option Nat} {greedy : Bool} (n : Nat)
    {front hit back : List Char} (hmin : min ≤ n) (hmax : ∀ k ∈ max, n ≤ Nat.max min k)
    (h : Relation.times e.Matches n front hit back) :
    (repeated e min max greedy).Matches front hit back :=
  .repeated n hmin hmax ((matches_replicate n).mpr h)

/-- A condition matches nothing, where it holds. -/
theorem matches_look {l : Look} {front hit back : List Char} :
    (look l).Matches front hit back ↔ hit = [] ∧ l.holds front.getLast? back.head? = true := by
  constructor
  · intro h
    cases h with
    | look hl => exact ⟨rfl, hl⟩
  · rintro ⟨rfl, hl⟩
    exact .look hl

end Expr

end BuildTriage.Pattern
