import BuildTriage.Pattern.Expr

/-!
# The flags for lines do not decide whether a pattern has a meaning

What the line anchors and the dot match depends on whether every line counts and whether the
dot takes a line feed too. Whether a pattern has a meaning at all does not, and neither do the
other flags that it leaves. So a pattern may be judged without the flags of a frame around it.
-/

namespace BuildTriage.Pattern

/-- The modes without the flags for lines. -/
def Modes.plain (m : Modes) : Modes := { m with multiLine := false, dotAll := false }

/-- A setting does the same to the other flags. -/
theorem Modes.plain_apply {m n : Modes} (h : m.plain = n.plain) (s : Setting) :
    (m.apply s).plain = (n.apply s).plain := by
  obtain ⟨mi, mm, md, ms, mu, mc⟩ := m
  obtain ⟨ni, nm, nd, ns, nu, nc⟩ := n
  obtain ⟨rfl, -, -, rfl, rfl, rfl⟩ := Modes.mk.inj h
  obtain ⟨flag, value⟩ := s
  cases flag <;> rfl

theorem Modes.plain_applyAll {m n : Modes} (h : m.plain = n.plain) (flags : List Setting) :
    (m.applyAll flags).plain = (n.applyAll flags).plain := by
  unfold Modes.applyAll
  induction flags generalizing m n with
  | nil => exact h
  | cons s flags ih => exact ih (Modes.plain_apply h s)

mutual

/-- The set of a class does not depend on the flags for lines. -/
theorem ClassTree.set_plain (m : Modes) : ∀ t : ClassTree, t.set m = t.set m.plain
  | .empty => rfl
  | .literal _ => rfl
  | .range _ _ => rfl
  | .ascii _ _ => rfl
  | .shorthand _ _ => rfl
  | .property _ _ => rfl
  | .bracket negated inner => by
    rw [ClassTree.set, ClassTree.set, ClassTree.set_plain m inner]
    rfl
  | .union items => by
    rw [ClassTree.set, ClassTree.set, ClassTree.unionSet_plain m items]
  | .op kind left right => by
    rw [ClassTree.set, ClassTree.set, ClassTree.set_plain m left, ClassTree.set_plain m right]
    rfl

theorem ClassTree.unionSet_plain (m : Modes) : ∀ items : List ClassTree,
    ClassTree.unionSet m items = ClassTree.unionSet m.plain items
  | [] => rfl
  | t :: rest => by
    rw [ClassTree.unionSet, ClassTree.unionSet, ClassTree.set_plain m t,
      ClassTree.unionSet_plain m rest]

end

/-- What becomes of a tree: the other flags that it leaves, or why it has no meaning. -/
def verdict {α : Type} (r : Except Refusal (α × Modes)) : Except Refusal Modes :=
  r.map (·.2.plain)

/-- What is judged alike in two steps is judged alike. -/
theorem verdict_bind {α β : Type} {x y : Except Refusal (α × Modes)}
    {f g : α × Modes → Except Refusal (β × Modes)} (h : verdict x = verdict y)
    (hfg : ∀ a b, a.2.plain = b.2.plain → verdict (f a) = verdict (g b)) :
    verdict (x >>= f) = verdict (y >>= g) := by
  cases x with
  | error e =>
    cases y with
    | error e' =>
      obtain rfl : e = e' := Except.error.inj h
      rfl
    | ok b => cases h
  | ok a =>
    cases y with
    | error e => cases h
    | ok b => exact hfg a b (Except.ok.inj h)

/-- What is made of a part is judged by the part, and leaves the flags around it. -/
theorem verdict_keep {α β : Type} {x y : Except Refusal α} {f g : α → β} {m n : Modes}
    (hxy : x.map (fun _ => ()) = y.map (fun _ => ())) (h : m.plain = n.plain) :
    verdict (do return (f (← x), m)) = verdict (do return (g (← y), n)) := by
  cases x with
  | error e =>
    cases y with
    | error e' =>
      obtain rfl : e = e' := Except.error.inj hxy
      rfl
    | ok b => cases hxy
  | ok a =>
    cases y with
    | error e => cases hxy
    | ok b => exact congrArg Except.ok h

/-- What is judged alike is refused alike. -/
theorem unit_of_verdict {α : Type} {x y : Except Refusal (α × Modes)}
    (h : verdict x = verdict y) : x.map (fun _ => ()) = y.map (fun _ => ()) := by
  have hunit := congrArg (Except.map fun _ => ()) h
  cases x <;> cases y <;> exact hunit

/-- The dot is refused alike. -/
theorem unit_dot {m n : Modes} (h : m.plain = n.plain) :
    m.dot.map (fun _ => ()) = n.dot.map (fun _ => ()) := by
  have hunit : ∀ m : Modes, m.dot.map (fun _ => ()) =
      if m.plain.unicode then .ok () else .error .withinCharacter := by
    intro m
    obtain ⟨i, l, d, s, u, c⟩ := m
    cases u <;> cases d <;> cases c <;> rfl
  rw [hunit, hunit, h]

mutual

/-- Trees are judged without the flags for lines. -/
theorem verdict_resolve : ∀ (t : Tree) {m n : Modes}, m.plain = n.plain →
    verdict (t.resolve m) = verdict (t.resolve n)
  | .empty, _, _, h => congrArg Except.ok h
  | .settings flags, _, _, h => congrArg Except.ok (Modes.plain_applyAll h flags)
  | .literal l, m, n, h => by
    have hliteral : m.literal l = n.literal l := congrArg (fun m => m.literal l) h
    rw [Tree.resolve, Tree.resolve, hliteral]
    exact verdict_keep rfl h
  | .dot, m, n, h => by
    rw [Tree.resolve, Tree.resolve]
    exact verdict_keep (unit_dot h) h
  | .anchor a, _, _, h => congrArg Except.ok h
  | .shorthand kind negated, m, n, h => by
    have hset : m.finish negated (kind.set m.unicode) = n.finish negated (kind.set n.unicode) :=
      congrArg (fun m => m.finish negated (kind.set m.unicode)) h
    rw [Tree.resolve, Tree.resolve, hset]
    exact verdict_keep rfl h
  | .property query negated, m, n, h => by
    have hset : m.property query negated = n.property query negated :=
      congrArg (fun m => m.property query negated) h
    rw [Tree.resolve, Tree.resolve, hset]
    exact verdict_keep rfl h
  | .bracket negated inner, m, n, h => by
    have hset : inner.set m = inner.set n := by
      rw [ClassTree.set_plain m, ClassTree.set_plain n, h]
    have hfinish : ∀ s, m.finish negated (m.fold s) = n.finish negated (n.fold s) := fun s =>
      congrArg (fun m => m.finish negated (m.fold s)) h
    rw [Tree.resolve, Tree.resolve, hset]
    cases inner.set n with
    | error e => rfl
    | ok s =>
      change verdict (m.finish negated (m.fold s) >>= _) =
        verdict (n.finish negated (n.fold s) >>= _)
      rw [hfinish]
      exact verdict_keep rfl h
  | .repeated body min max greedy, m, n, h => by
    rw [Tree.resolve, Tree.resolve]
    exact verdict_bind (verdict_resolve body h) fun _ _ hab => congrArg Except.ok hab
  | .capture body, m, n, h => by
    rw [Tree.resolve, Tree.resolve]
    exact verdict_keep (unit_of_verdict (verdict_resolve body h)) h
  | .group flags body, m, n, h => by
    rw [Tree.resolve, Tree.resolve]
    exact verdict_keep (unit_of_verdict (verdict_resolve body (Modes.plain_applyAll h flags))) h
  | .sequence parts, m, n, h => by
    rw [Tree.resolve, Tree.resolve]
    exact verdict_bind (verdict_resolveAll parts h) fun _ _ hab => congrArg Except.ok hab
  | .choice branches, m, n, h => by
    rw [Tree.resolve, Tree.resolve]
    exact verdict_bind (verdict_resolveAll branches h) fun _ _ hab => congrArg Except.ok hab

theorem verdict_resolveAll : ∀ (ts : List Tree) {m n : Modes}, m.plain = n.plain →
    verdict (Tree.resolveAll m ts) = verdict (Tree.resolveAll n ts)
  | [], _, _, h => congrArg Except.ok h
  | t :: rest, m, n, h => by
    rw [Tree.resolveAll, Tree.resolveAll]
    exact verdict_bind (verdict_resolve t h) fun _ _ hab =>
      verdict_bind (verdict_resolveAll rest hab) fun _ _ hcd => congrArg Except.ok hcd

end

end BuildTriage.Pattern
