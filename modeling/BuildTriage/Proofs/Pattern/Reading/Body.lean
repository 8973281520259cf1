import BuildTriage.Proofs.Pattern.Reading.Class
import BuildTriage.Proofs.Pattern.Reading.Group

/-!
# The body of a group, within a longer text

A body is read part by part up to the bracket that closes it. A whole text that is a
pattern by itself is such a body: set in a group it is read as the same tree.
-/

namespace BuildTriage.Pattern

/-- A character without a meaning of its own stands for itself. -/
theorem readBody_literal {fuel : Nat} {verbose : Bool} {names : List String}
    {branches parts : List Tree} {cs rest : List Char} {c : Char}
    (h : skip verbose cs = c :: rest)
    (hc : c ∉ [')', '|', '(', '[', '?', '*', '+', '{', '\\', '.', '^', '$']) :
    readBody (fuel + 1) verbose names branches parts cs =
      readBody fuel verbose names branches (.literal ⟨c, false⟩ :: parts) rest := by
  rw [readBody, h]
  dsimp only
  split
  all_goals first
    | next he => exact absurd he (List.cons_ne_nil _ _)
    | next he =>
      obtain ⟨rfl, rfl⟩ := List.cons.inj he
      first
        | exact absurd hc (by decide)
        | rfl

section Readers

variable {tail rest longer : List Char} (q : Quiet tail) (verbose : Bool)
include q

omit q in
/-- A question mark after an operator is read alike. -/
theorem readGreed_continues (h : Continues tail rest longer) :
    Same tail (readGreed rest) (readGreed longer) := by
  cases rest with
  | nil => rcases h.nil with rfl | rfl <;> exact ⟨rfl, h⟩
  | cons c rest =>
    obtain rfl := h.cons
    by_cases hc : c = '?'
    · subst hc
      exact ⟨rfl, .inl rfl⟩
    · have hplain : ∀ cs, readGreed (c :: cs) = (true, c :: cs) := by
        intro cs
        unfold readGreed
        split
        · next h => exact absurd (List.cons.inj h).1 hc
        · rfl
      rw [hplain, hplain]
      exact ⟨rfl, .inl rfl⟩

omit q in
/-- What follows the bracket of a group is carried over. -/
theorem closing_carries {α : Type} {r : α → α → Prop} {f g : List Char → Except Refusal α} :
    Continues tail rest longer → (∀ cs, Carries r (f cs) (g (cs ++ ')' :: tail))) →
    Carries r (match rest with | ')' :: rest => f rest | _ => throw .groupUnclosed)
      (match longer with | ')' :: rest => g rest | _ => throw .groupUnclosed) := by
  intro h hfg
  cases rest with
  | nil => exact carries_error _ _
  | cons c rest =>
    obtain rfl := h.cons
    by_cases hc : c = ')'
    · subst hc
      exact hfg rest
    · split
      · next he => exact absurd (List.cons.inj he).1 hc
      · exact carries_error _ _

section Repeated

variable {fuel more : Nat} {verbose : Bool} {names : List String} {branches : List Tree}

omit q in
/-- What follows a repetition of the last part is carried over, if it is with any parts. -/
theorem repeated_carries
    (hmore : ∀ parts rest longer, Continues tail rest longer → Carries (SameTwo tail)
      (readBody fuel verbose names branches parts rest)
      (readBody more verbose names branches parts longer))
    (parts : List Tree) (h : Continues tail rest longer) (min : Nat) (max : Option Nat)
    (greedy : Bool) : Carries (SameTwo tail)
      (do
        let parts ← repeatLast parts min max greedy
        readBody fuel verbose names branches parts rest)
      (do
        let parts ← repeatLast parts min max greedy
        readBody more verbose names branches parts longer) := by
  cases repeatLast parts min max greedy with
  | error e => exact carries_error _ _
  | ok parts => exact hmore parts _ _ h

omit q in
/-- So is what follows an operator that may be reluctant. -/
theorem uncounted_carries
    (hmore : ∀ parts rest longer, Continues tail rest longer → Carries (SameTwo tail)
      (readBody fuel verbose names branches parts rest)
      (readBody more verbose names branches parts longer))
    (parts : List Tree) (h : Continues tail rest longer) (min : Nat) (max : Option Nat) :
    Carries (SameTwo tail)
      (do
        let (greedy, rest) := readGreed rest
        let parts ← repeatLast parts min max greedy
        readBody fuel verbose names branches parts rest)
      (do
        let (greedy, rest) := readGreed longer
        let parts ← repeatLast parts min max greedy
        readBody more verbose names branches parts rest) := by
  obtain ⟨hgreedy, hafter⟩ := readGreed_continues h
  dsimp only
  rw [hgreedy]
  exact repeated_carries hmore parts hafter min max _

end Repeated

/-- The body of a group is carried over, up to the bracket that closes it. -/
theorem readBody_carries (fuel : Nat) : ∀ more, fuel ≤ more →
    ∀ verbose names branches parts rest longer, Continues tail rest longer →
    Carries (SameTwo tail) (readBody fuel verbose names branches parts rest)
      (readBody more verbose names branches parts longer) := by
  induction fuel with
  | zero => exact fun _ _ _ _ _ _ _ _ _ => carries_error _ _
  | succ fuel ih =>
    intro more hm verbose names branches parts rest longer h
    obtain ⟨more, rfl⟩ : ∃ m, more = m + 1 := ⟨more - 1, by omega⟩
    have hmore := ih more (by omega)
    have hskip := h.skip q verbose
    have hparts := hmore verbose names branches
    have huncounted := fun r => uncounted_carries hparts parts (continues_append tail r)
    cases hr : skip verbose rest with
    | nil =>
      rw [hr] at hskip
      rw [readBody, hr]
      rcases hskip.nil with hl | hl
      · rw [readBody, hl]
        exact carries_ok ⟨rfl, rfl, .inl rfl⟩
      · rw [readBody, hl]
        exact carries_ok ⟨rfl, rfl, .inr ⟨rfl, rfl⟩⟩
    | cons c r =>
      rw [hr] at hskip
      have hl := hskip.cons
      have hrest := continues_append tail r
      by_cases hplain : c ∉ [')', '|', '(', '[', '?', '*', '+', '{', '\\', '.', '^', '$']
      · rw [readBody_literal hr hplain, readBody_literal hl hplain]
        exact hmore _ _ _ _ _ _ hrest
      rw [readBody, readBody, hr, hl]
      by_cases hclose : c = ')'
      · subst hclose
        exact carries_ok ⟨rfl, rfl, .inl rfl⟩
      by_cases hbar : c = '|'
      · subst hbar
        exact hmore _ _ _ _ _ _ hrest
      by_cases hopen : c = '('
      · subst hopen
        refine (readOpening_carries q verbose hrest).bind fun x y hxy => ?_
        obtain ⟨opening, after⟩ := x
        obtain ⟨opening', after'⟩ := y
        obtain ⟨rfl, hafter⟩ : opening = opening' ∧ Continues tail after after' := hxy
        cases opening with
        | settings flags => exact hmore _ _ _ _ _ _ hafter
        | capture name =>
          dsimp only
          split
          · exact carries_error _ _
          · refine (hmore _ _ _ _ _ _ hafter).bind fun x y hxy => ?_
            obtain ⟨hbody, hnames, hfinal⟩ := hxy
            rw [hbody, hnames]
            exact closing_carries hfinal fun cs => hmore _ _ _ _ _ _ (.inl rfl)
        | group flags =>
          refine (hmore _ _ _ _ _ _ hafter).bind fun x y hxy => ?_
          obtain ⟨hbody, hnames, hfinal⟩ := hxy
          dsimp only
          rw [hbody, hnames]
          exact closing_carries hfinal fun cs => hmore _ _ _ _ _ _ (.inl rfl)
      by_cases hbracket : c = '['
      · subst hbracket
        have hfuel : 2 * r.length + 2 ≤ 2 * (r ++ ')' :: tail).length + 2 := by
          rw [List.length_append]
          omega
        refine ((class_carries q verbose _).1 _ hfuel r _ hrest).bind fun x y hxy => ?_
        obtain ⟨hnegated, hinner, hafter⟩ := hxy
        dsimp only
        rw [hnegated, hinner]
        exact hmore _ _ _ _ _ _ hafter
      by_cases hquestion : c = '?'
      · subst hquestion
        exact huncounted r 0 (some 1)
      by_cases hstar : c = '*'
      · subst hstar
        exact huncounted r 0 none
      by_cases hplus : c = '+'
      · subst hplus
        exact huncounted r 1 none
      by_cases hcount : c = '{'
      · subst hcount
        cases parts with
        | nil => exact carries_error _ _
        | cons part parts =>
          refine (readCounts_carries q verbose hrest).bind fun x y hxy => ?_
          obtain ⟨hmin, hmax, hafter⟩ := hxy
          obtain ⟨hgreedy, hfinal⟩ := readGreed_continues (hafter.skip q verbose)
          dsimp only
          rw [hmin, hmax, hgreedy]
          exact repeated_carries hparts _ hfinal _ _ _
      by_cases hescape : c = '\\'
      · subst hescape
        refine (readEscape_carries q verbose hrest).bind fun x y hxy => ?_
        dsimp only
        rw [hxy.1]
        exact hmore _ _ _ _ _ _ hxy.2
      by_cases hdot : c = '.'
      · subst hdot
        exact hmore _ _ _ _ _ _ hrest
      by_cases hstart : c = '^'
      · subst hstart
        exact hmore _ _ _ _ _ _ hrest
      by_cases hend : c = '$'
      · subst hend
        exact hmore _ _ _ _ _ _ hrest
      simp [hclose, hbar, hopen, hbracket, hquestion, hstar, hplus, hcount, hescape, hdot, hstart,
        hend] at hplain

omit q verbose in
/-- A tree that is read takes the whole text. -/
theorem readBody_of_read {cs : List Char} {tree : Tree} (h : Tree.read cs = .ok tree) :
    ∃ names, readBody (cs.length + 1) false [] [] [] cs = .ok (tree, names, []) := by
  obtain ⟨⟨t, names, rest⟩, hbody, h⟩ := exists_of_bind_ok h
  dsimp only at h
  split at h
  · exact absurd h nofun
  · next hrest =>
    split at h
    · exact absurd h nofun
    · obtain rfl : rest = [] := by simpa using hrest
      obtain rfl := Except.ok.inj h
      exact ⟨names, hbody⟩

omit verbose in
/-- A whole text that is a pattern by itself is read as the same tree before a bracket that
closes it, unless it ends in a comment. -/
theorem readBody_enclosed {cs : List Char} {tree : Tree} (h : Tree.read cs = .ok tree)
    {fuel : Nat} (hf : cs.length + 1 ≤ fuel) :
    ∃ names rest, readBody fuel false [] [] [] (cs ++ ')' :: tail) = .ok (tree, names, rest) ∧
      (rest = ')' :: tail ∨ rest = []) := by
  obtain ⟨names, hbody⟩ := readBody_of_read h
  obtain ⟨⟨_, names', rest'⟩, hlonger, rfl, rfl, hcontinues⟩ :=
    readBody_carries q (cs.length + 1) fuel hf false [] [] [] cs _ (continues_append tail cs) _
      hbody
  exact ⟨_, rest', hlonger, hcontinues.nil⟩

end Readers

end BuildTriage.Pattern
