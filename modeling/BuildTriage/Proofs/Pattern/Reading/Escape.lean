import BuildTriage.Proofs.Pattern.Reading.Basic

/-!
# What a backslash introduces, within a longer text

Characters by their numbers, classes of the character database and word boundaries end by
themselves, so what follows the pattern does not change how they are read.
-/

namespace BuildTriage.Pattern

/-- The name of a word boundary is a run. -/
theorem readBoundaryName_eq_readRun (verbose : Bool) (fuel : Nat) (done cs : List Char) :
    readBoundaryName verbose fuel done cs = readRun isBoundaryChar verbose fuel done cs := by
  induction fuel generalizing done cs with
  | zero => rfl
  | succ fuel ih => cases cs <;> simp only [readBoundaryName, readRun, ih]

section Readers

variable {tail rest longer : List Char} (q : Quiet tail) (verbose : Bool)
include q

/-- The digits of a character by its number are carried over. -/
theorem readHexDigits_carries (k n : Nat) (h : Continues tail rest longer) :
    Carries (Same tail) (readHexDigits verbose k n rest) (readHexDigits verbose k n longer) := by
  induction k generalizing n rest longer with
  | zero =>
    simp only [readHexDigits]
    split
    · exact carries_ok ⟨rfl, h⟩
    · exact carries_error _ _
  | succ k ih =>
    cases rest with
    | nil => exact carries_error _ _
    | cons c rest =>
      obtain rfl := h.cons
      simp only [readHexDigits]
      split
      · exact ih _ (skip_append q verbose rest)
      · exact carries_error _ _

/-- The digits up to a brace are carried over. -/
theorem readHexBrace_carries (fuel : Nat) {more : Nat} (hm : fuel ≤ more) (n : Option Nat)
    (h : Continues tail rest longer) :
    Carries (Same tail) (readHexBrace verbose fuel n rest)
      (readHexBrace verbose more n longer) := by
  induction fuel generalizing more n rest longer with
  | zero => exact carries_error _ _
  | succ fuel ih =>
    obtain ⟨more, rfl⟩ : ∃ m, more = m + 1 := ⟨more - 1, by omega⟩
    cases rest with
    | nil => exact carries_error _ _
    | cons c rest =>
      obtain rfl := h.cons
      simp only [readHexBrace]
      split
      · split
        · exact carries_ok ⟨rfl, skip_append q verbose rest⟩
        · exact carries_error _ _
      · split
        · exact ih (by omega) _ (skip_append q verbose rest)
        · exact carries_error _ _

/-- A character by its number is carried over. -/
theorem readHex_carries (digits : Nat) (h : Continues tail rest longer) :
    Carries (SameTwo tail) (readHex verbose digits rest) (readHex verbose digits longer) := by
  have hskip := h.skip q verbose
  unfold readHex
  revert hskip
  generalize skip verbose rest = r
  generalize skip verbose longer = l
  intro hskip
  cases r with
  | nil => exact carries_error _ _
  | cons c r =>
    obtain rfl := hskip.cons
    by_cases hc : c = '{'
    · subst hc
      exact (readHexBrace_carries q verbose (r.length + 1) (by simp) none
        (skip_append q verbose r)).bind fun x y hxy => carries_ok ⟨hxy.1, rfl, hxy.2⟩
    · have hdigits := readHexDigits_carries q verbose digits 0 (continues_append tail (c :: r))
      simp only [List.cons_append] at hdigits
      split
      · next h => exact absurd h (by simp)
      · next h => exact absurd (List.cons.inj h).1 hc
      · split
        · next h => exact absurd h (by simp)
        · next h => exact absurd (List.cons.inj h).1 hc
        · exact hdigits.bind fun x y hxy => carries_ok ⟨hxy.1, rfl, hxy.2⟩

/-- The name of a property is carried over. -/
theorem readPropertyName_carries (fuel : Nat) {more : Nat} (hm : fuel ≤ more) (done : List Char)
    (h : Continues tail rest longer) :
    Carries (Same tail) (readPropertyName verbose fuel done rest)
      (readPropertyName verbose more done longer) := by
  induction fuel generalizing more done rest longer with
  | zero => exact carries_error _ _
  | succ fuel ih =>
    obtain ⟨more, rfl⟩ : ∃ m, more = m + 1 := ⟨more - 1, by omega⟩
    cases rest with
    | nil => exact carries_error _ _
    | cons c rest =>
      obtain rfl := h.cons
      simp only [readPropertyName]
      split
      · exact carries_ok ⟨rfl, continues_append tail rest⟩
      · exact ih (by omega) _ (skip_append q verbose rest)

/-- A class of the character database is carried over. -/
theorem readProperty_carries (negated : Bool) (h : Continues tail rest longer) :
    Carries (Same tail) (readProperty verbose negated rest)
      (readProperty verbose negated longer) := by
  have hskip := h.skip q verbose
  unfold readProperty
  revert hskip
  generalize skip verbose rest = r
  generalize skip verbose longer = l
  intro hskip
  cases r with
  | nil => exact carries_error _ _
  | cons c r =>
    obtain rfl := hskip.cons
    by_cases hc : c = '{'
    · subst hc
      exact (readPropertyName_carries q verbose (r.length + 1) (by simp) []
        (skip_append q verbose r)).bind fun x y hxy =>
          carries_ok ⟨by rw [hxy.1], hxy.2⟩
    · by_cases hb : c = '\\'
      · subst hb
        exact carries_error _ _
      · split
        · next h => exact absurd h (by simp)
        · next h => exact absurd (List.cons.inj h).1 hc
        · next h =>
          obtain ⟨rfl, rfl⟩ := List.cons.inj h
          simp only [hb, if_false]
          exact carries_ok ⟨rfl, skip_append q verbose _⟩

/-- A word boundary is carried over. -/
theorem readBoundary_carries (h : Continues tail rest longer) :
    Carries (Same tail) (readBoundary verbose rest) (readBoundary verbose longer) := by
  cases rest with
  | nil =>
    rcases h.nil with rfl | rfl
    · exact carries_ok ⟨rfl, .inl rfl⟩
    · exact carries_ok ⟨rfl, .inr ⟨rfl, rfl⟩⟩
  | cons c rest =>
    obtain rfl := h.cons
    by_cases hc : c = '{'
    · subst hc
      simp only [readBoundary]
      have hskip := skip_append q verbose rest
      cases hr : skip verbose rest with
      | nil => exact carries_error _ _
      | cons d more =>
        rw [hr] at hskip
        rw [hskip.cons]
        dsimp only
        split
        · exact carries_ok ⟨rfl, .inl rfl⟩
        · cases hname : readBoundaryName verbose (more.length + 2) [] (d :: more) with
          | mk name after =>
            by_cases hclose : ∃ final, after = '}' :: final
            · obtain ⟨final, rfl⟩ := hclose
              rw [readBoundaryName_eq_readRun] at hname
              have hlonger := readRun_append q verbose (by simp)
                (by simp : more.length + 2 ≤ (more ++ ')' :: tail).length + 2) hname
              rw [List.cons_append, ← readBoundaryName_eq_readRun] at hlonger
              rw [hlonger]
              split
              · next h =>
                obtain ⟨rfl, hfinal⟩ := Prod.mk.inj h
                obtain rfl := (List.cons.inj hfinal).2
                split
                all_goals first
                  | exact carries_ok ⟨rfl, .inl rfl⟩
                  | exact carries_error _ _
              · exact carries_error _ _
            · split
              · next h => exact absurd ⟨_, (Prod.mk.inj h).2⟩ hclose
              · exact carries_error _ _
    · have hnone : ∀ more,
          readBoundary verbose (c :: more) = .ok (.anchor .wordBoundary, c :: more) := by
        intro more
        unfold readBoundary
        split
        · next h => exact absurd (List.cons.inj h).1 hc
        · rfl
      rw [hnone, hnone]
      exact carries_ok ⟨rfl, .inl rfl⟩

/-- A character that is written in hexadecimal digits is carried over. -/
theorem hexLiteral_carries (digits : Nat) (h : Continues tail rest longer) :
    Carries (Same tail)
      (do
        let (c, byte, rest) ← readHex verbose digits rest
        Except.ok (Tree.literal ⟨c, byte⟩, rest))
      (do
        let (c, byte, rest) ← readHex verbose digits longer
        Except.ok (Tree.literal ⟨c, byte⟩, rest)) :=
  (readHex_carries q verbose digits h).bind fun x y hxy =>
    carries_ok ⟨by rw [hxy.1, hxy.2.1], hxy.2.2⟩

/-- What a backslash introduces is carried over. -/
theorem readEscape_carries (h : Continues tail rest longer) :
    Carries (Same tail) (readEscape verbose rest) (readEscape verbose longer) := by
  cases rest with
  | nil => exact carries_error _ _
  | cons c rest =>
    obtain rfl := h.cons
    have hrest := continues_append tail rest
    have hproperty := fun negated => readProperty_carries q verbose negated hrest
    have hboundary := readBoundary_carries q verbose hrest
    unfold readEscape
    dsimp only
    split
    · exact carries_error _ _
    · split
      all_goals first
        | exact hexLiteral_carries q verbose _ hrest
        | exact hproperty _
        | exact hboundary
        | exact carries_ok ⟨rfl, hrest⟩
        | skip
      split
      · exact carries_ok ⟨rfl, hrest⟩
      · exact carries_error _ _

end Readers

end BuildTriage.Pattern
