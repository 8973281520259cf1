import Mathlib.Algebra.Ring.Nat

/-!
# Words and their numbers

The larger and the smaller of two words are those of the larger and of the smaller number. A
number below `2 ^ 64` is that of a word.
-/

namespace BuildTriage

theorem max_eq (a b : UInt64) : max a b = if a ≤ b then b else a := rfl

theorem min_eq (a b : UInt64) : min a b = if a ≤ b then a else b := rfl

theorem toNat_max (a b : UInt64) : (max a b).toNat = max a.toNat b.toNat := by
  rw [max_eq]
  split
  · next h => exact (Nat.max_eq_right (UInt64.le_iff_toNat_le.mp h)).symm
  · next h =>
    have hlt : ¬a.toNat ≤ b.toNat := fun hn => h (UInt64.le_iff_toNat_le.mpr hn)
    exact (Nat.max_eq_left (Nat.le_of_not_le hlt)).symm

theorem toNat_min (a b : UInt64) : (min a b).toNat = min a.toNat b.toNat := by
  rw [min_eq]
  split
  · next h => exact (Nat.min_eq_left (UInt64.le_iff_toNat_le.mp h)).symm
  · next h =>
    have hlt : ¬a.toNat ≤ b.toNat := fun hn => h (UInt64.le_iff_toNat_le.mpr hn)
    exact (Nat.min_eq_right (Nat.le_of_not_le hlt)).symm

/-- The larger of two words is no smaller than the second one. -/
theorem le_max_word (a b : UInt64) : b ≤ max a b := by
  rw [UInt64.le_iff_toNat_le, toNat_max]
  exact Nat.le_max_right _ _

/-- A number that is small enough is that of its word. -/
theorem toNat_word {n : Nat} (h : n < 2 ^ 64) : (UInt64.ofNat n).toNat = n :=
  UInt64.toNat_ofNat_of_lt' h

/-- A word is the one of its number. -/
theorem eq_word {a : UInt64} {n : Nat} (h : a.toNat = n) : a = .ofNat n := by
  rw [← h, UInt64.ofNat_toNat]

end BuildTriage
