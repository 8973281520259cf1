import BuildTriage.Json.Doc

/-!
# Texts and numbers read back

The written form of a text or of a whole number reads back as what it was written for,
whatever stands after it. A number needs something after it that does not go on with it.
-/

namespace BuildTriage.Json

/-- The four-digit name of a control character gives its number back. -/
theorem readUnit_control (n : Nat) (hn : n < 0x20) (rest : List Char) :
    readUnit ('0' :: '0' :: hexDigit (n / 16) :: hexDigit n :: rest) = .ok (n, rest) := by
  have hwidth : ∀ a b c d : Char, ¬Text.byteLength [a, b, c, d] < 4 := by
    intro a b c d
    have ha := a.utf8Size_pos
    have hb := b.utf8Size_pos
    have hc := c.utf8Size_pos
    have hd := d.utf8Size_pos
    simp only [Text.byteLength_cons, Text.byteLength_nil]
    omega
  have hvalue : ∀ m : Nat, m < 0x20 → ∃ a b, hexValue? (hexDigit (m / 16)) = some a ∧
      hexValue? (hexDigit m) = some b ∧ a * 16 + b = m := by
    intro m hm
    refine ⟨m / 16, m % 16, ?_, ?_, by omega⟩
    · revert m; decide
    · revert m; decide
  obtain ⟨a, b, ha, hb, hab⟩ := hvalue n hn
  have hzero : hexValue? '0' = some 0 := by decide
  simp only [readUnit, List.take_succ_cons, List.take_zero, hwidth, if_false, hzero, ha, hb]
  simp only [Nat.zero_mul, Nat.zero_add, hab]

/-- A control character is read back from any of its escaped forms. -/
theorem readQuoted_escapeChar (c : Char) (fuel : Nat) (rest done : List Char) :
    readQuoted (fuel + 1) (escapeChar c ++ rest) done none =
      readQuoted fuel rest (c :: done) none := by
  by_cases hq : c = '"'
  · subst hq
    simp [escapeChar, readQuoted, readEscape]
  by_cases hb : c = '\\'
  · subst hb
    simp [escapeChar, readQuoted, readEscape]
  by_cases hc : c.toNat < 0x20
  · have hback : Char.ofNat c.toNat = c := Char.ofNat_toNat c
    simp only [escapeChar, hq, hb, hc, if_true, if_false]
    split
    · next h => rw [← hback, h]; rfl
    split
    · next h => rw [← hback, h]; rfl
    split
    · next h => rw [← hback, h]; rfl
    split
    · next h => rw [← hback, h]; rfl
    split
    · next h => rw [← hback, h]; rfl
    · have hpair : readPair c.toNat rest = .char (Char.ofNat c.toNat) rest := by
        have hlow : ¬(0xDC00 ≤ c.toNat ∧ c.toNat ≤ 0xDFFF) := by omega
        have hhigh : c.toNat < 0xD800 ∨ 0xDBFF < c.toNat := by omega
        simp only [readPair, hlow, hhigh, if_true, if_false]
      simp only [List.cons_append, List.nil_append, readQuoted, readEscape,
        readUnit_control c.toNat hc rest, hpair, hback]
      rfl
  · simp only [escapeChar, hq, hb, hc, if_false, List.cons_append, List.nil_append, readQuoted]

/-- Reading up to the closing quote undoes escaping. -/
theorem readQuoted_escape (cs : List Char) (fuel : Nat) (rest done : List Char)
    (hf : cs.length < fuel) :
    readQuoted fuel (escape cs ++ '"' :: rest) done none =
      ⟨.ok (String.ofList (done.reverse ++ cs)), .ok rest⟩ := by
  induction cs generalizing fuel done with
  | nil =>
    have hpos : 0 < fuel := by
      simp only [List.length_nil] at hf
      omega
    obtain ⟨fuel, rfl⟩ : ∃ n, fuel = n + 1 := Nat.exists_eq_succ_of_ne_zero (Nat.ne_of_gt hpos)
    simp [escape, readQuoted]
  | cons c cs ih =>
    simp only [List.length_cons] at hf
    obtain ⟨fuel, rfl⟩ : ∃ n, fuel = n + 1 := ⟨fuel - 1, by omega⟩
    have hstep := readQuoted_escapeChar c fuel (escape cs ++ '"' :: rest) done
    rw [escape, List.flatMap_cons, List.append_assoc]
    rw [← escape, hstep, ih fuel (c :: done) (by omega)]
    simp only [List.reverse_cons, List.append_assoc, List.cons_append, List.nil_append]

/-- Escaping shortens nothing. -/
theorem length_le_escape (cs : List Char) : cs.length ≤ (escape cs).length := by
  induction cs with
  | nil => exact Nat.le_refl _
  | cons c cs ih =>
    have hc : 1 ≤ (escapeChar c).length := by
      unfold escapeChar
      repeat' split
      all_goals simp
    simp only [escape, List.flatMap_cons, List.length_append, List.length_cons] at ih ⊢
    omega

/-- A quoted text, whose opening quote has been read, gives the text back. -/
theorem quoted_escape (s : String) (rest : List Char) :
    quoted (escape s.toList ++ '"' :: rest) = ⟨.ok s, .ok rest⟩ := by
  have hl := length_le_escape s.toList
  unfold quoted
  rw [readQuoted_escape s.toList _ rest []
    (by simp only [List.length_append, List.length_cons]; omega)]
  simp only [List.reverse_nil, List.nil_append, String.ofList_toList]

/-- What follows a number does not go on with it. -/
def Breaks (rest : List Char) : Prop :=
  ∀ c tail, rest = c :: tail → c.isDigit = false ∧ c ≠ '.' ∧ c ≠ 'e' ∧ c ≠ 'E'

/-- The digits of a number are taken to their end. -/
theorem digits_append (ds rest : List Char) (hd : ∀ c ∈ ds, c.isDigit = true)
    (hr : Breaks rest) : digits (ds ++ rest) = (ds, rest) := by
  have hstop : rest.takeWhile Char.isDigit = [] ∧ rest.dropWhile Char.isDigit = rest := by
    cases rest with
    | nil => exact ⟨rfl, rfl⟩
    | cons c tail =>
      have hc := (hr c tail rfl).1
      exact ⟨by simp [hc], by simp [hc]⟩
  unfold digits
  rw [List.takeWhile_append_of_pos hd, List.dropWhile_append_of_pos hd, hstop.1, hstop.2,
    List.append_nil]

/-- The digits of a number write it. -/
theorem natOfDigits_toDigits (n : Nat) : natOfDigits (Nat.toDigits 10 n) = n := by
  have h := @Nat.ofDigitChars_ten_toDigits n
  unfold natOfDigits
  rw [Nat.ofDigitChars] at h
  simpa only [Nat.mul_comm] using h

/-- A number has a leading zero only if it is zero. -/
theorem toDigits_head (n : Nat) (tail : List Char) (h : Nat.toDigits 10 n = '0' :: tail) :
    tail = [] := by
  induction n using Nat.strongRecOn generalizing tail with
  | ind n ih =>
    by_cases hn : n < 10
    · rw [Nat.toDigits_of_lt_base hn] at h
      exact (List.cons.inj h).2.symm
    · rw [Nat.toDigits_of_base_le (by omega) (by omega)] at h
      cases hd : Nat.toDigits 10 (n / 10) with
      | nil => exact absurd hd Nat.toDigits_ne_nil
      | cons c more =>
        rw [hd, List.cons_append] at h
        obtain ⟨rfl, rfl⟩ := List.cons.inj h
        have hmore := ih (n / 10) (by omega) more hd
        subst hmore
        have hzero : n / 10 = 0 := by
          have hv := natOfDigits_toDigits (n / 10)
          rw [hd] at hv
          exact hv.symm
        omega

/-- The whole part of a number is read to its end. -/
theorem readWhole_toDigits (n : Nat) (rest : List Char) (hr : Breaks rest) :
    readWhole (Nat.toDigits 10 n ++ rest) = .ok (Nat.toDigits 10 n, rest) := by
  have hdigits : ∀ c ∈ Nat.toDigits 10 n, c.isDigit = true :=
    fun c hc => Nat.isDigit_of_mem_toDigits (by omega) (by omega) hc
  cases hd : Nat.toDigits 10 n with
  | nil => exact absurd hd Nat.toDigits_ne_nil
  | cons c tail =>
    have hc : c.isDigit = true := hdigits c (by rw [hd]; exact List.mem_cons_self)
    by_cases hz : c = '0'
    · subst hz
      have ht := toDigits_head n tail hd
      subst ht
      cases rest with
      | nil => rfl
      | cons d more =>
        have hb := (hr d more rfl).1
        simp [readWhole, hb]
    · have hall := digits_append (c :: tail) rest (by rw [← hd]; exact hdigits) hr
      rw [List.cons_append] at hall ⊢
      rw [readWhole]
      · rw [if_pos hc, hall]
      · exact fun h => hz h

/-- The spelling of a number has no sign. -/
theorem toDigits_unsigned (n : Nat) (rest tail : List Char) :
    Nat.toDigits 10 n ++ rest ≠ '-' :: tail := by
  intro h
  cases hd : Nat.toDigits 10 n with
  | nil => exact absurd hd Nat.toDigits_ne_nil
  | cons c more =>
    have hmem : c ∈ Nat.toDigits 10 n := by rw [hd]; exact List.mem_cons_self
    have hc : c.isDigit = true := Nat.isDigit_of_mem_toDigits (by decide) (by decide) hmem
    rw [hd, List.cons_append] at h
    rw [(List.cons.inj h).1] at hc
    exact absurd hc (by decide)

/-- An unsigned number of 64 bits reads back, up to what follows it. -/
theorem readNumber_toDigits (n : Nat) (hn : n ≤ maxWord) (rest : List Char) (hr : Breaks rest) :
    readNumber (Nat.toDigits 10 n ++ rest) = .ok (.ok (.unsigned n), rest) := by
  have hwhole := readWhole_toDigits n rest hr
  have hvalue := natOfDigits_toDigits n
  have hpoint : ∀ tail, rest ≠ '.' :: tail := fun tail h => (hr _ _ h).2.1 rfl
  have hlower : ∀ tail, rest ≠ 'e' :: tail := fun tail h => (hr _ _ h).2.2.1 rfl
  have hupper : ∀ tail, rest ≠ 'E' :: tail := fun tail h => (hr _ _ h).2.2.2 rfl
  unfold readNumber
  split
  next _ body hbody =>
    split at hbody
    · next tail h => exact absurd h (toDigits_unsigned n rest tail)
    · obtain ⟨rfl, rfl⟩ := Prod.mk.inj hbody
      simp only [hwhole, bind, Except.bind, pure, Except.pure, hvalue, hn, List.isEmpty_nil,
        Option.isNone_none, Bool.not_false, Bool.and_self, decide_true, if_true]

/-- Rounding to 53 bits at most doubles a number. -/
theorem roundedTo53Bits_le (n : Nat) : roundedTo53Bits n ≤ 2 * n := by
  unfold roundedTo53Bits
  split
  · omega
  · next h =>
    have hne : n ≠ 0 := by
      rintro rfl
      exact h (by decide)
    have hpow : 2 ^ (n.log2 - 52) ≤ n :=
      Nat.le_trans (Nat.pow_le_pow_right (by decide) (Nat.sub_le _ _)) (Nat.log2_self_le hne)
    have hdiv := Nat.div_mul_le_self n (2 ^ (n.log2 - 52))
    simp only [Nat.shiftLeft_eq, Nat.shiftRight_eq_div_pow, Nat.add_mul]
    split
    · omega
    · omega

/-- No number of 64 bits is beyond double precision. -/
theorem overflowsDouble_word {n : Nat} (hn : n ≤ maxWord) : overflowsDouble n 0 = false := by
  have hrounded := roundedTo53Bits_le n
  have hone : roundedTo53Bits (Nat.pow 10 (0 : Int).toNat) = 1 := by decide
  have hlimit : 2 * maxWord < 1 <<< 1024 - 1 <<< 970 := by decide
  unfold overflowsDouble
  rw [hone, Nat.mul_one, decide_eq_false (by omega : ¬1 <<< 1024 - 1 <<< 970 ≤ roundedTo53Bits n)]
  simp

/-- More digits do not make a number smaller. -/
theorem le_foldl_digits (ds : List Char) (n : Nat) :
    n ≤ ds.foldl (fun n c => n * 10 + (c.toNat - '0'.toNat)) n := by
  induction ds generalizing n with
  | nil => exact Nat.le_refl n
  | cons c ds ih =>
    have hrest := ih (n * 10 + (c.toNat - '0'.toNat))
    rw [List.foldl_cons]
    omega

/-- All digits of a number of 64 bits are significant. -/
theorem significant_toDigits {n : Nat} (hn : n ≤ maxWord) :
    significant (Nat.toDigits 10 n) [] = (n, 0) := by
  have hall : ∀ (ds : List Char) (m : Nat),
      ds.foldl (fun n c => n * 10 + (c.toNat - '0'.toNat)) m ≤ maxWord →
      ds.foldl (fun (st : Nat × Nat × Bool) c =>
        if st.2.2 || st.1 * 10 + (c.toNat - '0'.toNat) > maxWord then (st.1, st.2.1 + 1, true)
        else (st.1 * 10 + (c.toNat - '0'.toNat), st.2.1, false)) (m, 0, false) =
      (ds.foldl (fun n c => n * 10 + (c.toNat - '0'.toNat)) m, 0, false) := by
    intro ds
    induction ds with
    | nil => intro m _; rfl
    | cons c ds ih =>
      intro m hm
      rw [List.foldl_cons] at hm
      have hfits := Nat.le_trans (le_foldl_digits ds _) hm
      rw [List.foldl_cons, List.foldl_cons, if_neg (by simpa using hfits)]
      exact ih _ hm
  have hvalue := natOfDigits_toDigits n
  unfold natOfDigits at hvalue
  have hfold := hall (Nat.toDigits 10 n) 0 (by rw [hvalue]; exact hn)
  rw [hvalue] at hfold
  unfold significant
  simp only [List.foldl_nil]
  rw [hfold]
  rfl

/-- A negative number of 64 bits reads back as it is spelled, up to what follows it. -/
theorem readNumber_negative (n : Nat) (hn : n ≤ maxWord) (rest : List Char) (hr : Breaks rest) :
    readNumber ('-' :: (Nat.toDigits 10 n ++ rest)) =
      .ok (.ok (.spelled (String.ofList ('-' :: Nat.toDigits 10 n))), rest) := by
  have hwhole := readWhole_toDigits n rest hr
  have hpoint : ∀ tail, rest ≠ '.' :: tail := fun tail h => (hr _ _ h).2.1 rfl
  have hlower : ∀ tail, rest ≠ 'e' :: tail := fun tail h => (hr _ _ h).2.2.1 rfl
  have hupper : ∀ tail, rest ≠ 'E' :: tail := fun tail h => (hr _ _ h).2.2.2 rfl
  have hspelled : ('-' :: (Nat.toDigits 10 n ++ rest)).take
      (('-' :: (Nat.toDigits 10 n ++ rest)).length - rest.length) = '-' :: Nat.toDigits 10 n := by
    rw [← List.cons_append, List.length_append, Nat.add_sub_cancel, List.take_left]
  unfold readNumber
  simp only [hwhole, bind, Except.bind, pure, Except.pure, significant_toDigits hn,
    Option.getD_none, Int.add_zero, overflowsDouble_word hn, hspelled, Bool.not_true,
    Bool.false_and, Bool.false_eq_true, if_false]

end BuildTriage.Json
