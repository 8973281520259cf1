import BuildTriage.Proofs.Pattern.Reading.Basic

/-!
# Counts and the openings of groups, within a longer text

A count ends at a comma or a brace and a group opens with a name, with flags or with
neither. Each is read up to its own end, before anything that follows the pattern.
-/

namespace BuildTriage.Pattern

/-- The digits of a count are a run. -/
theorem readCountDigits_eq_readRun (verbose : Bool) (fuel : Nat) (done cs : List Char) :
    readCountDigits verbose fuel done cs = readRun Char.isDigit verbose fuel done cs := by
  induction fuel generalizing done cs with
  | zero => rfl
  | succ fuel ih => cases cs <;> simp only [readCountDigits, readRun, ih]

/-- The counts of a repetition as they are written: one number, one and a comma, or two. -/
inductive WritesCounts (verbose : Bool) (cs : List Char) : Nat × Option Nat × List Char → Prop where
  /-- Exactly so many times. -/
  | exactly {n : Nat} {rest : List Char} (hcs : skip verbose cs ≠ [])
      (hn : readCount verbose (skip verbose cs) = (.ok n, '}' :: rest)) :
      WritesCounts verbose cs (n, some n, rest)
  /-- So many times or more. -/
  | atLeast {n : Nat} {after rest : List Char} (hcs : skip verbose cs ≠ [])
      (hn : readCount verbose (skip verbose cs) = (.ok n, ',' :: after))
      (hclose : skip verbose after = '}' :: rest) : WritesCounts verbose cs (n, none, rest)
  /-- From so many times to so many. -/
  | between {m n : Nat} {after rest : List Char} (hcs : skip verbose cs ≠ [])
      (hm : readCount verbose (skip verbose cs) = (.ok m, ',' :: after))
      (hopen : ∀ more, skip verbose after ≠ '}' :: more)
      (hn : readCount verbose (skip verbose after) = (.ok n, '}' :: rest)) (hle : m ≤ n) :
      WritesCounts verbose cs (m, some n, rest)

/-- Counts are read as they are written. -/
theorem readCounts_of_writes {verbose : Bool} {cs : List Char} {x : Nat × Option Nat × List Char}
    (h : WritesCounts verbose cs x) : readCounts verbose cs = .ok x := by
  unfold readCounts
  cases h with
  | exactly hcs hn =>
    simp only [List.isEmpty_eq_false_iff.mpr hcs, Bool.false_eq_true, if_false, hn]
    rfl
  | atLeast hcs hn hclose =>
    simp only [List.isEmpty_eq_false_iff.mpr hcs, Bool.false_eq_true, if_false, hn]
    simp only [hclose]
    rfl
  | between hcs hm hopen hn hle =>
    simp only [List.isEmpty_eq_false_iff.mpr hcs, Bool.false_eq_true, if_false, hm]
    rw [hn]
    show (if _ then _ else _) = _
    rw [if_pos hle]
    rfl

/-- Counts that are read are written so. -/
theorem writes_of_readCounts {verbose : Bool} {cs : List Char} {x : Nat × Option Nat × List Char}
    (h : readCounts verbose cs = .ok x) : WritesCounts verbose cs x := by
  unfold readCounts at h
  have hcs : skip verbose cs ≠ [] := by
    intro hnil
    rw [hnil] at h
    exact absurd h (by simp [throw, throwThe, MonadExceptOf.throw, bind, Except.bind])
  simp only [List.isEmpty_eq_false_iff.mpr hcs, Bool.false_eq_true, if_false] at h
  cases hfirst : readCount verbose (skip verbose cs) with
  | mk least after =>
    rw [hfirst] at h
    cases least with
    | error e =>
      dsimp only [bind, Except.bind] at h
      repeat' split at h
      all_goals exact absurd h (by simp [throw, throwThe, MonadExceptOf.throw])
    | ok least =>
      dsimp only [bind, Except.bind] at h
      split at h
      · next after =>
        split at h
        · next hclose =>
          obtain rfl := Except.ok.inj h
          exact .atLeast hcs hfirst hclose
        · next hopen =>
          split at h
          · exact absurd h (by simp)
          · next most hmost =>
            split at h
            · next hrest =>
              split at h
              · next hle =>
                obtain rfl := Except.ok.inj h
                exact .between hcs hfirst hopen (Prod.ext hmost hrest) hle
              · exact absurd h (by simp [throw, throwThe, MonadExceptOf.throw])
            · exact absurd h (by simp [throw, throwThe, MonadExceptOf.throw])
      · obtain rfl := Except.ok.inj h
        exact .exactly hcs hfirst
      · exact absurd h (by simp [throw, throwThe, MonadExceptOf.throw])

section Openings

variable {verbose : Bool} {cs more : List Char}

/-- A bracket with no question mark after it opens a group that captures. -/
theorem readOpening_capture (h : ∀ r, skip verbose cs ≠ '?' :: r) :
    readOpening verbose cs = .ok (.capture none, skip verbose cs) := by
  unfold readOpening
  split
  all_goals first
    | rfl
    | next he => exact absurd he (h _)

/-- An angle bracket opens the name of a group. -/
theorem readOpening_named (h : skip verbose cs = '?' :: '<' :: more)
    (hahead : ∀ r, more ≠ '=' :: r) (hbehind : ∀ r, more ≠ '!' :: r) :
    readOpening verbose cs = do
      let (name, rest) ← readGroupName more
      return (.capture (some name), rest) := by
  unfold readOpening
  rw [h]
  split
  · next he => simp at he
  · next he => simp at he
  · next he => exact absurd (by simpa using he) (hahead _)
  · next he => exact absurd (by simpa using he) (hbehind _)
  · next he => simp at he
  · next he =>
    obtain rfl : more = _ := by simpa using he
    rfl
  · next hname he => exact (hname more (List.cons.inj he).2.symm).elim
  · next hplain => exact (hplain _ rfl).elim

/-- Anything else after the question mark is flags. -/
theorem readOpening_flags (h : skip verbose cs = '?' :: more) (hahead : ∀ r, more ≠ '=' :: r)
    (hnot : ∀ r, more ≠ '!' :: r) (hname : ∀ r, more ≠ '<' :: r)
    (hnamed : ∀ r, more ≠ 'P' :: '<' :: r) :
    readOpening verbose cs = do
      let (flags, last, rest) ← readFlags more [] false false []
      if last = ':' then return (.group flags, rest)
      else if flags.isEmpty then throw .repetitionMissing
      else return (.settings flags, rest) := by
  unfold readOpening
  rw [h]
  split
  · next he => exact absurd (by simpa using he) (hahead _)
  · next he => exact absurd (by simpa using he) (hnot _)
  · next he => exact absurd (by simpa using he) (hname _)
  · next he => exact absurd (by simpa using he) (hname _)
  · next he => exact absurd (by simpa using he) (hnamed _)
  · next he => exact absurd (by simpa using he) (hname _)
  · next he =>
    obtain rfl : more = _ := by simpa using he
    rfl
  · next hne => exact absurd rfl (hne more)

end Openings

section Readers

variable {tail rest longer : List Char} (q : Quiet tail) (verbose : Bool)
include q

/-- The blanks after a count are passed over alike where something stands after them. -/
theorem skipAfterCount_append {fuel more : Nat} {cs : List Char} {c : Char} {rest : List Char}
    (hf : cs.length < fuel) (hm : fuel ≤ more) (h : skipAfterCount verbose fuel cs = c :: rest) :
    skipAfterCount verbose more (cs ++ ')' :: tail) = c :: (rest ++ ')' :: tail) := by
  induction fuel generalizing more cs with
  | zero => exact absurd hf (Nat.not_lt_zero _)
  | succ fuel ih =>
    obtain ⟨more, rfl⟩ : ∃ m, more = m + 1 := ⟨more - 1, by omega⟩
    cases cs with
    | nil => simp [skipAfterCount] at h
    | cons d cs =>
      simp only [skipAfterCount, List.cons_append] at h ⊢
      split at h
      · next hd =>
        have hlength := length_skip_le verbose cs
        rw [List.length_cons] at hf
        rw [if_pos hd]
        rcases skip_append q verbose cs with hskip | ⟨hnil, hnil'⟩
        · rw [hskip]
          exact ih (by omega) (by omega) h
        · rw [hnil] at h
          cases fuel <;> simp [skipAfterCount] at h
      · next hd =>
        obtain ⟨rfl, rfl⟩ := List.cons.inj h
        rw [if_neg hd]

/-- A count is read alike where something stands after it. -/
theorem readCount_append {cs rest : List Char} {n : Except Refusal Nat} {c : Char}
    (h : readCount verbose cs = (n, c :: rest)) :
    readCount verbose (cs ++ ')' :: tail) = (n, c :: (rest ++ ')' :: tail)) := by
  unfold readCount at h ⊢
  simp only [dropWhile_isBlank_append] at h ⊢
  generalize cs.dropWhile Text.isBlank = start at h ⊢
  simp only [readCountDigits_eq_readRun] at h ⊢
  cases hrun : readRun Char.isDigit verbose (start.length + 1) [] start with
  | mk ds after =>
    rw [hrun] at h
    obtain ⟨rfl, hafter⟩ := Prod.mk.inj h
    cases after with
    | nil => simp [skipAfterCount] at hafter
    | cons d after =>
      have hlonger := readRun_append q verbose (Nat.lt_succ_self _)
        (by simp : start.length + 1 ≤ (start ++ ')' :: tail).length + 1) hrun
      have hskip := skipAfterCount_append q verbose (Nat.lt_succ_self _)
        (by simp : (d :: after).length + 1 ≤ (d :: after ++ ')' :: tail).length + 1) hafter
      rw [List.cons_append] at hskip
      rw [hlonger]
      simp only [hskip]

/-- What stands where a count is read is read alike within the longer text. -/
theorem readCount_skip {n : Except Refusal Nat} {c : Char} {after : List Char}
    (hskip : Continues tail rest longer) (h : readCount verbose rest = (n, c :: after)) :
    longer = rest ++ ')' :: tail ∧
      readCount verbose longer = (n, c :: (after ++ ')' :: tail)) := by
  rcases hskip with rfl | ⟨rfl, rfl⟩
  · exact ⟨rfl, readCount_append q verbose h⟩
  · simp [readCount, readCountDigits, skipAfterCount] at h

/-- The counts of a repetition are carried over. -/
theorem readCounts_carries (h : Continues tail rest longer) :
    Carries (SameTwo tail) (readCounts verbose rest) (readCounts verbose longer) := by
  intro x hx
  have hskip := h.skip q verbose
  cases writes_of_readCounts hx with
  | exactly hcs hn =>
    obtain ⟨hl, hlonger⟩ := readCount_skip q verbose hskip hn
    exact ⟨_, readCounts_of_writes (.exactly (by simp [hl]) hlonger), rfl, rfl, .inl rfl⟩
  | @atLeast n after final hcs hn hclose =>
    obtain ⟨hl, hlonger⟩ := readCount_skip q verbose hskip hn
    have hafter := skip_append q verbose after
    rw [hclose] at hafter
    exact ⟨_, readCounts_of_writes (.atLeast (by simp [hl]) hlonger hafter.cons), rfl, rfl,
      .inl rfl⟩
  | @between m n after final hcs hm hopen hn hle =>
    obtain ⟨hl, hlonger⟩ := readCount_skip q verbose hskip hm
    obtain ⟨hl', hlonger'⟩ := readCount_skip q verbose (skip_append q verbose after) hn
    refine ⟨_, readCounts_of_writes (.between (by simp [hl]) hlonger (fun more he => ?_) hlonger'
      hle), rfl, rfl, .inl rfl⟩
    rw [hl'] at he
    cases hr : skip verbose after with
    | nil => rw [hr] at he; simp at he
    | cons d more =>
      rw [hr, List.cons_append] at he
      exact hopen more (by rw [hr, (List.cons.inj he).1])

omit q in
/-- Flags are carried over. -/
theorem readFlags_carries (cs : List Char) (seen : List Flag) (negated dangling : Bool)
    (done : List Setting) :
    Carries (SameTwo tail) (readFlags cs seen negated dangling done)
      (readFlags (cs ++ ')' :: tail) seen negated dangling done) := by
  induction cs generalizing seen negated dangling done with
  | nil => exact carries_error _ _
  | cons c cs ih =>
    simp only [List.cons_append, readFlags]
    split
    all_goals first
      | exact carries_error _ _
      | split
        · exact carries_error _ _
        · first
          | exact carries_ok ⟨rfl, rfl, .inl rfl⟩
          | exact ih _ _ _ _

omit q in
/-- The name of a group is carried over. -/
theorem readGroupName_carries (cs : List Char) :
    Carries (Same tail) (readGroupName cs) (readGroupName (cs ++ ')' :: tail)) := by
  cases hdrop : cs.dropWhile (· ≠ '>') with
  | nil =>
    have hsplit := List.takeWhile_append_dropWhile (p := (· ≠ '>')) (l := cs)
    rw [hdrop, List.append_nil] at hsplit
    unfold readGroupName
    simp only [hsplit, List.drop_length]
    cases cs <;> exact carries_error _ _
  | cons d rest =>
    obtain ⟨hname, hafter, hafter'⟩ := takeWhile_append_of_stop hdrop (')' :: tail)
    unfold readGroupName
    simp only [hname, hafter, hafter']
    cases cs.takeWhile (· ≠ '>') with
    | nil => exact carries_error _ _
    | cons first others =>
      dsimp only
      split
      · exact carries_ok ⟨rfl, .inl rfl⟩
      · exact carries_error _ _

omit q in
/-- The name after an angle bracket is carried over. -/
theorem openName_carries (cs : List Char) : Carries (Same tail)
    (do
      let (name, rest) ← readGroupName cs
      return (Opening.capture (some name), rest))
    (do
      let (name, rest) ← readGroupName (cs ++ ')' :: tail)
      return (Opening.capture (some name), rest)) :=
  (readGroupName_carries cs).bind fun x y hxy => carries_ok ⟨by rw [hxy.1], hxy.2⟩

omit q in
/-- The flags after a question mark are carried over. -/
theorem openFlags_carries (cs : List Char) : Carries (Same tail)
    (do
      let (flags, last, rest) ← readFlags cs [] false false []
      if last = ':' then return (Opening.group flags, rest)
      else if flags.isEmpty then throw .repetitionMissing
      else return (.settings flags, rest))
    (do
      let (flags, last, rest) ← readFlags (cs ++ ')' :: tail) [] false false []
      if last = ':' then return (Opening.group flags, rest)
      else if flags.isEmpty then throw .repetitionMissing
      else return (.settings flags, rest)) :=
  (readFlags_carries cs [] false false []).bind fun x y hxy => by
    dsimp only
    rw [hxy.1, hxy.2.1]
    split
    · exact carries_ok ⟨rfl, hxy.2.2⟩
    · split
      · exact carries_error _ _
      · exact carries_ok ⟨rfl, hxy.2.2⟩

/-- The opening of a group is carried over. -/
theorem readOpening_carries (h : Continues tail rest longer) :
    Carries (Same tail) (readOpening verbose rest) (readOpening verbose longer) := by
  have hskip := h.skip q verbose
  cases hr : skip verbose rest with
  | nil =>
    rw [hr] at hskip
    have hlonger : ∀ r, skip verbose longer ≠ '?' :: r := by
      rcases hskip.nil with hl | hl <;> simp [hl]
    rw [readOpening_capture (by simp [hr]), readOpening_capture hlonger, hr]
    exact carries_ok ⟨rfl, hskip⟩
  | cons c r =>
    rw [hr] at hskip
    have hl := hskip.cons
    by_cases hc : c = '?'
    · subst hc
      cases r with
      | nil =>
        rw [readOpening_flags hr (by simp) (by simp) (by simp) (by simp)]
        exact carries_error _ _
      | cons d r =>
        by_cases hahead : d = '='
        · subst hahead
          unfold readOpening
          rw [hr]
          exact carries_error _ _
        by_cases hnot : d = '!'
        · subst hnot
          unfold readOpening
          rw [hr]
          exact carries_error _ _
        by_cases hname : d = '<'
        · subst hname
          cases r with
          | nil =>
            rw [readOpening_named hr (by simp) (by simp)]
            exact carries_error _ _
          | cons e r =>
            by_cases hahead' : e = '='
            · subst hahead'
              unfold readOpening
              rw [hr]
              exact carries_error _ _
            by_cases hnot' : e = '!'
            · subst hnot'
              unfold readOpening
              rw [hr]
              exact carries_error _ _
            rw [readOpening_named hr (by simpa) (by simpa),
              readOpening_named hl (by simpa) (by simpa)]
            exact openName_carries (e :: r)
        by_cases hnamed : d = 'P' ∧ ∃ more, r = '<' :: more
        · obtain ⟨rfl, more, rfl⟩ := hnamed
          unfold readOpening
          rw [hr, hl]
          exact openName_carries more
        · have hplain : ∀ more, d :: r ≠ 'P' :: '<' :: more := fun more he =>
            hnamed ⟨(List.cons.inj he).1, more, (List.cons.inj he).2⟩
          have hplain' : ∀ more, d :: r ++ ')' :: tail ≠ 'P' :: '<' :: more := by
            intro more he
            cases r with
            | nil => simp at he
            | cons e r =>
              simp at he
              exact hplain r (by simp [he])
          rw [readOpening_flags hr (by simpa) (by simpa) (by simpa) hplain,
            readOpening_flags hl (by simpa) (by simpa) (by simpa) hplain']
          exact openFlags_carries (d :: r)
    · rw [readOpening_capture (by simpa [hr] using hc),
        readOpening_capture (by simpa [hl] using hc), hr, hl]
      exact carries_ok ⟨rfl, continues_append tail (c :: r)⟩

end Readers

end BuildTriage.Pattern
