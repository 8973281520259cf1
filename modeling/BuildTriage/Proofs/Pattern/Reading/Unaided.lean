import BuildTriage.Proofs.Pattern.Reading.Remainder

/-!
# What a longer text adds

A text that is no pattern by itself does not become one where a closing bracket follows it, as
long as the bracket is left: what a reader gives for the longer text it gives for the text
alone, or it has taken the bracket, and then nothing is left but an end of what stands after
it. One reader is an exception. A word boundary before an open brace and blanks is read within
the longer text only; but nothing can be read of the brace there.
-/

namespace BuildTriage.Pattern

variable {α β : Type}

/-- What the longer reading gives, the reading alone gives too, up to a relation, unless it is
lost. -/
def Returns (r : α → α → Prop) (lost : α → Prop) (alone longer : Except Refusal α) : Prop :=
  ∀ y, longer = .ok y → lost y ∨ ∃ x, alone = .ok x ∧ r x y

/-- Nothing is left but an end of the tail: the bracket has been taken. -/
def Past (left : α → List Char) (tail : List Char) (y : α) : Prop := left y <:+ tail

section Returns

variable {r : α → α → Prop} {s : β → β → Prop} {lost : α → Prop} {lost' : β → Prop}
  {alone longer : Except Refusal α} {left : α → List Char} {tail cs : List Char}

theorem returns_ok {x y : α} (h : r x y) : Returns r lost (.ok x) (.ok y) := by
  rintro _ ⟨⟩
  exact .inr ⟨x, rfl, h⟩

/-- Where nothing is read of the longer text, nothing is to be shown. -/
theorem returns_error (e : Refusal) : Returns r lost alone (.error e) := by
  rintro _ ⟨⟩

/-- Readings are returned one after the other, if what is lost stays lost. -/
theorem Returns.bind {f g : α → Except Refusal β} (h : Returns r lost alone longer)
    (hlost : ∀ y, lost y → ∀ z, g y = .ok z → lost' z)
    (hfg : ∀ x y, alone = .ok x → r x y → Returns s lost' (f x) (g y)) :
    Returns s lost' (alone >>= f) (longer >>= g) := by
  cases longer with
  | error e => exact returns_error e
  | ok y =>
    intro z hz
    obtain hy | ⟨x, rfl, hxy⟩ := h y rfl
    · exact .inl (hlost y hy z hz)
    · exact hfg x y rfl hxy z hz

/-- More may count as lost. -/
theorem Returns.weaken {more : α → Prop} (h : Returns r lost alone longer)
    (hlost : ∀ y, lost y → more y) : Returns r more alone longer :=
  fun y hy => (h y hy).imp_left (hlost y)

/-- Once the bracket is taken, it stays so. -/
theorem Remains.past (h : Remains left cs longer) (hcs : cs <:+ tail) :
    Returns r (Past left tail) alone longer :=
  fun y hy => .inl ((h y hy).trans hcs)

end Returns

section Continues

variable {tail rest longer : List Char}

/-- Where nothing is left alone, what follows the next character is an end of the tail. -/
theorem Continues.tail_suffix (h : Continues tail [] longer) : longer.tail <:+ tail := by
  rcases h.nil with rfl | rfl
  · exact List.suffix_rfl
  · exact List.nil_suffix

end Continues

/-- A word boundary was read before a brace behind which nothing but blanks and comments stands
before the bracket. -/
def Dangling (verbose : Bool) (tail : List Char) (y : Tree × List Char) : Prop :=
  y.1 = .anchor .wordBoundary ∧ ∃ blank, y.2 = '{' :: blank ∧ skip verbose blank = ')' :: tail

section Readers

variable {tail rest longer : List Char} (q : Quiet tail) (verbose : Bool)
include q

/-- The bracket is no digit. -/
theorem readHexDigits_returns (k n : Nat) (h : Continues tail rest longer) :
    Returns (Same tail) (Past Prod.snd tail) (readHexDigits verbose k n rest)
      (readHexDigits verbose k n longer) := by
  induction k generalizing n rest longer with
  | zero =>
    simp only [readHexDigits]
    split
    · exact returns_ok ⟨rfl, h⟩
    · exact returns_error _
  | succ k ih =>
    cases rest with
    | nil => rcases h.nil with rfl | rfl <;> exact returns_error _
    | cons c rest =>
      obtain rfl := h.cons
      simp only [readHexDigits]
      split
      · exact ih _ (skip_append q verbose rest)
      · exact returns_error _

/-- The bracket is no brace either. -/
theorem readHexBrace_returns {fuel more : Nat} (hf : rest.length < fuel) (n : Option Nat)
    (h : Continues tail rest longer) :
    Returns (Same tail) (Past Prod.snd tail) (readHexBrace verbose fuel n rest)
      (readHexBrace verbose more n longer) := by
  induction more generalizing fuel n rest longer with
  | zero => exact returns_error _
  | succ more ih =>
    obtain ⟨fuel, rfl⟩ : ∃ f, fuel = f + 1 := ⟨fuel - 1, by omega⟩
    cases rest with
    | nil => rcases h.nil with rfl | rfl <;> exact returns_error _
    | cons c rest =>
      obtain rfl := h.cons
      have hlength := length_skip_le verbose rest
      rw [List.length_cons] at hf
      simp only [readHexBrace]
      split
      · split
        · exact returns_ok ⟨rfl, skip_append q verbose rest⟩
        · exact returns_error _
      · split
        · exact ih (by omega) _ (skip_append q verbose rest)
        · exact returns_error _

/-- A character by its number is returned. -/
theorem readHex_returns {digits : Nat} (hdigits : 0 < digits) (h : Continues tail rest longer) :
    Returns (SameTwo tail) (Past (·.2.2) tail) (readHex verbose digits rest)
      (readHex verbose digits longer) := by
  obtain ⟨digits, rfl⟩ : ∃ d, digits = d + 1 := ⟨digits - 1, by omega⟩
  have hskip := h.skip q verbose
  unfold readHex
  revert hskip
  generalize skip verbose rest = r
  generalize skip verbose longer = l
  intro hskip
  cases r with
  | nil => rcases hskip.nil with rfl | rfl <;> exact returns_error _
  | cons c r =>
    obtain rfl := hskip.cons
    by_cases hc : c = '{'
    · subst hc
      have hlength := length_skip_le verbose r
      exact (readHexBrace_returns q verbose (Nat.lt_succ_of_le hlength) none
        (skip_append q verbose r)).bind
          (fun y hy z hz => by cases hz; exact hy)
          fun x y _ hxy => returns_ok ⟨hxy.1, rfl, hxy.2⟩
    · have hread := readHexDigits_returns q verbose (digits + 1) 0 (continues_append tail (c :: r))
      simp only [List.cons_append] at hread
      split
      · next h => exact absurd h (by simp)
      · next h => exact absurd (List.cons.inj h).1 hc
      · split
        · next h => exact absurd h (by simp)
        · next h => exact absurd (List.cons.inj h).1 hc
        · exact hread.bind (fun y hy z hz => by cases hz; exact hy)
            fun x y _ hxy => returns_ok ⟨hxy.1, rfl, hxy.2⟩

/-- The name of a property is returned, unless the brace that closes it is in the tail. -/
theorem readPropertyName_returns {fuel more : Nat} (hf : rest.length < fuel) (done : List Char)
    (h : Continues tail rest longer) :
    Returns (Same tail) (Past Prod.snd tail) (readPropertyName verbose fuel done rest)
      (readPropertyName verbose more done longer) := by
  induction more generalizing fuel done rest longer with
  | zero => exact returns_error _
  | succ more ih =>
    obtain ⟨fuel, rfl⟩ : ∃ f, fuel = f + 1 := ⟨fuel - 1, by omega⟩
    cases rest with
    | nil =>
      rcases h.nil with rfl | rfl
      · exact (readPropertyName_remains verbose more _ _).past (skip_suffix verbose tail)
      · exact returns_error _
    | cons c rest =>
      obtain rfl := h.cons
      have hlength := length_skip_le verbose rest
      rw [List.length_cons] at hf
      simp only [readPropertyName]
      split
      · exact returns_ok ⟨rfl, continues_append tail rest⟩
      · exact ih (by omega) _ (skip_append q verbose rest)

/-- A class of the character database is returned. -/
theorem readProperty_returns (negated : Bool) (h : Continues tail rest longer) :
    Returns (Same tail) (Past Prod.snd tail) (readProperty verbose negated rest)
      (readProperty verbose negated longer) := by
  have hskip := h.skip q verbose
  unfold readProperty
  revert hskip
  generalize skip verbose rest = r
  generalize skip verbose longer = l
  intro hskip
  cases r with
  | nil =>
    rcases hskip.nil with rfl | rfl
    · exact fun y hy => .inl (by cases hy; exact skip_suffix verbose tail)
    · exact returns_error _
  | cons c r =>
    obtain rfl := hskip.cons
    by_cases hc : c = '{'
    · subst hc
      have hlength := length_skip_le verbose r
      exact (readPropertyName_returns q verbose (Nat.lt_succ_of_le hlength) []
        (skip_append q verbose r)).bind
          (fun y hy z hz => by cases hz; exact hy)
          fun x y _ hxy => returns_ok ⟨by rw [hxy.1], hxy.2⟩
    · by_cases hb : c = '\\'
      · subst hb
        exact returns_error _
      · split
        · next h => exact absurd h (by simp)
        · next h => exact absurd (List.cons.inj h).1 hc
        · next h =>
          obtain ⟨rfl, rfl⟩ := List.cons.inj h
          simp only [hb, if_false]
          exact returns_ok ⟨rfl, skip_append q verbose _⟩

/-- A run that ends before a character ends there alone, unless that is the bracket. -/
theorem readRun_returns {p : Char → Bool} (hp : p ')' = false) {fuel more : Nat}
    {done run after : List Char} {c : Char} (hf : rest.length < fuel) (hm : longer.length < more)
    (h : Continues tail rest longer) (hrun : readRun p verbose more done longer = (run, c :: after))
    (hc : c ≠ ')') :
    ∃ left, after = left ++ ')' :: tail ∧
      readRun p verbose fuel done rest = (run, c :: left) := by
  induction more generalizing fuel done rest longer with
  | zero => exact absurd hm (Nat.not_lt_zero _)
  | succ more ih =>
    obtain ⟨fuel, rfl⟩ : ∃ f, fuel = f + 1 := ⟨fuel - 1, by omega⟩
    cases rest with
    | nil =>
      rcases h.nil with rfl | rfl
      · rw [readRun, hp, if_neg (by decide)] at hrun
        exact absurd (List.cons.inj (Prod.mk.inj hrun).2).1.symm hc
      · simp [readRun] at hrun
    | cons d rest =>
      obtain rfl := h.cons
      have hlength := length_skip_le verbose rest
      have hlength' := length_skip_le verbose (rest ++ ')' :: tail)
      rw [List.length_cons] at hf hm
      simp only [readRun] at hrun ⊢
      split at hrun
      · next hd =>
        rw [if_pos hd]
        exact ih (by omega) (by omega) (skip_append q verbose rest) hrun
      · next hd =>
        obtain ⟨rfl, hafter⟩ := Prod.mk.inj hrun
        obtain ⟨rfl, rfl⟩ := List.cons.inj hafter
        exact ⟨rest, rfl, if_neg hd⟩

/-- A word boundary is returned, or it dangles before a brace. -/
theorem readBoundary_returns (h : Continues tail rest longer) :
    Returns (Same tail) (fun y => Past Prod.snd tail y ∨ Dangling verbose tail y)
      (readBoundary verbose rest) (readBoundary verbose longer) := by
  cases rest with
  | nil =>
    rcases h.nil with rfl | rfl
    · exact returns_ok ⟨rfl, .inl rfl⟩
    · exact returns_ok ⟨rfl, .inr ⟨rfl, rfl⟩⟩
  | cons c rest =>
    obtain rfl := h.cons
    by_cases hc : c = '{'
    · subst hc
      simp only [readBoundary]
      have hskip := skip_append q verbose rest
      cases hr : skip verbose rest with
      | nil =>
        rw [hr] at hskip
        rcases hskip.nil with hl | hl
        · rw [hl]
          exact fun y hy => .inl (.inr (by cases hy; exact ⟨rfl, _, rfl, hl⟩))
        · rw [hl]
          exact returns_error _
      | cons d more =>
        rw [hr] at hskip
        rw [hskip.cons]
        dsimp only
        split
        · exact returns_ok ⟨rfl, .inl rfl⟩
        · cases hname : readBoundaryName verbose ((more ++ ')' :: tail).length + 2) []
              (d :: (more ++ ')' :: tail)) with
          | mk name after =>
            by_cases hclose : ∃ final, after = '}' :: final
            · obtain ⟨final, rfl⟩ := hclose
              rw [readBoundaryName_eq_readRun] at hname
              obtain ⟨left, rfl, halone⟩ := readRun_returns q verbose (by decide)
                (by simp : (d :: more).length < more.length + 2) (by simp)
                (continues_append tail (d :: more)) hname (by decide)
              rw [← readBoundaryName_eq_readRun] at halone
              simp only [halone]
              split
              all_goals first
                | exact returns_ok ⟨rfl, .inl rfl⟩
                | exact returns_error _
            · intro y hy
              split at hy
              · next h => exact absurd ⟨_, (Prod.mk.inj h).2⟩ hclose
              · cases hy
    · have hnone : ∀ more,
          readBoundary verbose (c :: more) = .ok (.anchor .wordBoundary, c :: more) := by
        intro more
        unfold readBoundary
        split
        · next h => exact absurd (List.cons.inj h).1 hc
        · rfl
      rw [hnone, hnone]
      exact returns_ok ⟨rfl, .inl rfl⟩

/-- A character that is written in hexadecimal digits is returned. -/
theorem hexLiteral_returns {digits : Nat} (hdigits : 0 < digits)
    (h : Continues tail rest longer) :
    Returns (Same tail) (Past Prod.snd tail)
      (do
        let (c, byte, rest) ← readHex verbose digits rest
        Except.ok (Tree.literal ⟨c, byte⟩, rest))
      (do
        let (c, byte, rest) ← readHex verbose digits longer
        Except.ok (Tree.literal ⟨c, byte⟩, rest)) :=
  (readHex_returns q verbose hdigits h).bind (fun y hy z hz => by cases hz; exact hy)
    fun x y _ hxy => returns_ok ⟨by rw [hxy.1, hxy.2.1], hxy.2.2⟩

/-- What a backslash introduces is returned, but for a word boundary that dangles. -/
theorem readEscape_returns (h : Continues tail rest longer) :
    Returns (Same tail) (fun y => Past Prod.snd tail y ∨ Dangling verbose tail y)
      (readEscape verbose rest) (readEscape verbose longer) := by
  cases rest with
  | nil => exact ((readEscape_remains verbose longer).past h.tail_suffix).weaken fun _ => .inl
  | cons c rest =>
    obtain rfl := h.cons
    have hrest := continues_append tail rest
    have hproperty := fun negated => readProperty_returns q verbose negated hrest
    have hboundary := readBoundary_returns q verbose hrest
    unfold readEscape
    dsimp only
    split
    · exact returns_error _
    · split
      all_goals first
        | exact (hexLiteral_returns q verbose (by decide) hrest).weaken fun _ => .inl
        | exact (hproperty _).weaken fun _ => .inl
        | exact hboundary
        | exact returns_ok ⟨rfl, hrest⟩
        | skip
      split
      · exact returns_ok ⟨rfl, hrest⟩
      · exact returns_error _

/-- Blanks after a count that end before a character end there alone, unless that is the
bracket. -/
theorem skipAfterCount_returns {fuel more : Nat} {after : List Char} {c : Char}
    (hf : rest.length < fuel) (hm : longer.length < more) (h : Continues tail rest longer)
    (hskip : skipAfterCount verbose more longer = c :: after) (hc : c ≠ ')') :
    ∃ left, after = left ++ ')' :: tail ∧ skipAfterCount verbose fuel rest = c :: left := by
  induction more generalizing fuel rest longer with
  | zero => exact absurd hm (Nat.not_lt_zero _)
  | succ more ih =>
    obtain ⟨fuel, rfl⟩ : ∃ f, fuel = f + 1 := ⟨fuel - 1, by omega⟩
    cases rest with
    | nil =>
      rcases h.nil with rfl | rfl
      · exact absurd (List.cons.inj hskip).1.symm hc
      · exact absurd hskip nofun
    | cons d rest =>
      obtain rfl := h.cons
      have hlength := length_skip_le verbose rest
      have hlength' := length_skip_le verbose (rest ++ ')' :: tail)
      rw [List.length_cons] at hf hm
      simp only [skipAfterCount] at hskip ⊢
      split at hskip
      · next hd =>
        rw [if_pos hd]
        exact ih (by omega) (by omega) (skip_append q verbose rest) hskip
      · next hd =>
        obtain ⟨rfl, rfl⟩ := List.cons.inj hskip
        exact ⟨rest, rfl, if_neg hd⟩

/-- A count that ends before a character is read alone, unless that is the bracket. -/
theorem readCount_returns {n : Except Refusal Nat} {c : Char} {after : List Char}
    (h : Continues tail rest longer) (hn : readCount verbose longer = (n, c :: after))
    (hc : c ≠ ')') :
    ∃ left, after = left ++ ')' :: tail ∧ readCount verbose rest = (n, c :: left) := by
  rcases h with rfl | ⟨rfl, rfl⟩
  · unfold readCount at hn ⊢
    simp only [dropWhile_isBlank_append] at hn ⊢
    generalize rest.dropWhile Text.isBlank = start at hn ⊢
    simp only [readCountDigits_eq_readRun] at hn ⊢
    cases hrun : readRun Char.isDigit verbose ((start ++ ')' :: tail).length + 1) []
        (start ++ ')' :: tail) with
    | mk ds more =>
      rw [hrun] at hn
      obtain ⟨rfl, hmore⟩ := Prod.mk.inj hn
      cases more with
      | nil => simp [skipAfterCount] at hmore
      | cons d more =>
        by_cases hd : d = ')'
        · subst hd
          exact absurd (List.cons.inj hmore).1.symm hc
        · obtain ⟨left, rfl, halone⟩ := readRun_returns q verbose (by decide)
            (Nat.lt_succ_self _) (Nat.lt_succ_self _) (continues_append tail start) hrun hd
          obtain ⟨final, rfl, hfinal⟩ := skipAfterCount_returns q verbose
            (Nat.lt_succ_self _) (Nat.lt_succ_self _) (continues_append tail (d :: left)) hmore hc
          refine ⟨final, rfl, ?_⟩
          rw [halone]
          simp only [hfinal]
  · simp [readCount, readCountDigits, skipAfterCount] at hn

omit q in
/-- There is no count in nothing. -/
theorem ne_nil_of_readCount {cs after : List Char} {n : Nat}
    (h : readCount verbose cs = (.ok n, after)) : cs ≠ [] := by
  rintro rfl
  simp [readCount, readCountDigits] at h

/-- The counts of a repetition are returned. -/
theorem readCounts_returns (lost : Nat × Option Nat × List Char → Prop)
    (h : Continues tail rest longer) :
    Returns (SameTwo tail) lost (readCounts verbose rest) (readCounts verbose longer) := by
  intro y hy
  have hskip := h.skip q verbose
  refine .inr ?_
  cases writes_of_readCounts hy with
  | exactly hcs hn =>
    obtain ⟨left, rfl, halone⟩ := readCount_returns q verbose hskip hn (by decide)
    exact ⟨_, readCounts_of_writes (.exactly (ne_nil_of_readCount verbose halone) halone), rfl, rfl,
      .inl rfl⟩
  | @atLeast n after final hcs hn hclose =>
    obtain ⟨left, rfl, halone⟩ := readCount_returns q verbose hskip hn (by decide)
    have hafter := skip_append q verbose left
    rw [hclose] at hafter
    cases hleft : skip verbose left with
    | nil =>
      rw [hleft] at hafter
      rcases hafter.nil with he | he
      · exact absurd (List.cons.inj he).1 (by decide)
      · exact absurd he nofun
    | cons d more =>
      rw [hleft] at hafter
      obtain ⟨rfl, rfl⟩ := List.cons.inj hafter.cons
      exact ⟨_, readCounts_of_writes (.atLeast (ne_nil_of_readCount verbose halone) halone hleft),
        rfl, rfl, .inl rfl⟩
  | @between m n after final hcs hm hopen hn hle =>
    obtain ⟨left, rfl, hfirst⟩ := readCount_returns q verbose hskip hm (by decide)
    have hafter := skip_append q verbose left
    obtain ⟨left', rfl, hsecond⟩ := readCount_returns q verbose hafter hn (by decide)
    refine ⟨_, readCounts_of_writes (.between (ne_nil_of_readCount verbose hfirst) hfirst
      (fun more he => ?_) hsecond hle), rfl, rfl, .inl rfl⟩
    rw [he] at hafter
    exact hopen _ hafter.cons

omit q in
/-- Flags are returned, unless the bracket ends them. -/
theorem readFlags_returns (cs : List Char) (seen : List Flag) (negated dangling : Bool)
    (done : List Setting) :
    Returns (SameTwo tail) (Past (·.2.2) tail) (readFlags cs seen negated dangling done)
      (readFlags (cs ++ ')' :: tail) seen negated dangling done) := by
  induction cs generalizing seen negated dangling done with
  | nil => exact (readFlags_remains (')' :: tail) _ _ _ _).past List.suffix_rfl
  | cons c cs ih =>
    simp only [List.cons_append, readFlags]
    split
    all_goals first
      | exact returns_error _
      | split
        · exact returns_error _
        · first
          | exact returns_ok ⟨rfl, rfl, .inl rfl⟩
          | exact ih _ _ _ _

omit q in
/-- What stands behind a run is what is left when it is dropped. -/
theorem drop_takeWhile_length (p : Char → Bool) (cs : List Char) :
    cs.drop (cs.takeWhile p).length = cs.dropWhile p := by
  have hsplit := congrArg (List.drop (cs.takeWhile p).length)
    (List.takeWhile_append_dropWhile (p := p) (l := cs))
  rw [List.drop_left] at hsplit
  exact hsplit.symm

omit q in
/-- The name of a group is returned, unless the tail closes it. -/
theorem readGroupName_returns (cs : List Char) :
    Returns (Same tail) (Past Prod.snd tail) (readGroupName cs)
      (readGroupName (cs ++ ')' :: tail)) := by
  cases hdrop : cs.dropWhile (· ≠ '>') with
  | nil =>
    -- The whole text belongs to the name, so that the bracket does too.
    have hlonger : (cs ++ ')' :: tail).dropWhile (· ≠ '>') <:+ tail := by
      rw [List.dropWhile_append, hdrop, List.isEmpty_nil, if_pos rfl,
        List.dropWhile_cons_of_pos (by decide)]
      exact List.dropWhile_suffix _
    intro y hy
    unfold readGroupName at hy
    simp only [drop_takeWhile_length] at hy
    split at hy
    · cases hy
    · next d rest _ hrest =>
      rw [hrest] at hlonger
      split at hy
      · cases hy
        exact .inl ((List.suffix_cons d rest).trans hlonger)
      · cases hy
    · cases hy
  | cons d rest =>
    obtain ⟨hname, hafter, hafter'⟩ := takeWhile_append_of_stop hdrop (')' :: tail)
    unfold readGroupName
    simp only [hname, hafter, hafter']
    cases cs.takeWhile (· ≠ '>') with
    | nil => exact returns_error _
    | cons first others =>
      dsimp only
      split
      · exact returns_ok ⟨rfl, .inl rfl⟩
      · exact returns_error _

omit q in
/-- The name after an angle bracket is returned. -/
theorem openName_returns (cs : List Char) : Returns (Same tail) (Past Prod.snd tail)
    (do
      let (name, rest) ← readGroupName cs
      return (Opening.capture (some name), rest))
    (do
      let (name, rest) ← readGroupName (cs ++ ')' :: tail)
      return (Opening.capture (some name), rest)) :=
  (readGroupName_returns cs).bind (fun y hy z hz => by cases hz; exact hy)
    fun x y _ hxy => returns_ok ⟨by rw [hxy.1], hxy.2⟩

omit q in
/-- The flags after a question mark are returned. -/
theorem openFlags_returns (cs : List Char) : Returns (Same tail) (Past Prod.snd tail)
    (do
      let (flags, last, rest) ← readFlags cs [] false false []
      if last = ':' then return (Opening.group flags, rest)
      else if flags.isEmpty then throw .repetitionMissing
      else return (.settings flags, rest))
    (do
      let (flags, last, rest) ← readFlags (cs ++ ')' :: tail) [] false false []
      if last = ':' then return (Opening.group flags, rest)
      else if flags.isEmpty then throw .repetitionMissing
      else return (.settings flags, rest)) := by
  refine (readFlags_returns cs [] false false []).bind (fun y hy z hz => ?_) fun x y _ hxy => ?_
  · dsimp only at hz
    split at hz
    · cases hz; exact hy
    · split at hz
      · cases hz
      · cases hz; exact hy
  · dsimp only
    rw [hxy.1, hxy.2.1]
    split
    · exact returns_ok ⟨rfl, hxy.2.2⟩
    · split
      · exact returns_error _
      · exact returns_ok ⟨rfl, hxy.2.2⟩

/-- The opening of a group is returned. -/
theorem readOpening_returns (h : Continues tail rest longer) :
    Returns (Same tail) (Past Prod.snd tail) (readOpening verbose rest)
      (readOpening verbose longer) := by
  have hskip := h.skip q verbose
  cases hr : skip verbose rest with
  | nil =>
    rw [hr] at hskip
    have hlonger : ∀ r, skip verbose longer ≠ '?' :: r := by
      rcases hskip.nil with hl | hl <;> simp [hl]
    rw [readOpening_capture (by simp [hr]), readOpening_capture hlonger, hr]
    exact returns_ok ⟨rfl, hskip⟩
  | cons c r =>
    rw [hr] at hskip
    have hl := hskip.cons
    by_cases hc : c = '?'
    · subst hc
      cases r with
      | nil =>
        rw [readOpening_flags hl (by simp) (by simp) (by simp) (by simp),
          readOpening_flags hr (by simp) (by simp) (by simp) (by simp)]
        exact openFlags_returns []
      | cons d r =>
        by_cases hahead : d = '='
        · subst hahead
          unfold readOpening
          rw [hl]
          exact returns_error _
        by_cases hnot : d = '!'
        · subst hnot
          unfold readOpening
          rw [hl]
          exact returns_error _
        by_cases hname : d = '<'
        · subst hname
          cases r with
          | nil =>
            rw [readOpening_named hr (by simp) (by simp),
              readOpening_named hl (by simp) (by simp)]
            exact openName_returns []
          | cons e r =>
            by_cases hahead' : e = '='
            · subst hahead'
              unfold readOpening
              rw [hl]
              exact returns_error _
            by_cases hnot' : e = '!'
            · subst hnot'
              unfold readOpening
              rw [hl]
              exact returns_error _
            rw [readOpening_named hr (by simpa) (by simpa),
              readOpening_named hl (by simpa) (by simpa)]
            exact openName_returns (e :: r)
        by_cases hnamed : d = 'P' ∧ ∃ more, r = '<' :: more
        · obtain ⟨rfl, more, rfl⟩ := hnamed
          unfold readOpening
          rw [hr, hl]
          exact openName_returns more
        · have hplain : ∀ more, d :: r ≠ 'P' :: '<' :: more := fun more he =>
            hnamed ⟨(List.cons.inj he).1, more, (List.cons.inj he).2⟩
          have hplain' : ∀ more, d :: r ++ ')' :: tail ≠ 'P' :: '<' :: more := by
            intro more he
            cases r with
            | nil => simp at he
            | cons e r =>
              simp at he
              exact hplain r (by simp [he])
          rw [readOpening_flags hr (by simpa) (by simpa) (by simpa) hplain,
            readOpening_flags hl (by simpa) (by simpa) (by simpa) hplain']
          exact openFlags_returns (d :: r)
    · rw [readOpening_capture (by simpa [hr] using hc),
        readOpening_capture (by simpa [hl] using hc), hr, hl]
      exact returns_ok ⟨rfl, continues_append tail (c :: r)⟩

end Readers

end BuildTriage.Pattern
