import BuildTriage.Pattern.Reader

/-!
# A pattern that is read within a longer text

A text that is a pattern by itself is read in the same way where a closing bracket follows
it, as in a group: each reader that gives something for the text alone gives the same with
the bracket and what stands after it still to come. The one exception is a comment of
verbose text, which takes in all that follows on its line. What follows is meant to have no
line feed, which would end a comment, and no colon, which would end the name of a class.
-/

namespace BuildTriage.Pattern

/-- What is read in two steps is read by the first and then by the second. -/
theorem exists_of_bind_ok {α β : Type} {x : Except Refusal α} {f : α → Except Refusal β} {b : β}
    (h : x >>= f = .ok b) : ∃ a, x = .ok a ∧ f a = .ok b := by
  cases x with
  | error e => exact absurd h nofun
  | ok a => exact ⟨a, rfl, h⟩

/-- What may follow the closing bracket. -/
structure Quiet (tail : List Char) : Prop where
  /-- It does not end a comment. -/
  noLineFeed : '\n' ∉ tail
  /-- It does not end the name of a class. -/
  noColon : ':' ∉ tail

/-- What is left of the longer text where `rest` is left of a text alone: a bracket and the
tail follow it, unless a comment has taken them in. -/
def Continues (tail rest longer : List Char) : Prop :=
  longer = rest ++ ')' :: tail ∨ (rest = [] ∧ longer = [])

/-- What the first reading gives, the second gives too, up to a relation. -/
def Carries {α : Type} (r : α → α → Prop) (alone longer : Except Refusal α) : Prop :=
  ∀ x, alone = .ok x → ∃ y, longer = .ok y ∧ r x y

/-- The same part was read, and the rest goes on. -/
def Same {α : Type} (tail : List Char) (x y : α × List Char) : Prop :=
  x.1 = y.1 ∧ Continues tail x.2 y.2

/-- The same two parts were read, and the rest goes on. -/
def SameTwo {α β : Type} (tail : List Char) (x y : α × β × List Char) : Prop :=
  x.1 = y.1 ∧ Same tail x.2 y.2

section Carries

variable {α β : Type} {r : α → α → Prop} {s : β → β → Prop}

theorem carries_ok {x y : α} (h : r x y) : Carries r (.ok x) (.ok y) := by
  rintro _ ⟨⟩
  exact ⟨y, rfl, h⟩

/-- Nothing is asked for where nothing is read. -/
theorem carries_error (e : Refusal) (longer : Except Refusal α) : Carries r (.error e) longer := by
  rintro _ ⟨⟩

/-- Readings are carried over one after the other. -/
theorem Carries.bind {alone longer : Except Refusal α} {f g : α → Except Refusal β}
    (h : Carries r alone longer) (hfg : ∀ x y, r x y → Carries s (f x) (g y)) :
    Carries s (alone >>= f) (longer >>= g) := by
  cases alone with
  | error e => exact carries_error e _
  | ok x =>
    obtain ⟨y, rfl, hxy⟩ := h x rfl
    exact hfg x y hxy

end Carries

section Continues

variable {tail rest longer : List Char} {c : Char}

/-- The bracket and the tail follow. -/
theorem continues_append (tail rest : List Char) : Continues tail rest (rest ++ ')' :: tail) :=
  .inl rfl

theorem Continues.length_le (h : Continues tail rest longer) : rest.length ≤ longer.length := by
  rcases h with rfl | ⟨rfl, rfl⟩
  · rw [List.length_append]; omega
  · exact Nat.le_refl _

/-- Where a character is left, it is the next one of the longer text too. -/
theorem Continues.cons (h : Continues tail (c :: rest) longer) :
    longer = c :: (rest ++ ')' :: tail) := by
  rcases h with rfl | ⟨hn, -⟩
  · rfl
  · exact absurd hn (by simp)

/-- Where nothing is left, the bracket and the tail may be. -/
theorem Continues.nil (h : Continues tail [] longer) : longer = ')' :: tail ∨ longer = [] := by
  rcases h with rfl | ⟨-, rfl⟩
  · exact .inl rfl
  · exact .inr rfl

end Continues

/-- Skipping makes a text no longer. -/
theorem length_skip_le (verbose : Bool) (cs : List Char) :
    (skip verbose cs).length ≤ cs.length := by
  have hcomments : ∀ (cs : List Char) (inComment : Bool),
      (skipComments cs inComment).length ≤ cs.length := by
    intro cs
    induction cs with
    | nil => intro; exact Nat.le_refl _
    | cons c cs ih =>
      intro inComment
      have hfalse := ih false
      have htrue := ih true
      have hdecide := ih (c ≠ '\n')
      cases inComment <;> simp only [skipComments, List.length_cons]
      · split
        · omega
        · split
          · omega
          · exact Nat.le_refl _
      · omega
  cases verbose with
  | false => exact Nat.le_refl _
  | true => exact hcomments cs false

/-- A run up to a character that stops it is the same within a longer text, and so is what
is left after it. -/
theorem takeWhile_append_of_stop {p : Char → Bool} {cs rest : List Char} {d : Char}
    (h : cs.dropWhile p = d :: rest) (more : List Char) :
    (cs ++ more).takeWhile p = cs.takeWhile p ∧
      cs.drop (cs.takeWhile p).length = d :: rest ∧
      (cs ++ more).drop (cs.takeWhile p).length = d :: (rest ++ more) := by
  have hsplit := List.takeWhile_append_dropWhile (p := p) (l := cs)
  rw [h] at hsplit
  have hafter : cs.drop (cs.takeWhile p).length = d :: rest := by
    have hdropped := congrArg (List.drop (cs.takeWhile p).length) hsplit
    rw [List.drop_left] at hdropped
    exact hdropped.symm
  have hlength : (cs.takeWhile p).length ≤ cs.length := (List.takeWhile_prefix _).length_le
  refine ⟨?_, hafter, ?_⟩
  · rw [List.takeWhile_append, if_neg]
    intro hl
    have hl' := congrArg List.length hsplit
    rw [List.length_append, List.length_cons] at hl'
    omega
  · rw [List.drop_append_of_le_length hlength, hafter, List.cons_append]

/-- The characters up to one of another kind, last character first, and the text from there;
in verbose text blanks and comments between them are passed over. -/
def readRun (p : Char → Bool) (verbose : Bool) :
    Nat → List Char → List Char → List Char × List Char
  | fuel + 1, done, c :: rest =>
    if p c then readRun p verbose fuel (c :: done) (skip verbose rest)
    else (done.reverse, c :: rest)
  | _, done, cs => (done.reverse, cs)

section Readers

variable {tail rest longer : List Char} (q : Quiet tail) (verbose : Bool)
include q

/-- Comments and blanks are skipped alike; a comment at the end takes the bracket in. -/
theorem skipComments_continues (cs : List Char) (inComment : Bool) :
    Continues tail (skipComments cs inComment) (skipComments (cs ++ ')' :: tail) inComment) := by
  induction cs generalizing inComment with
  | nil =>
    have hall : ∀ more : List Char, '\n' ∉ more → skipComments more true = [] := by
      intro more
      induction more with
      | nil => intro; rfl
      | cons c more ih =>
        intro hn
        have hc : c ≠ '\n' := fun h => hn (h ▸ List.mem_cons_self)
        have hmore := ih fun h => hn (List.mem_cons_of_mem _ h)
        simpa only [skipComments, ne_eq, hc, not_false_eq_true, decide_true] using hmore
    cases inComment with
    | true => exact .inr ⟨rfl, hall (')' :: tail) (by simpa using q.noLineFeed)⟩
    | false => exact .inl rfl
  | cons c cs ih =>
    cases inComment with
    | true => exact ih _
    | false =>
      simp only [List.cons_append, skipComments]
      split
      · exact ih false
      · split
        · exact ih true
        · exact .inl rfl

theorem skip_append (cs : List Char) :
    Continues tail (skip verbose cs) (skip verbose (cs ++ ')' :: tail)) := by
  cases verbose with
  | false => exact .inl rfl
  | true => exact skipComments_continues q cs false

/-- What is left goes on after skipping. -/
theorem Continues.skip (h : Continues tail rest longer) :
    Continues tail (Pattern.skip verbose rest) (Pattern.skip verbose longer) := by
  rcases h with rfl | ⟨rfl, rfl⟩
  · exact skip_append q verbose rest
  · exact .inr (by cases verbose <;> simp [Pattern.skip, skipComments])

omit q in
/-- The blanks at the start of a text are dropped alike. -/
theorem dropWhile_isBlank_append (cs : List Char) :
    (cs ++ ')' :: tail).dropWhile Text.isBlank = cs.dropWhile Text.isBlank ++ ')' :: tail := by
  rw [List.dropWhile_append]
  split
  · next h =>
    rw [List.isEmpty_iff.mp h]
    rfl
  · rfl

/-- A run of characters is read alike where something stands after it. -/
theorem readRun_append {p : Char → Bool} {fuel more : Nat} {cs done run : List Char} {c : Char}
    {rest : List Char} (hf : cs.length < fuel) (hm : fuel ≤ more)
    (h : readRun p verbose fuel done cs = (run, c :: rest)) :
    readRun p verbose more done (cs ++ ')' :: tail) = (run, c :: (rest ++ ')' :: tail)) := by
  induction fuel generalizing more cs done with
  | zero => exact absurd hf (Nat.not_lt_zero _)
  | succ fuel ih =>
    obtain ⟨more, rfl⟩ : ∃ m, more = m + 1 := ⟨more - 1, by omega⟩
    cases cs with
    | nil => simp [readRun] at h
    | cons d cs =>
      simp only [readRun, List.cons_append] at h ⊢
      split at h
      · next hd =>
        have hlength := length_skip_le verbose cs
        rw [List.length_cons] at hf
        rw [if_pos hd]
        rcases skip_append q verbose cs with hskip | ⟨hnil, hnil'⟩
        · rw [hskip]
          exact ih (by omega) (by omega) h
        · rw [hnil] at h
          cases fuel <;> simp [readRun] at h
      · next hd =>
        obtain ⟨rfl, hrest⟩ := Prod.mk.inj h
        obtain ⟨rfl, rfl⟩ := List.cons.inj hrest
        rw [if_neg hd]

end Readers

end BuildTriage.Pattern
