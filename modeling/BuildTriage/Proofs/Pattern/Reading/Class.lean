import BuildTriage.Proofs.Pattern.Reading.Escape

/-!
# Bracketed classes, within a longer text

A class is read up to its closing bracket, with the classes nested in it. Two readers look
further than what they take: the name of a set looks for the colon that closes it, and a
range looks past blanks for what ends it. Neither sees anything that it takes for its own.
-/

namespace BuildTriage.Pattern

/-- The set of a name that is closed by a colon and a bracket. -/
def closedSet? (negated : Bool) (cs : List Char) : Option (Charset × Bool × List Char) :=
  match cs.drop (cs.takeWhile (· ≠ ':')).length with
  | ':' :: ']' :: rest =>
    (asciiClasses.lookup (String.ofList (cs.takeWhile (· ≠ ':')))).map fun set =>
      (set, negated, rest)
  | _ => none

/-- A name that is not negated follows the colon. -/
theorem readAsciiClass_plain {c : Char} (hc : c ≠ '^') (cs : List Char) :
    readAsciiClass? (':' :: c :: cs) = closedSet? false (c :: cs) := by
  unfold readAsciiClass? closedSet?
  split
  · next h =>
    obtain rfl := (List.cons.inj h).2
    split
    next hsign =>
      split at hsign
      · next h => exact absurd (List.cons.inj h).1 hc
      · obtain ⟨rfl, rfl⟩ := Prod.mk.inj hsign
        rfl
  · next h => exact absurd rfl (h _)

/-- Without a colon there is no name. -/
theorem readAsciiClass_none {c : Char} (hc : c ≠ ':') (cs : List Char) :
    readAsciiClass? (c :: cs) = none := by
  unfold readAsciiClass?
  split
  · next h => exact absurd (List.cons.inj h).1 hc
  · rfl

/-- Without a backslash a part of a class is a character. -/
theorem readClassPart_plain {verbose : Bool} {c : Char} (hc : c ≠ '\\') (cs : List Char) :
    readClassPart verbose (c :: cs) = .ok (.literal ⟨c, false⟩, cs) := by
  unfold readClassPart
  split
  · next h => exact absurd h (by simp)
  · next h => exact absurd (List.cons.inj h).1 hc
  · next h =>
    obtain ⟨rfl, rfl⟩ := List.cons.inj h
    rfl

/-- Blanks at the start of a text are skipped. -/
theorem skipComments_dropWhile (cs : List Char) :
    skipComments cs false = skipComments (cs.dropWhile Text.isBlank) false := by
  induction cs with
  | nil => rfl
  | cons c cs ih =>
    by_cases hc : Text.isBlank c = true
    · rw [List.dropWhile_cons_of_pos hc, ← ih]
      simp only [skipComments, hc, if_true]
    · rw [List.dropWhile_cons_of_neg hc]

/-- Nothing is left of blanks, in a comment or not. -/
theorem skipComments_blank {cs : List Char} (h : cs.dropWhile Text.isBlank = [])
    (inComment : Bool) : skipComments cs inComment = [] := by
  induction cs generalizing inComment with
  | nil => cases inComment <;> rfl
  | cons c cs ih =>
    by_cases hc : Text.isBlank c = true
    · rw [List.dropWhile_cons_of_pos hc] at h
      cases inComment with
      | true => exact ih h _
      | false =>
        simp only [skipComments, hc, if_true]
        exact ih h false
    · rw [List.dropWhile_cons_of_neg hc] at h
      exact absurd h (by simp)

/-- The sign of negation of a class, and the text after it. -/
def readSign (verbose : Bool) (cs : List Char) : Bool × List Char :=
  match skip verbose cs with
  | '^' :: rest => (true, skip verbose rest)
  | cs => (false, cs)

/-- A closing bracket before any item of a class stands for itself. -/
def readFirstClose (verbose : Bool) (items : List ClassTree) (cs : List Char) :
    List ClassTree × List Char :=
  match items, cs with
  | [], ']' :: rest => ([.literal ⟨']', false⟩], skip verbose rest)
  | _, _ => (items, cs)

/-- The start of a class: its sign, and the items before the first one that is read. -/
def readClassStart (verbose : Bool) (cs : List Char) : Bool × List ClassTree × List Char :=
  let (negated, cs) := readSign verbose cs
  let (items, cs) := readHyphens verbose (cs.length + 1) [] cs
  (negated, readFirstClose verbose items cs)

/-- A class is read after its start. -/
theorem readBracket_eq (verbose : Bool) (fuel : Nat) (cs : List Char) :
    readBracket verbose (fuel + 1) cs =
      if (readClassStart verbose cs).2.2.isEmpty then .error .classUnclosed
      else do
        let (inner, rest) ← readClassItems verbose fuel (readClassStart verbose cs).2.1 none
          (readClassStart verbose cs).2.2
        return ((readClassStart verbose cs).1, inner, rest) := by
  rw [readBracket]
  rfl

/-- Whether a class operator starts a text. -/
def StartsOperator (c : Char) (rest : List Char) : Prop :=
  c ∈ ['&', '-', '~'] ∧ ∃ more, rest = c :: more

/-- A bracket opens a named set or a class within the class. -/
theorem readClassItems_open {verbose : Bool} {fuel : Nat} {items : List ClassTree}
    {pending : Option (ClassOp × ClassTree)} {cs rest : List Char}
    (h : skip verbose cs = '[' :: rest) :
    readClassItems verbose (fuel + 1) items pending cs =
      (match readAsciiClass? rest with
      | some (set, negated, rest) =>
        readClassItems verbose fuel (.ascii set negated :: items) pending rest
      | none => do
        let (negated, inner, rest) ← readBracket verbose fuel rest
        readClassItems verbose fuel (.bracket negated inner :: items) pending rest) := by
  rw [readClassItems, h]
  rfl

/-- What is no bracket and no operator is an item. -/
theorem readClassItems_item {verbose : Bool} {fuel : Nat} {items : List ClassTree}
    {pending : Option (ClassOp × ClassTree)} {cs rest : List Char} {c : Char}
    (h : skip verbose cs = c :: rest) (hclose : c ≠ ']') (hopen : c ≠ '[')
    (hop : ¬StartsOperator c rest) :
    readClassItems verbose (fuel + 1) items pending cs = (do
      let (item, rest) ← readClassRange verbose (c :: rest)
      readClassItems verbose fuel (item :: items) pending rest) := by
  rw [readClassItems, h]
  dsimp only
  split
  · next he => exact absurd he (by simp)
  · next he => exact absurd (List.cons.inj he).1 hclose
  · next he => exact absurd (List.cons.inj he).1 hopen
  · next he => exact absurd (by simp [StartsOperator, List.cons.inj he]) hop
  · next he => exact absurd (by simp [StartsOperator, List.cons.inj he]) hop
  · next he => exact absurd (by simp [StartsOperator, List.cons.inj he]) hop
  · rfl

/-- Past blanks up to the end, the next character is the one before them. -/
theorem peek_blank {c : Char} {cs : List Char} (h : cs.dropWhile Text.isBlank = []) :
    peek true (c :: cs) = (c :: cs)[1]? := by
  unfold peek
  simp only [Bool.not_true, Bool.false_eq_true, if_false, List.drop_succ_cons, List.drop_zero, h]

/-- The sign of a comment is looked past, with the blanks behind it. -/
theorem peek_comment {c : Char} {cs more : List Char}
    (h : cs.dropWhile Text.isBlank = '#' :: more) :
    peek true (c :: cs) = ((more.dropWhile Text.isBlank).head?).or (c :: cs)[1]? := by
  unfold peek
  simp only [Bool.not_true, Bool.false_eq_true, if_false, List.drop_succ_cons, List.drop_zero, h]
  cases more.dropWhile Text.isBlank with
  | nil => rfl
  | cons d rest => rfl

/-- Past blanks the next character is seen. -/
theorem peek_plain {c d : Char} {cs more : List Char}
    (h : cs.dropWhile Text.isBlank = d :: more) (hd : d ≠ '#') :
    peek true (c :: cs) = some d := by
  unfold peek
  simp only [Bool.not_true, Bool.false_eq_true, if_false, List.drop_succ_cons, List.drop_zero, h]

/-- The end of a range, behind its hyphen. -/
def rangeEnd (verbose : Bool) (first : Tree) (rest : List Char) :
    Except Refusal (ClassTree × List Char) :=
  match skip verbose rest with
  | [] => throw .classUnclosed
  | cs => do
    let (last, rest) ← readClassPart verbose cs
    match first, last with
    | .literal a, .literal b =>
      if a.char ≤ b.char then return (.range a b, rest) else throw .classRange
    | _, _ => throw .classRange

/-- An item of a class is one part, or the first of a range. -/
theorem readClassRange_eq (verbose : Bool) (cs : List Char) : readClassRange verbose cs = (do
    let (first, rest) ← readClassPart verbose cs
    match skip verbose rest with
    | [] => throw .classUnclosed
    | c :: rest =>
      if c ≠ '-' || peek verbose (c :: rest) == some ']' ||
          peek verbose (c :: rest) == some '-' then
        return (← classItem first, c :: rest)
      else rangeEnd verbose first rest) := rfl

section Readers

variable {tail rest longer : List Char} (q : Quiet tail) (verbose : Bool)
include q

/-- The name of a set is closed alike: the tail has no colon. -/
theorem closedSet_append (negated : Bool) (cs : List Char) :
    closedSet? negated (cs ++ ')' :: tail) =
      (closedSet? negated cs).map fun x => (x.1, x.2.1, x.2.2 ++ ')' :: tail) := by
  cases hd : cs.dropWhile (· ≠ ':') with
  | nil =>
    have hsplit := List.takeWhile_append_dropWhile (p := (· ≠ ':')) (l := cs)
    rw [hd, List.append_nil] at hsplit
    have hplain : ∀ d ∈ ')' :: tail, decide (d ≠ ':') = true := by
      intro d hd
      rw [decide_eq_true_eq]
      rintro rfl
      rcases List.mem_cons.mp hd with hd | hd
      · exact absurd hd (by decide)
      · exact q.noColon hd
    have htail : (')' :: tail).takeWhile (· ≠ ':') = ')' :: tail := by
      rw [← List.append_nil (')' :: tail), List.takeWhile_append_of_pos hplain, List.takeWhile_nil]
    have hall : (cs ++ ')' :: tail).takeWhile (· ≠ ':') = cs ++ ')' :: tail := by
      rw [List.takeWhile_append, hsplit, if_pos rfl, htail]
    unfold closedSet?
    simp only [hsplit, hall, List.drop_length, Option.map_none]
  | cons d rest =>
    obtain ⟨htake, hafter, hafter'⟩ := takeWhile_append_of_stop hd (')' :: tail)
    unfold closedSet?
    simp only [htake, hafter, hafter']
    by_cases hcolon : d = ':'
    · subst hcolon
      cases rest with
      | nil => rfl
      | cons e rest =>
        by_cases hclose : e = ']'
        · subst hclose
          show Option.map _ _ = Option.map _ (Option.map _ _)
          rw [Option.map_map]
          rfl
        · split
          · next h => exact absurd (List.cons.inj (List.cons.inj h).2).1 hclose
          · split
            · next h => exact absurd (List.cons.inj (List.cons.inj h).2).1 hclose
            · rfl
    · split
      · next h => exact absurd (List.cons.inj h).1 hcolon
      · split
        · next h => exact absurd (List.cons.inj h).1 hcolon
        · rfl

/-- The named set of a class is looked for alike. -/
theorem readAsciiClass_append (cs : List Char) :
    readAsciiClass? (cs ++ ')' :: tail) =
      (readAsciiClass? cs).map fun x => (x.1, x.2.1, x.2.2 ++ ')' :: tail) := by
  cases cs with
  | nil => rfl
  | cons c cs =>
    by_cases hc : c = ':'
    · subst hc
      cases cs with
      | nil => exact closedSet_append q false []
      | cons d cs =>
        by_cases hd : d = '^'
        · subst hd
          exact closedSet_append q true cs
        · rw [List.cons_append, List.cons_append, readAsciiClass_plain hd,
            readAsciiClass_plain hd]
          exact closedSet_append q false (d :: cs)
    · rw [List.cons_append, readAsciiClass_none hc, readAsciiClass_none hc]
      rfl

/-- A part of a class is carried over. -/
theorem readClassPart_carries (h : Continues tail rest longer) :
    Carries (Same tail) (readClassPart verbose rest) (readClassPart verbose longer) := by
  cases rest with
  | nil => exact carries_error _ _
  | cons c rest =>
    obtain rfl := h.cons
    by_cases hc : c = '\\'
    · subst hc
      exact readEscape_carries q verbose (continues_append tail rest)
    · rw [readClassPart_plain hc, readClassPart_plain hc]
      exact carries_ok ⟨rfl, .inl rfl⟩

omit q in
/-- The character that counts after a first one is the same, unless nothing but blanks and the
sign of a comment is left; such a character does not end a range, nor does the bracket that
counts within the longer text. -/
theorem peek_append (c : Char) (cs : List Char) :
    peek verbose (c :: (cs ++ ')' :: tail)) = peek verbose (c :: cs) ∨
      (skip verbose cs = [] ∧ peek verbose (c :: (cs ++ ')' :: tail)) = some ')' ∧
        peek verbose (c :: cs) ≠ some ']' ∧ peek verbose (c :: cs) ≠ some '-') := by
  cases verbose with
  | false =>
    cases cs with
    | nil => exact .inr ⟨rfl, rfl, by simp [peek], by simp [peek]⟩
    | cons d cs => exact .inl rfl
  | true =>
    -- Blanks and the sign of a comment are no end of a range.
    have hfirst : ∀ d, cs[0]? = some d → Text.isBlank d = true ∨ d = '#' →
        (c :: cs)[1]? ≠ some ']' ∧ (c :: cs)[1]? ≠ some '-' := by
      intro d hd hblank
      rw [List.getElem?_cons_succ, hd]
      constructor <;> (intro h; obtain rfl := Option.some.inj h; revert hblank; decide)
    have hstart : ∀ d, cs[0]? = some d → Text.isBlank d = true ∨
        cs.dropWhile Text.isBlank = cs := by
      intro d hd
      cases cs with
      | nil => simp at hd
      | cons e cs =>
        obtain rfl : e = d := by simpa using hd
        by_cases he : Text.isBlank e = true
        · exact .inl he
        · exact .inr (List.dropWhile_cons_of_neg he)
    have hdrop : (cs ++ ')' :: tail).dropWhile Text.isBlank =
        cs.dropWhile Text.isBlank ++ ')' :: tail := dropWhile_isBlank_append cs
    cases hd : cs.dropWhile Text.isBlank with
    | nil =>
      rw [hd, List.nil_append] at hdrop
      refine .inr ⟨skipComments_blank hd false, peek_plain hdrop (by decide), ?_⟩
      rw [peek_blank hd]
      cases hz : cs[0]? with
      | none => rw [List.getElem?_cons_succ, hz]; simp
      | some d =>
        refine hfirst d hz ?_
        rcases hstart d hz with hb | he
        · exact .inl hb
        · rw [hd] at he; rw [← he] at hz; simp at hz
    | cons d more =>
      rw [hd, List.cons_append] at hdrop
      by_cases hsharp : d = '#'
      · subst hsharp
        have hmore : (more ++ ')' :: tail).dropWhile Text.isBlank =
            more.dropWhile Text.isBlank ++ ')' :: tail := dropWhile_isBlank_append more
        rw [peek_comment hd, peek_comment hdrop, hmore]
        cases hm : more.dropWhile Text.isBlank with
        | nil =>
          have hskip : skip true cs = [] := by
            show skipComments cs false = []
            rw [skipComments_dropWhile, hd]
            exact skipComments_blank hm true
          refine .inr ⟨hskip, rfl, ?_⟩
          rw [List.head?_nil, Option.none_or]
          cases hz : cs[0]? with
          | none => simp only [List.getElem?_cons_succ, hz]; simp
          | some d =>
            refine hfirst d hz ?_
            rcases hstart d hz with hb | he
            · exact .inl hb
            · rw [hd] at he
              rw [← he] at hz
              exact .inr (Option.some.inj hz).symm
        | cons e rest => exact .inl rfl
      · exact .inl (by rw [peek_plain hd hsharp, peek_plain hdrop hsharp])

/-- The end of a range is carried over. -/
theorem rangeEnd_carries (first : Tree) (cs : List Char) :
    Carries (Same tail) (rangeEnd verbose first cs)
      (rangeEnd verbose first (cs ++ ')' :: tail)) := by
  have hmore := skip_append q verbose cs
  unfold rangeEnd
  cases hm : skip verbose cs with
  | nil => exact carries_error _ _
  | cons d more =>
    rw [hm] at hmore
    rw [hmore.cons]
    refine (readClassPart_carries q verbose (continues_append tail (d :: more))).bind
      fun x y hxy => ?_
    obtain ⟨last, final⟩ := x
    obtain ⟨last', final'⟩ := y
    obtain ⟨rfl, hfinal⟩ : last = last' ∧ Continues tail final final' := hxy
    dsimp only
    split
    · split
      · exact carries_ok ⟨rfl, hfinal⟩
      · exact carries_error _ _
    · exact carries_error _ _

/-- One item of a class, or a range, is carried over. -/
theorem readClassRange_carries (h : Continues tail rest longer) :
    Carries (Same tail) (readClassRange verbose rest) (readClassRange verbose longer) := by
  rw [readClassRange_eq, readClassRange_eq]
  refine (readClassPart_carries q verbose h).bind fun x y hxy => ?_
  obtain ⟨first, after⟩ := x
  obtain ⟨first', after'⟩ := y
  obtain ⟨rfl, hafter⟩ : first = first' ∧ Continues tail after after' := hxy
  have hskip := hafter.skip q verbose
  dsimp only
  cases hr : skip verbose after with
  | nil => exact carries_error _ _
  | cons c r =>
    rw [hr] at hskip
    rw [hskip.cons]
    dsimp only
    have hitem : Carries (Same tail)
        (do return (← classItem first, c :: r))
        (do return (← classItem first, c :: (r ++ ')' :: tail))) := by
      cases classItem first with
      | error e => exact carries_error _ _
      | ok item => exact carries_ok ⟨rfl, .inl rfl⟩
    rcases peek_append verbose c r with hpeek | ⟨hnil, -, hclose, hhyphen⟩
    · rw [hpeek]
      split
      · exact hitem
      · exact rangeEnd_carries q verbose first r
    · by_cases hc : c = '-'
      · subst hc
        have hno : ¬((decide ('-' ≠ '-') || peek verbose ('-' :: r) == some ']' ||
            peek verbose ('-' :: r) == some '-') = true) := by
          simp [hclose, hhyphen]
        rw [if_neg hno, rangeEnd, hnil]
        exact carries_error _ _
      · simp only [ne_eq, hc, not_false_eq_true, decide_true, Bool.true_or, if_true]
        exact hitem

/-- The hyphens at the start of a class are read alike. -/
theorem readHyphens_continues {fuel more : Nat} (items : List ClassTree)
    (hf : rest.length < fuel) (hm : fuel ≤ more) (h : Continues tail rest longer) :
    Same tail (readHyphens verbose fuel items rest) (readHyphens verbose more items longer) := by
  induction fuel generalizing more items rest longer with
  | zero => exact absurd hf (Nat.not_lt_zero _)
  | succ fuel ih =>
    obtain ⟨more, rfl⟩ : ∃ m, more = m + 1 := ⟨more - 1, by omega⟩
    cases rest with
    | nil => rcases h.nil with rfl | rfl <;> exact ⟨rfl, h⟩
    | cons c rest =>
      obtain rfl := h.cons
      by_cases hc : c = '-'
      · subst hc
        have hlength := length_skip_le verbose rest
        rw [List.length_cons] at hf
        exact ih _ (by omega) (by omega) (skip_append q verbose rest)
      · have hplain : ∀ n cs, readHyphens verbose n items (c :: cs) = (items, c :: cs) := by
          intro n cs
          unfold readHyphens
          split
          · next h => exact absurd (List.cons.inj h).1 hc
          · rfl
        rw [hplain, hplain]
        exact ⟨rfl, .inl rfl⟩

/-- The sign of negation of a class is read alike. -/
theorem readSign_continues (h : Continues tail rest longer) :
    Same tail (readSign verbose rest) (readSign verbose longer) := by
  have hskip := h.skip q verbose
  unfold readSign
  revert hskip
  generalize skip verbose rest = r
  generalize skip verbose longer = l
  intro hskip
  cases r with
  | nil => rcases hskip.nil with rfl | rfl <;> exact ⟨rfl, hskip⟩
  | cons c r =>
    obtain rfl := hskip.cons
    by_cases hc : c = '^'
    · subst hc
      exact ⟨rfl, skip_append q verbose r⟩
    · split
      · next h => exact absurd (List.cons.inj h).1 hc
      · split
        · next h => exact absurd (List.cons.inj h).1 hc
        · exact ⟨rfl, .inl rfl⟩

/-- A bracket that stands for itself at the start of a class is read alike. -/
theorem readFirstClose_continues (items : List ClassTree) (h : Continues tail rest longer) :
    Same tail (readFirstClose verbose items rest) (readFirstClose verbose items longer) := by
  cases items with
  | cons item items => exact ⟨rfl, h⟩
  | nil =>
    cases rest with
    | nil => rcases h.nil with rfl | rfl <;> exact ⟨rfl, h⟩
    | cons c rest =>
      obtain rfl := h.cons
      by_cases hc : c = ']'
      · subst hc
        exact ⟨rfl, skip_append q verbose rest⟩
      · have hplain : ∀ cs, readFirstClose verbose [] (c :: cs) = ([], c :: cs) := by
          intro cs
          unfold readFirstClose
          split
          · next h => exact absurd (List.cons.inj h).1 hc
          · rfl
        rw [hplain, hplain]
        exact ⟨rfl, .inl rfl⟩

/-- The start of a class is read alike. -/
theorem readClassStart_continues (h : Continues tail rest longer) :
    SameTwo tail (readClassStart verbose rest) (readClassStart verbose longer) := by
  obtain ⟨hnegated, hsign⟩ := readSign_continues q verbose h
  obtain ⟨hitems, hhyphens⟩ := readHyphens_continues q verbose []
    (Nat.lt_succ_self (readSign verbose rest).2.length) (Nat.succ_le_succ hsign.length_le) hsign
  refine ⟨hnegated, ?_⟩
  have hfirst := readFirstClose_continues q verbose
    (readHyphens verbose ((readSign verbose rest).2.length + 1) [] (readSign verbose rest).2).1
    hhyphens
  unfold readClassStart
  dsimp only
  rw [← hitems]
  exact hfirst

omit q in
/-- An operator does not start within the longer text where none does alone. -/
theorem startsOperator_append {c : Char} (h : ¬StartsOperator c rest) :
    ¬StartsOperator c (rest ++ ')' :: tail) := by
  rintro ⟨hc, more, he⟩
  cases rest with
  | nil =>
    rw [← (List.cons.inj he).1] at hc
    exact absurd hc (by decide)
  | cons d rest => exact h ⟨hc, rest, by rw [(List.cons.inj he).1]⟩

/-- Classes are carried over, with all that is nested in them. -/
theorem class_carries (fuel : Nat) :
    (∀ more, fuel ≤ more → ∀ rest longer, Continues tail rest longer →
      Carries (SameTwo tail) (readBracket verbose fuel rest) (readBracket verbose more longer)) ∧
    (∀ more, fuel ≤ more → ∀ items pending rest longer, Continues tail rest longer →
      Carries (Same tail) (readClassItems verbose fuel items pending rest)
        (readClassItems verbose more items pending longer)) := by
  induction fuel with
  | zero => exact ⟨fun _ _ _ _ _ => carries_error _ _, fun _ _ _ _ _ _ _ => carries_error _ _⟩
  | succ fuel ih =>
    obtain ⟨hbracket, hitems⟩ := ih
    refine ⟨fun more hm rest longer h => ?_, fun more hm items pending rest longer h => ?_⟩
    · obtain ⟨more, rfl⟩ : ∃ m, more = m + 1 := ⟨more - 1, by omega⟩
      rw [readBracket_eq, readBracket_eq]
      obtain ⟨hnegated, hstart, hrest⟩ := readClassStart_continues q verbose h
      rw [← hnegated, ← hstart]
      generalize (readClassStart verbose rest).1 = negated
      generalize (readClassStart verbose rest).2.1 = items
      generalize (readClassStart verbose rest).2.2 = r at hrest ⊢
      generalize (readClassStart verbose longer).2.2 = l at hrest ⊢
      cases r with
      | nil => exact carries_error _ _
      | cons c r =>
        have hmore := hitems more (by omega) items none _ _ hrest
        obtain rfl := hrest.cons
        exact hmore.bind fun x y hxy => carries_ok ⟨rfl, hxy⟩
    · obtain ⟨more, rfl⟩ : ∃ m, more = m + 1 := ⟨more - 1, by omega⟩
      have hmore := hitems more (by omega)
      have hskip := h.skip q verbose
      cases hr : skip verbose rest with
      | nil =>
        rw [readClassItems, hr]
        exact carries_error _ _
      | cons c r =>
        rw [hr] at hskip
        have hl := hskip.cons
        by_cases hclose : c = ']'
        · subst hclose
          rw [readClassItems, readClassItems, hr, hl]
          exact carries_ok ⟨rfl, .inl rfl⟩
        by_cases hopen : c = '['
        · subst hopen
          rw [readClassItems_open hr, readClassItems_open hl, readAsciiClass_append q r]
          cases readAsciiClass? r with
          | some found => exact hmore _ _ _ _ (.inl rfl)
          | none =>
            exact (hbracket more (by omega) r _ (.inl rfl)).bind fun x y hxy => by
              obtain ⟨hnegated, hinner, hrest⟩ := hxy
              dsimp only
              rw [hnegated, hinner]
              exact hmore _ _ _ _ hrest
        by_cases hop : StartsOperator c r
        · obtain ⟨hc, after, rfl⟩ := hop
          rw [readClassItems, readClassItems, hr, hl]
          simp only [List.mem_cons, List.not_mem_nil, or_false] at hc
          rcases hc with rfl | rfl | rfl
          all_goals exact hmore _ _ _ _ (.inl rfl)
        · rw [readClassItems_item hr hclose hopen hop,
            readClassItems_item hl hclose hopen (startsOperator_append hop)]
          refine (readClassRange_carries q verbose (continues_append tail (c :: r))).bind
            fun x y hxy => ?_
          dsimp only
          rw [hxy.1]
          exact hmore _ _ _ _ hxy.2

end Readers

end BuildTriage.Pattern
