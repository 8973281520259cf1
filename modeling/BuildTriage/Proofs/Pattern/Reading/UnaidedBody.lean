import BuildTriage.Proofs.Pattern.Reading.Unaided

/-!
# The body of a group that a bracket does not complete

A class that is not closed takes the bracket for one of its characters, and a group that is not
closed takes it for its own. So a body that is read up to the bracket within a longer text is
read up to its end alone.
-/

namespace BuildTriage.Pattern

section Readers

variable {tail rest longer : List Char} (q : Quiet tail) (verbose : Bool)
include q

/-- A part of a class is returned, but for a word boundary that dangles. -/
theorem readClassPart_returns (h : Continues tail rest longer) :
    Returns (Same tail) (fun y => Past Prod.snd tail y ∨ Dangling verbose tail y)
      (readClassPart verbose rest) (readClassPart verbose longer) := by
  cases rest with
  | nil => exact ((readClassPart_remains verbose longer).past h.tail_suffix).weaken fun _ => .inl
  | cons c rest =>
    obtain rfl := h.cons
    by_cases hc : c = '\\'
    · subst hc
      exact readEscape_returns q verbose (continues_append tail rest)
    · rw [readClassPart_plain hc, readClassPart_plain hc]
      exact returns_ok ⟨rfl, .inl rfl⟩

omit q verbose in
/-- An anchor does not end a range, and does not start one. -/
theorem joinRange_anchor {first : Tree} {last : Tree × List Char} {a : Anchor}
    (h : first = .anchor a ∨ last.1 = .anchor a) : joinRange first last = .error .classRange := by
  unfold joinRange
  split
  · next hlast => rcases h with h | h <;> simp_all
  · rfl

omit q in
/-- Nor is an anchor an item of a class. -/
theorem itemAfter_anchor (a : Anchor) (rest : List Char) (z : ClassTree × List Char) :
    itemAfter verbose (.anchor a) rest ≠ .ok z := by
  intro hz
  unfold itemAfter at hz
  split at hz
  · cases hz
  · next c more _ =>
    split at hz
    · cases hz
    · cases hmore : skip verbose more with
      | nil => rw [rangeEnd_nil verbose hmore] at hz; cases hz
      | cons d final =>
        rw [rangeEnd_cons verbose hmore] at hz
        obtain ⟨last, -, hlast⟩ := exists_of_bind_ok hz
        rw [joinRange_anchor (.inl rfl)] at hlast
        cases hlast

/-- The end of a range is returned. -/
theorem rangeEnd_returns (first : Tree) (cs : List Char) :
    Returns (Same tail) (Past Prod.snd tail) (rangeEnd verbose first cs)
      (rangeEnd verbose first (cs ++ ')' :: tail)) := by
  have hmore := skip_append q verbose cs
  cases hm : skip verbose cs with
  | nil =>
    rw [hm] at hmore
    rcases hmore.nil with hl | hl
    · rw [rangeEnd_cons verbose hl]
      have hpart := readClassPart_remains verbose (')' :: tail)
      exact (hpart.bind fun x hx => (joinRange_remains first x).mono hx).past List.suffix_rfl
    · rw [rangeEnd_nil verbose hl]
      exact returns_error _
  | cons d more =>
    rw [hm] at hmore
    rw [rangeEnd_cons verbose hm, rangeEnd_cons verbose hmore.cons]
    refine (readClassPart_returns q verbose (continues_append tail (d :: more))).bind
      (fun y hy z hz => ?_) fun x y _ hxy => ?_
    · rcases hy with hy | hy
      · exact (joinRange_remains first y z hz).trans hy
      · rw [joinRange_anchor (.inr hy.1)] at hz
        cases hz
    · obtain ⟨last, final⟩ := x
      obtain ⟨last', final'⟩ := y
      obtain ⟨rfl, hfinal⟩ : last = last' ∧ Continues tail final final' := hxy
      unfold joinRange
      dsimp only
      split
      · split
        · exact returns_ok ⟨rfl, hfinal⟩
        · exact returns_error _
      · exact returns_error _

/-- What follows the first part of an item is returned, unless the item ends before the bracket
or takes it. -/
theorem itemAfter_returns (first : Tree) (h : Continues tail rest longer) :
    Returns (Same tail) (Past Prod.snd (')' :: tail)) (itemAfter verbose first rest)
      (itemAfter verbose first longer) := by
  have hskip := h.skip q verbose
  cases hr : skip verbose rest with
  | nil =>
    rw [hr] at hskip
    rcases hskip.nil with hl | hl
    · have hend : Remains Prod.snd (')' :: tail) (itemAfter verbose first longer) := by
        unfold itemAfter
        rw [hl]
        dsimp only
        rw [if_pos (by rfl)]
        cases classItem first with
        | error e => exact remains_error _ _ _
        | ok item => exact remains_ok List.suffix_rfl
      exact hend.past List.suffix_rfl
    · unfold itemAfter
      rw [hl]
      exact returns_error _
  | cons c r =>
    rw [hr] at hskip
    have hitem : Returns (Same tail) (Past Prod.snd (')' :: tail))
        (do return (← classItem first, c :: r))
        (do return (← classItem first, c :: (r ++ ')' :: tail))) := by
      cases classItem first with
      | error e => exact returns_error _
      | ok item => exact returns_ok ⟨rfl, .inl rfl⟩
    have hend : Returns (Same tail) (Past Prod.snd (')' :: tail)) (rangeEnd verbose first r)
        (rangeEnd verbose first (r ++ ')' :: tail)) :=
      (rangeEnd_returns q verbose first r).weaken fun _ hy => hy.trans (List.suffix_cons _ _)
    unfold itemAfter
    rw [hr, hskip.cons]
    dsimp only
    rcases peek_append verbose c r with hpeek | ⟨-, hpeek, hclose, hhyphen⟩
    · rw [hpeek]
      split
      · exact hitem
      · exact hend
    · by_cases hc : c = '-'
      · subst hc
        rw [if_neg (by simp [hclose, hhyphen]), if_neg (by rw [hpeek]; decide)]
        exact hend
      · simp only [ne_eq, hc, not_false_eq_true, decide_true, Bool.true_or, if_true]
        exact hitem

/-- An item of a class is returned, unless it ends before the bracket or takes it. -/
theorem readClassRange_returns (h : Continues tail rest longer) :
    Returns (Same tail) (Past Prod.snd (')' :: tail)) (readClassRange verbose rest)
      (readClassRange verbose longer) := by
  rw [readClassRange_first, readClassRange_first]
  refine (readClassPart_returns q verbose h).bind (fun y hy z hz => ?_) fun x y _ hxy => ?_
  · rcases hy with hy | hy
    · exact ((itemAfter_remains verbose y.1 y.2 z hz).trans hy).trans (List.suffix_cons _ _)
    · obtain ⟨first, after⟩ := y
      obtain rfl : first = .anchor .wordBoundary := hy.1
      exact absurd hz (itemAfter_anchor verbose _ after z)
  · obtain ⟨first, after⟩ := x
    obtain ⟨first', after'⟩ := y
    obtain ⟨rfl, hafter⟩ : first = first' ∧ Continues tail after after' := hxy
    exact itemAfter_returns q verbose first hafter

omit q in
/-- Nothing is no item of a class. -/
theorem readClassItems_nil {cs : List Char} (h : skip verbose cs = []) (fuel : Nat)
    (items : List ClassTree) (pending : Option (ClassOp × ClassTree)) :
    readClassItems verbose (fuel + 1) items pending cs = .error .classUnclosed := by
  rw [readClassItems, h]

/-- Classes are returned, with all that is nested in them; a class that is not closed takes the
bracket. The fuel alone need only suffice for the text. -/
theorem class_returns (more : Nat) :
    (∀ fuel rest longer, 2 * rest.length + 2 ≤ fuel → Continues tail rest longer →
      Returns (SameTwo tail) (Past (·.2.2) tail) (readBracket verbose fuel rest)
        (readBracket verbose more longer)) ∧
    (∀ fuel items pending rest longer, 2 * rest.length + 1 ≤ fuel → Continues tail rest longer →
      Returns (Same tail) (Past Prod.snd tail) (readClassItems verbose fuel items pending rest)
        (readClassItems verbose more items pending longer)) := by
  induction more with
  | zero => exact ⟨fun _ _ _ _ _ => returns_error _, fun _ _ _ _ _ _ _ => returns_error _⟩
  | succ more ih =>
    obtain ⟨hbracket, hitems⟩ := ih
    have hleft := (class_remains verbose more).2
    refine ⟨fun fuel rest longer hf h => ?_, fun fuel items pending rest longer hf h => ?_⟩
    · obtain ⟨fuel, rfl⟩ : ∃ f, fuel = f + 1 := ⟨fuel - 1, by omega⟩
      have hlength := (readClassStart_suffix verbose rest).length_le
      rw [readBracket_eq, readBracket_eq]
      obtain ⟨hnegated, hstart, hrest⟩ := readClassStart_continues q verbose h
      rw [← hnegated, ← hstart]
      generalize (readClassStart verbose rest).1 = negated
      generalize (readClassStart verbose rest).2.1 = items
      generalize (readClassStart verbose rest).2.2 = r at hlength hrest ⊢
      generalize (readClassStart verbose longer).2.2 = l at hrest ⊢
      cases r with
      | nil =>
        rcases hrest.nil with rfl | rfl
        · intro z hz
          obtain ⟨x, hx, hz⟩ := exists_of_bind_ok hz
          cases hz
          exact .inl (hleft items none (')' :: tail) x hx)
        · exact returns_error _
      | cons c r =>
        have hmore := hitems fuel items none _ _ (by omega) hrest
        obtain rfl := hrest.cons
        exact hmore.bind (fun y hy z hz => by cases hz; exact hy)
          fun x y _ hxy => returns_ok ⟨rfl, hxy⟩
    · obtain ⟨fuel, rfl⟩ : ∃ f, fuel = f + 1 := ⟨fuel - 1, by omega⟩
      have hpast : ∀ items pending after, after <:+ ')' :: tail → ∀ z,
          readClassItems verbose more items pending after = .ok z → Past Prod.snd tail z :=
        fun items pending after hafter z hz =>
          (hleft items pending after z hz).trans (tail_suffix hafter)
      have hskip := h.skip q verbose
      cases hr : skip verbose rest with
      | nil =>
        rw [hr] at hskip
        rcases hskip.nil with hl | hl
        · rw [readClassItems_item hl (by decide) (by decide) (by simp [StartsOperator])]
          intro z hz
          obtain ⟨x, hx, hz⟩ := exists_of_bind_ok hz
          have hafter := readClassRange_remains verbose (')' :: tail) x hx
          exact .inl (hpast _ _ _ (hafter.trans (List.suffix_cons _ _)) z hz)
        · rw [readClassItems_nil verbose hl]
          exact returns_error _
      | cons c r =>
        rw [hr] at hskip
        have hl := hskip.cons
        have hlength := (length_skip_le verbose rest)
        rw [hr, List.length_cons] at hlength
        have hmore : ∀ items pending left, left.length ≤ r.length →
            ∀ left', Continues tail left left' → Returns (Same tail) (Past Prod.snd tail)
              (readClassItems verbose fuel items pending left)
              (readClassItems verbose more items pending left') :=
          fun items pending left hleft left' => hitems fuel items pending left left' (by omega)
        by_cases hclose : c = ']'
        · subst hclose
          rw [readClassItems, readClassItems, hr, hl]
          exact returns_ok ⟨rfl, .inl rfl⟩
        by_cases hopen : c = '['
        · subst hopen
          rw [readClassItems_open hr, readClassItems_open hl, readAsciiClass_append q r]
          cases hset : readAsciiClass? r with
          | some found =>
            exact hmore _ _ _ (readAsciiClass_suffix hset).length_le _ (.inl rfl)
          | none =>
            refine (hbracket fuel r _ (by omega) (.inl rfl)).bind
              (fun y hy z hz => hpast _ _ _ (hy.trans (List.suffix_cons _ _)) z hz)
              fun x y hx hxy => ?_
            obtain ⟨hnegated, hinner, hrest⟩ := hxy
            dsimp only
            rw [hnegated, hinner]
            exact hmore _ _ _ ((class_remains verbose fuel).1 r x hx).length_le _ hrest
        by_cases hop : StartsOperator c r
        · obtain ⟨hc, after, rfl⟩ := hop
          rw [readClassItems, readClassItems, hr, hl]
          simp only [List.mem_cons, List.not_mem_nil, or_false] at hc
          rcases hc with rfl | rfl | rfl
          all_goals exact hmore _ _ _ (by simp) _ (.inl rfl)
        · rw [readClassItems_item hr hclose hopen hop,
            readClassItems_item hl hclose hopen (startsOperator_append hop)]
          refine (readClassRange_returns q verbose (continues_append tail (c :: r))).bind
            (fun y hy z hz => hpast _ _ _ hy z hz) fun x y hx hxy => ?_
          dsimp only
          rw [hxy.1]
          exact hmore _ _ _ (readClassRange_remains verbose (c :: r) x hx).length_le _ hxy.2

omit q in
/-- Behind a word boundary that dangles, the brace is no repetition. -/
theorem readBody_dangling {y : Tree × List Char} (hy : Dangling verbose tail y) (fuel : Nat)
    (names : List String) (branches parts : List Tree) (z : Tree × List String × List Char) :
    readBody fuel verbose names branches (y.1 :: parts) y.2 ≠ .ok z := by
  obtain ⟨-, blank, hleft, hskip⟩ := hy
  intro hz
  cases fuel with
  | zero => cases hz
  | succ fuel =>
    have hbrace : skip verbose ('{' :: blank) = '{' :: blank := by cases verbose <;> rfl
    rw [hleft, readBody, hbrace] at hz
    obtain ⟨-, -, hz⟩ := exists_of_bind_ok hz
    obtain ⟨x, hx, -⟩ := exists_of_bind_ok hz
    have hnone : ∀ n after, readCount verbose (')' :: tail) ≠ (.ok n, after) := by
      intro n after hn
      have hdigits : readCountDigits verbose ((')' :: tail).length + 1) [] (')' :: tail) =
          ([], ')' :: tail) := rfl
      have hblank : (')' :: tail).dropWhile Text.isBlank = ')' :: tail := rfl
      unfold readCount at hn
      simp only [hblank, hdigits] at hn
      cases (Prod.mk.inj hn).1
    cases writes_of_readCounts hx with
    | exactly _ hn => rw [hskip] at hn; exact hnone _ _ hn
    | atLeast _ hn => rw [hskip] at hn; exact hnone _ _ hn
    | between _ hm => rw [hskip] at hm; exact hnone _ _ hm

section Closing

variable {body body' : Except Refusal (Tree × List String × List Char)}
  {next next' : Tree → List String → List Char → Except Refusal (Tree × List String × List Char)}

omit q verbose in
/-- A group is returned with what follows it; one that is not closed alone takes the bracket. -/
theorem closeGroup_returns (hbody : Returns (SameTwo tail) (Past (·.2.2) tail) body body')
    (hpast : ∀ tree names after, after <:+ tail → Remains (·.2.2) tail (next' tree names after))
    (hnext : ∀ x, body = .ok x → ∀ cs, cs.length < x.2.2.length → Returns (SameTwo tail)
      (Past (·.2.2) tail) (next x.1 x.2.1 cs) (next' x.1 x.2.1 (cs ++ ')' :: tail))) :
    Returns (SameTwo tail) (Past (·.2.2) tail) (closeGroup body next) (closeGroup body' next') := by
  have hlost : ∀ y, Past (·.2.2) tail y → ∀ z, closeGroup (.ok y) next' = .ok z →
      Past (·.2.2) tail z :=
    fun y hy => closeGroup_remains (remains_ok hy) hpast
  refine hbody.bind hlost fun x y hx hxy => ?_
  obtain ⟨tree, names, rest⟩ := x
  obtain ⟨tree', names', rest'⟩ := y
  obtain ⟨rfl, rfl, hrest⟩ : tree = tree' ∧ names = names' ∧ Continues tail rest rest' := hxy
  show Returns (SameTwo tail) _ (closeGroup (.ok (tree, names, rest)) next)
    (closeGroup (.ok (tree, names, rest')) next')
  cases rest with
  | nil =>
    rcases hrest.nil with rfl | rfl
    · exact fun z hz => .inl (hpast tree names tail List.suffix_rfl z hz)
    · exact returns_error _
  | cons c rest =>
    obtain rfl := hrest.cons
    by_cases hc : c = ')'
    · subst hc
      exact hnext _ hx rest (Nat.lt_succ_self _)
    · have hnone : ∀ more, c :: (rest ++ ')' :: tail) ≠ ')' :: more :=
        fun more he => hc (List.cons.inj he).1
      rw [closeGroup_open hnone]
      exact returns_error _

end Closing

section AfterOpening

variable {read read' : Bool → List String → List Tree → List Tree → List Char →
  Except Refusal (Tree × List String × List Char)}

omit q in
/-- A group is returned with what follows it, if bodies are that are not longer than its own. -/
theorem afterOpening_returns
    (hpast : ∀ verbose names branches parts after, after <:+ tail →
      Remains (·.2.2) tail (read' verbose names branches parts after))
    (hleft : ∀ verbose names branches parts cs,
      Remains (·.2.2) cs (read verbose names branches parts cs))
    (hread : ∀ verbose names branches parts left left', left.length ≤ rest.length →
      Continues tail left left' → Returns (SameTwo tail) (Past (·.2.2) tail)
        (read verbose names branches parts left) (read' verbose names branches parts left'))
    (names : List String) (branches parts : List Tree) (opening : Opening)
    (h : Continues tail rest longer) :
    Returns (SameTwo tail) (Past (·.2.2) tail)
      (afterOpening read verbose names branches parts (opening, rest))
      (afterOpening read' verbose names branches parts (opening, longer)) := by
  have hgroup : ∀ inside names (wrap : Tree → Tree), Returns (SameTwo tail) (Past (·.2.2) tail)
      (closeGroup (read inside names [] [] rest) fun body names =>
        read verbose names branches (wrap body :: parts))
      (closeGroup (read' inside names [] [] longer) fun body names =>
        read' verbose names branches (wrap body :: parts)) := by
    intro inside names wrap
    refine closeGroup_returns (hread inside names [] [] _ _ (Nat.le_refl _) h)
      (fun _ _ _ => hpast _ _ _ _ _) fun x hx cs hcs => ?_
    have hshort : x.2.2.length ≤ rest.length := (hleft _ _ _ _ _ x hx).length_le
    exact hread _ _ _ _ _ _ (by omega) (.inl rfl)
  cases opening with
  | settings flags => exact hread _ _ _ _ _ _ (Nat.le_refl _) h
  | capture name =>
    simp only [afterOpening]
    split
    · exact returns_error _
    · exact hgroup _ _ Tree.capture
  | group flags => exact hgroup _ _ (Tree.group flags)

omit q in
/-- What bodies carry over, a group with what follows it does. -/
theorem afterOpening_carries
    (hread : ∀ verbose names branches parts cs, Carries Eq (read verbose names branches parts cs)
      (read' verbose names branches parts cs))
    (names : List String) (branches parts : List Tree) (x : Opening × List Char) :
    Carries Eq (afterOpening read verbose names branches parts x)
      (afterOpening read' verbose names branches parts x) := by
  obtain ⟨opening, rest⟩ := x
  have hgroup : ∀ inside names (wrap : Tree → Tree), Carries Eq
      (closeGroup (read inside names [] [] rest) fun body names =>
        read verbose names branches (wrap body :: parts))
      (closeGroup (read' inside names [] [] rest) fun body names =>
        read' verbose names branches (wrap body :: parts)) := by
    intro inside names wrap
    refine (hread inside names [] [] rest).bind fun x y hxy => ?_
    subst hxy
    dsimp only
    split
    · exact hread _ _ _ _ _
    · exact carries_error _ _
  cases opening with
  | settings flags => exact hread _ _ _ _ _
  | capture name =>
    simp only [afterOpening]
    split
    · exact carries_error _ _
    · exact hgroup _ _ Tree.capture
  | group flags => exact hgroup _ _ (Tree.group flags)

end AfterOpening

omit q verbose in
/-- What follows a repetition of the last part is returned, if it is with any parts. -/
theorem repeated_returns {f g : List Tree → Except Refusal (Tree × List String × List Char)}
    (hfg : ∀ parts, Returns (SameTwo tail) (Past (·.2.2) tail) (f parts) (g parts))
    (parts : List Tree) (min : Nat) (max : Option Nat) (greedy : Bool) :
    Returns (SameTwo tail) (Past (·.2.2) tail) (repeatLast parts min max greedy >>= f)
      (repeatLast parts min max greedy >>= g) := by
  cases repeatLast parts min max greedy with
  | error e => exact returns_error _
  | ok parts => exact hfg parts

/-- The body of a group is returned: what closes it within the longer text closes it alone, or
is its end, unless it takes the bracket. The fuel alone need only suffice for the text. -/
theorem readBody_returns (more : Nat) : ∀ fuel verbose names branches parts rest longer,
    rest.length < fuel → Continues tail rest longer →
    Returns (SameTwo tail) (Past (·.2.2) tail) (readBody fuel verbose names branches parts rest)
      (readBody more verbose names branches parts longer) := by
  induction more with
  | zero => exact fun _ _ _ _ _ _ _ _ _ => returns_error _
  | succ more ih =>
    intro fuel verbose names branches parts rest longer hf h
    obtain ⟨fuel, rfl⟩ : ∃ f, fuel = f + 1 := ⟨fuel - 1, by omega⟩
    have hskip := h.skip q verbose
    have hlength := length_skip_le verbose rest
    have hpast : ∀ verbose names branches parts after, after <:+ tail →
        Remains (·.2.2) tail (readBody more verbose names branches parts after) :=
      fun verbose names branches parts after hafter =>
        (readBody_remains more verbose names branches parts after).mono hafter
    cases hr : skip verbose rest with
    | nil =>
      rw [hr] at hskip
      rw [readBody, readBody, hr]
      rcases hskip.nil with hl | hl
      · rw [hl]
        exact returns_ok ⟨rfl, rfl, .inl rfl⟩
      · rw [hl]
        exact returns_ok ⟨rfl, rfl, .inr ⟨rfl, rfl⟩⟩
    | cons c r =>
      rw [hr] at hskip hlength
      rw [List.length_cons] at hlength
      have hl := hskip.cons
      have hmore : ∀ verbose names branches parts left left', left.length ≤ r.length →
          Continues tail left left' → Returns (SameTwo tail) (Past (·.2.2) tail)
            (readBody fuel verbose names branches parts left)
            (readBody more verbose names branches parts left') :=
        fun verbose names branches parts left left' hleft =>
          ih fuel verbose names branches parts left left' (by omega)
      have hrest := continues_append tail r
      by_cases hplain : c ∉ [')', '|', '(', '[', '?', '*', '+', '{', '\\', '.', '^', '$']
      · rw [readBody_literal hr hplain, readBody_literal hl hplain]
        exact hmore _ _ _ _ _ _ (Nat.le_refl _) hrest
      by_cases hopen : c = '('
      · subst hopen
        rw [readBody_open hr, readBody_open hl]
        refine (readOpening_returns q verbose hrest).bind
          (fun y hy => afterOpening_remains hpast verbose names branches parts hy)
          fun x y hx hxy => ?_
        obtain ⟨opening, after⟩ := x
        obtain ⟨opening', after'⟩ := y
        obtain ⟨rfl, hafter⟩ : opening = opening' ∧ Continues tail after after' := hxy
        have hshort : after.length ≤ r.length := (readOpening_remains verbose r _ hx).length_le
        exact afterOpening_returns verbose hpast (readBody_remains fuel)
          (fun _ _ _ _ _ _ hleft => hmore _ _ _ _ _ _ (Nat.le_trans hleft hshort)) _ _ _ _ hafter
      rw [readBody, readBody, hr, hl]
      have huncounted : ∀ (min : Nat) (max : Option Nat), Returns (SameTwo tail)
          (Past (·.2.2) tail)
          (repeatLast parts min max (readGreed r).1 >>= fun parts =>
            readBody fuel verbose names branches parts (readGreed r).2)
          (repeatLast parts min max (readGreed (r ++ ')' :: tail)).1 >>= fun parts =>
            readBody more verbose names branches parts (readGreed (r ++ ')' :: tail)).2) := by
        intro min max
        obtain ⟨hgreedy, hafter⟩ := readGreed_continues hrest
        rw [hgreedy]
        exact repeated_returns (fun parts =>
          hmore _ _ _ _ _ _ (readGreed_suffix r).length_le hafter) parts min max _
      simp only [List.mem_cons, List.not_mem_nil, or_false, Decidable.not_not] at hplain
      rcases hplain with rfl | rfl | rfl | rfl | rfl | rfl | rfl | rfl | rfl | rfl | rfl | rfl
      · exact returns_ok ⟨rfl, rfl, .inl rfl⟩
      · exact hmore _ _ _ _ _ _ (Nat.le_refl _) hrest
      · exact absurd rfl hopen
      · refine ((class_returns q verbose _).1 _ r _ (Nat.le_refl _) hrest).bind
          (fun y hy z hz => hpast _ _ _ _ _ hy z hz) fun x y hx hxy => ?_
        obtain ⟨hnegated, hinner, hafter⟩ := hxy
        dsimp only
        rw [hnegated, hinner]
        exact hmore _ _ _ _ _ _ ((class_remains verbose _).1 r x hx).length_le hafter
      · exact huncounted 0 (some 1)
      · exact huncounted 0 none
      · exact huncounted 1 none
      · cases parts with
        | nil => exact returns_error _
        | cons part parts =>
          refine (readCounts_returns q verbose (fun _ => False) hrest).bind
            (fun _ hy => absurd hy id) fun x y hx hxy => ?_
          obtain ⟨hmin, hmax, hafter⟩ := hxy
          obtain ⟨hgreedy, hfinal⟩ := readGreed_continues (hafter.skip q verbose)
          dsimp only
          rw [hmin, hmax, hgreedy]
          refine repeated_returns (fun parts => hmore _ _ _ _ _ _ ?_ hfinal) _ _ _ _
          exact (((readGreed_suffix _).trans (skip_suffix verbose _)).trans
            (readCounts_remains verbose r x hx)).length_le
      · refine (readEscape_returns q verbose hrest).bind (fun y hy z hz => ?_) fun x y hx hxy => ?_
        · rcases hy with hy | hy
          · exact hpast _ _ _ _ _ hy z hz
          · exact absurd hz (readBody_dangling verbose hy more names branches parts z)
        · dsimp only
          rw [hxy.1]
          exact hmore _ _ _ _ _ _
            ((readEscape_remains verbose r x hx).trans (List.tail_suffix r)).length_le hxy.2
      all_goals exact hmore _ _ _ _ _ _ (Nat.le_refl _) hrest

end Readers

/-- What is read once is read. -/
theorem carries_self {α : Type} (r : Except Refusal α) : Carries Eq r r :=
  fun x hx => ⟨x, hx, rfl⟩

/-- What is read with some fuel is read with more. -/
theorem readBody_more (fuel : Nat) : ∀ more, fuel ≤ more → ∀ verbose names branches parts cs,
    Carries Eq (readBody fuel verbose names branches parts cs)
      (readBody more verbose names branches parts cs) := by
  induction fuel with
  | zero => exact fun _ _ _ _ _ _ _ => carries_error _ _
  | succ fuel ih =>
    intro more hm verbose names branches parts cs
    obtain ⟨more, rfl⟩ : ∃ m, more = m + 1 := ⟨more - 1, by omega⟩
    have hmore := ih more (by omega)
    have hrepeated : ∀ rest min max greedy, Carries Eq
        (repeatLast parts min max greedy >>= fun parts =>
          readBody fuel verbose names branches parts rest)
        (repeatLast parts min max greedy >>= fun parts =>
          readBody more verbose names branches parts rest) := by
      intro rest min max greedy
      refine (carries_self _).bind fun x y hxy => ?_
      subst hxy
      exact hmore _ _ _ _ _
    cases hr : skip verbose cs with
    | nil =>
      rw [readBody, readBody, hr]
      exact carries_ok rfl
    | cons c rest =>
      by_cases hplain : c ∉ [')', '|', '(', '[', '?', '*', '+', '{', '\\', '.', '^', '$']
      · rw [readBody_literal hr hplain, readBody_literal hr hplain]
        exact hmore _ _ _ _ _
      by_cases hopen : c = '('
      · subst hopen
        rw [readBody_open hr, readBody_open hr]
        refine (carries_self (readOpening verbose rest)).bind fun x y hxy => ?_
        subst hxy
        exact afterOpening_carries verbose hmore names branches parts x
      rw [readBody, readBody, hr]
      simp only [List.mem_cons, List.not_mem_nil, or_false, Decidable.not_not] at hplain
      rcases hplain with rfl | rfl | rfl | rfl | rfl | rfl | rfl | rfl | rfl | rfl | rfl | rfl
      · exact carries_ok rfl
      · exact hmore _ _ _ _ _
      · exact absurd rfl hopen
      · refine (carries_self _).bind fun x y hxy => ?_
        subst hxy
        exact hmore _ _ _ _ _
      · exact hrepeated _ _ _ _
      · exact hrepeated _ _ _ _
      · exact hrepeated _ _ _ _
      · cases parts with
        | nil => exact carries_error _ _
        | cons part parts =>
          refine (carries_self (readCounts verbose rest)).bind fun x y hxy => ?_
          subst hxy
          exact hrepeated _ _ _ _
      · refine (carries_self _).bind fun x y hxy => ?_
        subst hxy
        exact hmore _ _ _ _ _
      all_goals exact hmore _ _ _ _ _

end BuildTriage.Pattern
