import BuildTriage.Proofs.Indication
import BuildTriage.Proofs.Pattern.LineFlags
import BuildTriage.Proofs.Pattern.Reading.UnaidedBody

/-!
# Which patterns are accepted

Only the framed text of a pattern is compiled, never the pattern by itself. A pattern that
closes no bracket but those it opens is accepted exactly when it is a pattern by itself, unless
it ends in a comment that takes in the end of the frame. The limits on depth and size are left
aside, since the frame counts for them. A text that closes a bracket too many is accepted if it
opens another one, though it is no pattern.
-/

namespace BuildTriage

open Pattern

namespace Pattern

/-- A body that takes the whole text is its tree, if it is not too deep. -/
theorem read_of_readBody {cs : List Char} {tree : Tree} {names : List String}
    (h : readBody (cs.length + 1) false [] [] [] cs = .ok (tree, names, [])) :
    Tree.read cs = if tree.depth > maxDepth then .error .depth else .ok tree := by
  rw [Tree.read, h]
  show (if tree.depth > maxDepth then _ else _) = _
  rfl

/-- A body that does not take the whole text ends at a bracket that was not opened. -/
theorem read_of_left {cs rest : List Char} {tree : Tree} {names : List String} {c : Char}
    (h : readBody (cs.length + 1) false [] [] [] cs = .ok (tree, names, c :: rest)) :
    Tree.read cs = .error .groupUnopened := by
  rw [Tree.read, h]
  rfl

/-- The tree of a text is not too deep. -/
theorem depth_of_read {cs : List Char} {tree : Tree} (h : Tree.read cs = .ok tree) :
    tree.depth ≤ maxDepth := by
  obtain ⟨names, hbody⟩ := readBody_of_read h
  rw [read_of_readBody hbody] at h
  split at h
  · cases h
  · omega

/-- Parts in a row have a meaning each. -/
theorem exists_of_resolveAll {m : Modes} {t : Tree} {rest : List Tree}
    {r : List Expr × Modes} (h : Tree.resolveAll m (t :: rest) = .ok r) :
    ∃ e next es after, t.resolve m = .ok (e, next) ∧
      Tree.resolveAll next rest = .ok (es, after) := by
  rw [Tree.resolveAll] at h
  obtain ⟨⟨e, next⟩, ht, h⟩ := exists_of_bind_ok h
  obtain ⟨⟨es, after⟩, hrest, -⟩ := exists_of_bind_ok h
  exact ⟨e, next, es, after, ht, hrest⟩

/-- A text whose tree has a meaning compiles, if it is not too large. -/
theorem exists_ofText {text : String} {tree : Tree} {r : Expr × Modes}
    (ht : Tree.read text.toList = .ok tree) (hr : tree.resolve {} = .ok r)
    (hsize : ofText text ≠ .error .size) : ∃ c, ofText text = .ok c := by
  have hread : Expr.read text.toList = .ok r.1 := by
    rw [Expr.read, ht]
    show (tree.resolve {} >>= _) = _
    rw [hr]
    rfl
  rw [ofText, hread] at hsize ⊢
  by_cases hlarge : r.1.footprint > maxFootprint
  · exact absurd (by simp [hlarge, bind, Except.bind, throw, throwThe, MonadExceptOf.throw]) hsize
  · exact ⟨⟨r.1, r.1.program⟩, by simp [hlarge, bind, Except.bind, pure, Except.pure]⟩

/-- A text that compiles has a tree with a meaning. -/
theorem exists_tree {text : String} {c : Pattern} (h : ofText text = .ok c) :
    ∃ tree r, Tree.read text.toList = .ok tree ∧ tree.resolve {} = .ok r := by
  obtain ⟨e, he, -⟩ := exists_of_bind_ok h
  obtain ⟨tree, htree, he⟩ := exists_of_bind_ok he
  obtain ⟨r, hr, -⟩ := exists_of_bind_ok he
  exact ⟨tree, r, htree, hr⟩

/-- A text that has no tree does not compile. -/
theorem ofText_refused {text : String} {e : Refusal} (h : Tree.read text.toList = .error e) :
    ofText text = .error e := by
  rw [ofText, Expr.read, h]
  rfl

end Pattern

namespace ReaderMode

/-- What stands behind the bracket that closes the group of a frame. -/
def behind : ReaderMode → List Char
  | .singleLine => ['$']
  | .multiLine => ['[', '^', '\\', 'r', '\\', 'n', ']', '*', '?', '$']

/-- The parts before the group of a frame, last first. -/
def before : ReaderMode → List Tree
  | .singleLine => [.anchor .lineStart]
  | .multiLine => [others, .anchor .lineStart, .settings [(.multiLine, true), (.dotAll, true)]]

theorem quiet_behind (m : ReaderMode) : Quiet m.behind := by
  cases m <;> exact ⟨by decide, by decide⟩

/-- No bracket stands behind the group of a frame. -/
theorem not_mem_behind (m : ReaderMode) : ')' ∉ m.behind := by cases m <;> decide

theorem toList_end (m : ReaderMode) : m.frame.2.toList = ')' :: m.behind := by
  cases m <;> rfl

/-- A framed text is read as the group of the frame, with the pattern for its body. -/
theorem readBody_wrap (m : ReaderMode) (pattern : String) :
    ∃ n, pattern.toList.length + m.behind.length + 2 ≤ n ∧ 4 ≤ n ∧
      readBody ((m.wrap pattern).toList.length + 1) false [] [] [] (m.wrap pattern).toList =
        closeGroup (readBody n false [] [] [] (pattern.toList ++ ')' :: m.behind))
          fun body names => readBody n false names [] (.group [] body :: m.before) := by
  rw [wrap_toList, toList_end]
  generalize pattern.toList = cs
  cases m with
  | singleLine =>
    have htext : singleLine.frame.1.toList ++ (cs ++ ')' :: singleLine.behind) =
        '^' :: '(' :: '?' :: ':' :: (cs ++ ')' :: singleLine.behind) := by simp [frame]
    have hlength : ('^' :: '(' :: '?' :: ':' :: (cs ++ ')' :: singleLine.behind)).length + 1 =
        (cs.length + 5) + 2 := by simp [behind]
    refine ⟨cs.length + 5, by simp [behind], by omega, ?_⟩
    rw [htext, hlength, readBody_lineStart]
    rfl
  | multiLine =>
    have htext : multiLine.frame.1.toList ++ (cs ++ ')' :: multiLine.behind) =
        '(' :: '?' :: 'm' :: 's' :: ')' :: '^' :: '[' :: '^' :: '\\' :: 'r' :: '\\' :: 'n' ::
          ']' :: '*' :: '?' :: '(' :: '?' :: ':' :: (cs ++ ')' :: multiLine.behind) := by
      simp [frame]
    have hlength : ('(' :: '?' :: 'm' :: 's' :: ')' :: '^' :: '[' :: '^' :: '\\' :: 'r' :: '\\' ::
        'n' :: ']' :: '*' :: '?' :: '(' :: '?' :: ':' ::
        (cs ++ ')' :: multiLine.behind)).length + 1 = (cs.length + 25) + 5 := by simp [behind]
    refine ⟨cs.length + 25, by simp [behind], by omega, ?_⟩
    rw [htext, hlength, readBody_linesStart]
    rfl

/-- The rest of a frame closes its tree. -/
theorem readBody_behind (m : ReaderMode) {n : Nat} (hn : 4 ≤ n) (names : List String)
    (tree : Tree) : readBody n false names [] (.group [] tree :: m.before) m.behind =
      .ok (m.frameTree tree, names, []) := by
  cases m with
  | singleLine =>
    obtain ⟨n, rfl⟩ : ∃ k, n = k + 2 := ⟨n - 2, by omega⟩
    exact readBody_lineEnd n names tree
  | multiLine =>
    obtain ⟨n, rfl⟩ : ∃ k, n = k + 4 := ⟨n - 4, by omega⟩
    exact readBody_linesEnd n names tree

/-- The frame around a tree is deeper than the tree. -/
theorem depth_lt_frameTree (m : ReaderMode) (tree : Tree) :
    tree.depth < (m.frameTree tree).depth := by
  cases m <;> simp only [frameTree, Tree.depth, Tree.depths] <;> omega

/-- The end of a pattern takes in the end of the frame, as a comment does: the pattern with that
end behind it has a tree. -/
def TakesIn (m : ReaderMode) (pattern : String) : Prop :=
  ∃ tree, Tree.read (pattern ++ m.frame.2).toList = .ok tree

/-- What is read of a pattern within its frame does not end before the bracket of the frame, if
it takes in the end. -/
theorem readBody_of_takesIn {m : ReaderMode} {pattern : String} (h : m.TakesIn pattern) {n : Nat}
    (hn : pattern.toList.length + m.behind.length + 2 ≤ n) :
    ∃ tree names, readBody n false [] [] [] (pattern.toList ++ ')' :: m.behind) =
      .ok (tree, names, []) := by
  obtain ⟨tree, htree⟩ := h
  obtain ⟨names, hbody⟩ := readBody_of_read htree
  rw [String.toList_append, toList_end] at hbody
  have hfuel : (pattern.toList ++ ')' :: m.behind).length + 1 ≤ n := by
    rw [List.length_append, List.length_cons]
    omega
  obtain ⟨_, hmore, rfl⟩ := readBody_more _ n hfuel _ _ _ _ _ _ hbody
  exact ⟨tree, names, hmore⟩

/-- A pattern with a tree that does not take in the end of its frame has its tree within it. -/
theorem readTree_wrap_of {m : ReaderMode} {pattern : String} {tree : Tree}
    (ht : Tree.read pattern.toList = .ok tree) (hends : ¬m.TakesIn pattern)
    (hdepth : Tree.read (m.wrap pattern).toList ≠ .error .depth) :
    Tree.read (m.wrap pattern).toList = .ok (m.frameTree tree) := by
  obtain ⟨n, hn, hfour, hwrap⟩ := m.readBody_wrap pattern
  have hfuel : (pattern.toList ++ ')' :: m.behind).length + 1 ≤ n := by
    rw [List.length_append, List.length_cons]
    omega
  obtain ⟨names, rest, hbody, hrest⟩ := readBody_enclosed m.quiet_behind ht
    (by rw [List.length_append]; omega :
      pattern.toList.length + 1 ≤ (pattern.toList ++ ')' :: m.behind).length + 1)
  obtain rfl : rest = ')' :: m.behind := by
    rcases hrest with rfl | rfl
    · rfl
    · refine absurd ⟨tree, ?_⟩ hends
      rw [String.toList_append, toList_end, read_of_readBody hbody,
        if_neg (Nat.not_lt.mpr (depth_of_read ht))]
  obtain ⟨_, hmore, rfl⟩ := readBody_more _ n hfuel _ _ _ _ _ _ hbody
  rw [hmore, closeGroup_close, readBody_behind m hfour] at hwrap
  rw [read_of_readBody hwrap] at hdepth ⊢
  split at hdepth
  · exact absurd rfl hdepth
  · next hdeep => rw [if_neg hdeep]

/-- A pattern whose framed text has a tree is a pattern with a tree by itself, unless it closes a
bracket that it has not opened; and it does not take in the end of its frame. -/
theorem exists_of_readTree_wrap {m : ReaderMode} {pattern : String} {framed : Tree}
    (h : Tree.read (m.wrap pattern).toList = .ok framed)
    (hbrackets : Tree.read pattern.toList ≠ .error .groupUnopened) :
    ∃ tree, Tree.read pattern.toList = .ok tree ∧ ¬m.TakesIn pattern ∧
      framed = m.frameTree tree := by
  obtain ⟨n, hn, hfour, hwrap⟩ := m.readBody_wrap pattern
  obtain ⟨names, hbody⟩ := readBody_of_read h
  rw [hwrap] at hbody
  obtain ⟨⟨tree, inside, rest⟩, hgroup, hclose⟩ := exists_of_bind_ok hbody
  rw [hgroup] at hbody
  obtain ⟨more, rfl⟩ : ∃ more, rest = ')' :: more := by
    refine Classical.byContradiction fun hnone => ?_
    rw [closeGroup_open fun more he => hnone ⟨more, he⟩] at hbody
    cases hbody
  rw [closeGroup_close] at hbody
  have hends : ¬m.TakesIn pattern := by
    intro htakes
    obtain ⟨_, _, hall⟩ := readBody_of_takesIn htakes hn
    rw [hall] at hgroup
    cases hgroup
  obtain hpast | ⟨⟨alone, taken, left⟩, halone, htree, -, hleft⟩ :=
    readBody_returns m.quiet_behind n (pattern.toList.length + 1) false [] [] []
      pattern.toList _ (Nat.lt_succ_self _) (continues_append m.behind pattern.toList) _ hgroup
  · have hmem : ')' ∈ m.behind := List.IsSuffix.subset hpast List.mem_cons_self
    exact absurd hmem m.not_mem_behind
  obtain rfl : alone = tree := htree
  cases left with
  | cons c left => exact absurd (read_of_left halone) hbrackets
  | nil =>
    rcases hleft.nil with he | he
    · obtain rfl := (List.cons.inj he).2
      rw [readBody_behind m hfour] at hbody
      obtain rfl := (Prod.mk.inj (Except.ok.inj hbody)).1
      have hdeep : ¬alone.depth > maxDepth := by
        have hframe := depth_lt_frameTree m alone
        have hbound := depth_of_read h
        omega
      exact ⟨alone, by rw [read_of_readBody halone, if_neg hdeep], hends, rfl⟩
    · cases he

/-- If the frame around a tree has a meaning, the tree has one within it. -/
theorem exists_of_resolve_frameTree {m : ReaderMode} {tree : Tree} {r : Expr × Modes}
    (h : (m.frameTree tree).resolve {} = .ok r) : ∃ r, tree.resolve m.modes = .ok r := by
  have hgroup : ∀ {m : Modes} {e : Expr × Modes}, (Tree.group [] tree).resolve m = .ok e →
      ∃ r, tree.resolve m = .ok r := by
    intro m e he
    rw [Tree.resolve] at he
    obtain ⟨r, hr, -⟩ := exists_of_bind_ok he
    exact ⟨r, hr⟩
  cases m with
  | singleLine =>
    rw [frameTree, Tree.resolve] at h
    obtain ⟨r, hr, -⟩ := exists_of_bind_ok h
    obtain ⟨_, _, _, _, hstart, hrest⟩ := exists_of_resolveAll hr
    cases hstart
    obtain ⟨_, _, _, _, hbody, -⟩ := exists_of_resolveAll hrest
    exact hgroup hbody
  | multiLine =>
    rw [frameTree, Tree.resolve] at h
    obtain ⟨r, hr, -⟩ := exists_of_bind_ok h
    obtain ⟨_, _, _, _, hflags, hrest⟩ := exists_of_resolveAll hr
    cases hflags
    obtain ⟨_, _, _, _, hstart, hrest⟩ := exists_of_resolveAll hrest
    cases hstart
    obtain ⟨_, _, _, _, hothers, hrest⟩ := exists_of_resolveAll hrest
    obtain ⟨-, rfl⟩ := Prod.mk.inj (Except.ok.inj (hothers.symm.trans resolve_others))
    obtain ⟨_, _, _, _, hbody, -⟩ := exists_of_resolveAll hrest
    exact hgroup hbody

/-- A tree has a meaning within a frame exactly when it has one by itself. -/
theorem exists_resolve_modes (m : ReaderMode) (tree : Tree) :
    (∃ r, tree.resolve m.modes = .ok r) ↔ ∃ r, tree.resolve {} = .ok r := by
  have hverdict : verdict (tree.resolve m.modes) = verdict (tree.resolve {}) :=
    verdict_resolve tree (by cases m <;> rfl)
  constructor
  · rintro ⟨r, hr⟩
    rw [hr] at hverdict
    cases h : tree.resolve {} with
    | ok r => exact ⟨r, rfl⟩
    | error e => rw [h] at hverdict; cases hverdict
  · rintro ⟨r, hr⟩
    rw [hr] at hverdict
    cases h : tree.resolve m.modes with
    | ok r => exact ⟨r, rfl⟩
    | error e => rw [h] at hverdict; cases hverdict

end ReaderMode

namespace Indication

/-- A pattern is accepted when its framed text compiles. -/
theorem ofPattern_ok_iff (pattern : String) (m : ReaderMode) :
    (∃ i, ofPattern pattern m = .ok i) ↔ ∃ c, Pattern.ofText (m.wrap pattern) = .ok c := by
  unfold ofPattern
  split
  · next c hc => exact ⟨fun _ => ⟨c, hc⟩, fun _ => ⟨_, rfl⟩⟩
  · next e he => exact ⟨fun ⟨_, h⟩ => (by cases h), fun ⟨c, hc⟩ => (by rw [he] at hc; cases hc)⟩

/-- A pattern is refused for what its framed text is refused for. -/
theorem ofPattern_refused {pattern : String} {m : ReaderMode} {e : Refusal}
    (h : Pattern.ofText (m.wrap pattern) = .error e) : ofPattern pattern m = .error e := by
  unfold ofPattern
  split
  · next c hc => rw [h] at hc; cases hc
  · next e' he => rw [h] at he; cases he; rfl

/-- A pattern that closes no bracket but those it opens is accepted exactly when it compiles by
itself and does not take in the end of its frame, whatever its text is and however a log is
read. Neither the pattern nor its framed text is too deep or too large. -/
theorem accepted_iff_compiles (pattern : String) (m : ReaderMode)
    (hbrackets : Pattern.ofText pattern ≠ .error .groupUnopened)
    (hlimits : ∀ limit ∈ [Refusal.depth, Refusal.size],
      Pattern.ofText pattern ≠ .error limit ∧ ofPattern pattern m ≠ .error limit) :
    (∃ i, ofPattern pattern m = .ok i) ↔
      (∃ c, Pattern.ofText pattern = .ok c) ∧ ¬m.TakesIn pattern := by
  obtain ⟨-, hdepth⟩ := hlimits .depth (by simp)
  obtain ⟨hsize, hframed⟩ := hlimits .size (by simp)
  rw [ofPattern_ok_iff]
  constructor
  · rintro ⟨c, hc⟩
    obtain ⟨framed, r, hread, hresolve⟩ := exists_tree hc
    obtain ⟨tree, htree, hends, rfl⟩ := ReaderMode.exists_of_readTree_wrap hread fun he =>
      hbrackets (ofText_refused he)
    obtain ⟨_, hr⟩ := (ReaderMode.exists_resolve_modes m tree).mp
      (ReaderMode.exists_of_resolve_frameTree hresolve)
    exact ⟨exists_ofText htree hr hsize, hends⟩
  · rintro ⟨⟨c, hc⟩, hends⟩
    obtain ⟨tree, r, htree, hresolve⟩ := exists_tree hc
    obtain ⟨⟨e, after⟩, hr⟩ := (ReaderMode.exists_resolve_modes m tree).mpr ⟨r, hresolve⟩
    have hread := ReaderMode.readTree_wrap_of htree hends fun he =>
      hdepth (ofPattern_refused (ofText_refused he))
    exact exists_ofText hread (ReaderMode.resolve_frameTree m hr) fun he =>
      hframed (ofPattern_refused he)

/-- What gives something is not refused. -/
theorem ne_error_of_isOk {α : Type} {r : Except Refusal α} (h : r.isOk = true) (e : Refusal) :
    r ≠ .error e := by
  rintro rfl
  cases h

/-- What gives something gives it. -/
theorem exists_of_isOk {α : Type} {r : Except Refusal α} (h : r.isOk = true) : ∃ a, r = .ok a := by
  cases r with
  | ok a => exact ⟨a, rfl⟩
  | error e => cases h

/-- A choice is accepted, and so it compiles by itself and does not take in the end of its
frame. -/
theorem accepted_iff_compiles_branch :
    Pattern.ofText "foo|bar" ≠ .error .groupUnopened ∧
    (∀ limit ∈ [Refusal.depth, Refusal.size], Pattern.ofText "foo|bar" ≠ .error limit ∧
      ofPattern "foo|bar" .singleLine ≠ .error limit) ∧
    (∃ c, Pattern.ofText "foo|bar" = .ok c) ∧ ¬ReaderMode.singleLine.TakesIn "foo|bar" := by
  have halone : (Pattern.ofText "foo|bar").isOk = true := by decide +kernel
  have hframed : (ofPattern "foo|bar" .singleLine).isOk = true := by decide +kernel
  have hlimits : ∀ limit ∈ [Refusal.depth, Refusal.size],
      Pattern.ofText "foo|bar" ≠ .error limit ∧ ofPattern "foo|bar" .singleLine ≠ .error limit :=
    fun limit _ => ⟨ne_error_of_isOk halone limit, ne_error_of_isOk hframed limit⟩
  have hbrackets := ne_error_of_isOk halone .groupUnopened
  exact ⟨hbrackets, hlimits, (accepted_iff_compiles "foo|bar" .singleLine hbrackets hlimits).mp
    (exists_of_isOk hframed)⟩

/-- A text that closes a bracket which it has not opened is accepted if it opens another one,
though it does not compile; and a pattern that ends in a comment compiles, and is refused. -/
theorem accepted_though_refused :
    (∃ i, ofPattern "foo)|(bar" .singleLine = .ok i) ∧
    (¬∃ c, Pattern.ofText "foo)|(bar" = .ok c) ∧
    (∃ c, Pattern.ofText "(?x)a # c" = .ok c) ∧
    ¬∃ i, ofPattern "(?x)a # c" .singleLine = .ok i := by
  have hnone : ∀ {α : Type} {r : Except Refusal α}, r.isOk = false → ¬∃ a, r = .ok a := by
    rintro α _ h ⟨a, rfl⟩
    cases h
  exact ⟨exists_of_isOk (by decide +kernel), hnone (by decide +kernel),
    exists_of_isOk (by decide +kernel), hnone (by decide +kernel)⟩

end Indication

end BuildTriage
