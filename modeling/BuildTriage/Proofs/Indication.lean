import BuildTriage.Indication
import BuildTriage.Proofs.Pattern.Reading.Body
import BuildTriage.Proofs.Pattern.Search
import BuildTriage.Proofs.Scan.Truth

/-!
# Framed patterns

A pattern that is an expression by itself keeps its meaning in its frame: the framed text
reads as the frame around the tree of the pattern. Read line by line, it then matches whole
lines only. A text that is no expression by itself may close the group of the frame and open
another one, and its framed text may match a part of a line.
-/

namespace BuildTriage

open Pattern Text

namespace Pattern

/-- The characters of a line before or after what a pattern matches, as few as will do. -/
def others : Tree :=
  .repeated (.bracket true (.union [.literal ⟨'\r', false⟩, .literal ⟨'\n', false⟩])) 0 none false

/-- The frame of a line is read up to the pattern, and the pattern as the body of a group. -/
theorem readBody_lineStart (n : Nat) (cs : List Char) :
    readBody (n + 2) false [] [] [] ('^' :: '(' :: '?' :: ':' :: cs) = (do
      let (body, names, rest) ← readBody n false [] [] [] cs
      match rest with
      | ')' :: rest => readBody n false names [] [.group [] body, .anchor .lineStart] rest
      | _ => throw .groupUnclosed) :=
  rfl

/-- The rest of the frame of a line. -/
theorem readBody_lineEnd (n : Nat) (names : List String) (tree : Tree) :
    readBody (n + 2) false names [] [.group [] tree, .anchor .lineStart] ['$'] =
      .ok (.sequence [.anchor .lineStart, .group [] tree, .anchor .lineEnd], names, []) :=
  rfl

/-- The frame of several lines is read up to the pattern, and the pattern as the body of a
group. -/
theorem readBody_linesStart (n : Nat) (cs : List Char) :
    readBody (n + 5) false [] [] [] ('(' :: '?' :: 'm' :: 's' :: ')' :: '^' :: '[' :: '^' ::
        '\\' :: 'r' :: '\\' :: 'n' :: ']' :: '*' :: '?' :: '(' :: '?' :: ':' :: cs) = (do
      let (body, names, rest) ← readBody n false [] [] [] cs
      match rest with
      | ')' :: rest => readBody n false names [] [.group [] body, others, .anchor .lineStart,
          .settings [(.multiLine, true), (.dotAll, true)]] rest
      | _ => throw .groupUnclosed) :=
  rfl

/-- The rest of the frame of several lines. -/
theorem readBody_linesEnd (n : Nat) (names : List String) (tree : Tree) :
    readBody (n + 4) false names [] [.group [] tree, others, .anchor .lineStart,
        .settings [(.multiLine, true), (.dotAll, true)]]
        ['[', '^', '\\', 'r', '\\', 'n', ']', '*', '?', '$'] =
      .ok (.sequence [.settings [(.multiLine, true), (.dotAll, true)], .anchor .lineStart, others,
        .group [] tree, others, .anchor .lineEnd], names, []) :=
  rfl

/-- What is read after a group that a pattern fills. -/
theorem readBody_filled {tail cs : List Char} {tree : Tree} {fuel : Nat} {parts : List Tree}
    {read : Tree × List String × List Char} (q : Quiet tail) (ht : Tree.read cs = .ok tree)
    (hf : cs.length + 1 ≤ fuel) (h : (do
      let (body, names, rest) ← readBody fuel false [] [] [] (cs ++ ')' :: tail)
      match rest with
      | ')' :: rest => readBody fuel false names [] (.group [] body :: parts) rest
      | _ => throw Refusal.groupUnclosed) = .ok read) :
    ∃ names, readBody fuel false names [] (.group [] tree :: parts) tail = .ok read := by
  obtain ⟨names, rest, hbody, rfl | rfl⟩ := readBody_enclosed q ht hf
  · rw [hbody] at h
    exact ⟨names, h⟩
  · rw [hbody] at h
    exact absurd h (by simp [bind, Except.bind, throw, throwThe, MonadExceptOf.throw])

/-- A group keeps the flags around it. -/
theorem resolve_group {m after : Modes} {tree : Tree} {e : Expr}
    (h : tree.resolve m = .ok (e, after)) : (Tree.group [] tree).resolve m = .ok (e, m) := by
  rw [Tree.resolve]
  simp only [Modes.applyAll, List.foldl_nil, h]
  rfl

/-- Parts in a row mean what they mean one after the other. -/
theorem resolveAll_cons {m next after : Modes} {tree : Tree} {rest : List Tree} {e : Expr}
    {es : List Expr} (h : tree.resolve m = .ok (e, next))
    (hrest : Tree.resolveAll next rest = .ok (es, after)) :
    Tree.resolveAll m (tree :: rest) = .ok (e :: es, after) := by
  rw [Tree.resolveAll]
  simp only [h, hrest, bind, Except.bind]
  rfl

theorem resolve_sequence {m after : Modes} {parts : List Tree} {es : List Expr}
    (h : Tree.resolveAll m parts = .ok (es, after)) :
    (Tree.sequence parts).resolve m = .ok (.sequence es, after) := by
  rw [Tree.resolve]
  simp only [h]
  rfl

end Pattern

namespace ReaderMode

/-- The tree of a framed pattern. -/
def frameTree (m : ReaderMode) (tree : Tree) : Tree :=
  match m with
  | .singleLine => .sequence [.anchor .lineStart, .group [] tree, .anchor .lineEnd]
  | .multiLine => .sequence [.settings [(.multiLine, true), (.dotAll, true)], .anchor .lineStart,
      others, .group [] tree, others, .anchor .lineEnd]

/-- The framed text of a pattern, character by character. -/
theorem wrap_toList (m : ReaderMode) (pattern : String) :
    (m.wrap pattern).toList = m.frame.1.toList ++ (pattern.toList ++ m.frame.2.toList) := by
  simp only [wrap, String.toList_append, List.append_assoc]

/-- A pattern that is read by itself is read as the same tree within its frame. -/
theorem readTree_wrap {m : ReaderMode} {pattern : String} {tree framed : Tree}
    (ht : Tree.read pattern.toList = .ok tree)
    (hf : Tree.read (m.wrap pattern).toList = .ok framed) : framed = m.frameTree tree := by
  obtain ⟨names, hbody⟩ := readBody_of_read hf
  rw [wrap_toList] at hbody
  generalize pattern.toList = cs at ht hbody
  cases m with
  | singleLine =>
    have htext : singleLine.frame.1.toList ++ (cs ++ singleLine.frame.2.toList) =
        '^' :: '(' :: '?' :: ':' :: (cs ++ [')', '$']) := by simp [frame]
    have hlength : ('^' :: '(' :: '?' :: ':' :: (cs ++ [')', '$'])).length + 1 =
        (cs.length + 5) + 2 := by simp
    rw [htext, hlength, readBody_lineStart] at hbody
    obtain ⟨names', hclose⟩ := readBody_filled ⟨by decide, by decide⟩ ht (by omega) hbody
    rw [readBody_lineEnd] at hclose
    exact (Prod.mk.inj (Except.ok.inj hclose)).1.symm
  | multiLine =>
    have htext : multiLine.frame.1.toList ++ (cs ++ multiLine.frame.2.toList) =
        '(' :: '?' :: 'm' :: 's' :: ')' :: '^' :: '[' :: '^' :: '\\' :: 'r' :: '\\' :: 'n' ::
          ']' :: '*' :: '?' :: '(' :: '?' :: ':' ::
          (cs ++ [')', '[', '^', '\\', 'r', '\\', 'n', ']', '*', '?', '$']) := by simp [frame]
    have hlength : ('(' :: '?' :: 'm' :: 's' :: ')' :: '^' :: '[' :: '^' :: '\\' :: 'r' :: '\\' ::
        'n' :: ']' :: '*' :: '?' :: '(' :: '?' :: ':' ::
        (cs ++ [')', '[', '^', '\\', 'r', '\\', 'n', ']', '*', '?', '$'])).length + 1 =
        (cs.length + 25) + 5 := by simp
    rw [htext, hlength, readBody_linesStart] at hbody
    obtain ⟨names', hclose⟩ := readBody_filled ⟨by decide, by decide⟩ ht (by omega) hbody
    rw [readBody_linesEnd] at hclose
    exact (Prod.mk.inj (Except.ok.inj hclose)).1.symm

/-- The flags that hold for a pattern within its frame. -/
def modes : ReaderMode → Modes
  | .singleLine => {}
  | .multiLine => { multiLine := true, dotAll := true }

/-- What is matched before and after a pattern in its lines. -/
def othersExpr : Expr :=
  .repeated (.set [(0, 0x09), (0x0B, 0x0C), (0x0E, Charset.top)]) 0 none false

theorem resolve_others :
    others.resolve multiLine.modes = .ok (othersExpr, multiLine.modes) := by
  have hset : ClassTree.set multiLine.modes
      (.union [.literal ⟨'\r', false⟩, .literal ⟨'\n', false⟩]) =
        .ok [(0x0A, 0x0A), (0x0D, 0x0D)] := rfl
  have hothers : multiLine.modes.finish true (multiLine.modes.fold [(0x0A, 0x0A), (0x0D, 0x0D)]) =
      .ok [(0, 0x09), (0x0B, 0x0C), (0x0E, Charset.top)] := rfl
  rw [others, Tree.resolve, Tree.resolve, hset]
  simp only [hothers, bind, Except.bind, pure, Except.pure]
  rfl

/-- The expression of a framed pattern. -/
def frameExpr (m : ReaderMode) (e : Expr) : Expr :=
  match m with
  | .singleLine => .sequence [.look .textStart, e, .look .textEnd]
  | .multiLine => .sequence [.empty, .look .lineStart, othersExpr, e, othersExpr, .look .lineEnd]

/-- What the frame around a tree means is the frame around what the tree means. -/
theorem resolve_frameTree (m : ReaderMode) {tree : Tree} {e : Expr} {after : Modes}
    (h : tree.resolve m.modes = .ok (e, after)) :
    (m.frameTree tree).resolve {} = .ok (m.frameExpr e, m.modes) := by
  have hgroup := resolve_group h
  cases m with
  | singleLine =>
    exact resolve_sequence (resolveAll_cons rfl (resolveAll_cons hgroup (resolveAll_cons rfl rfl)))
  | multiLine =>
    exact resolve_sequence (resolveAll_cons rfl (resolveAll_cons rfl (resolveAll_cons resolve_others
      (resolveAll_cons hgroup (resolveAll_cons resolve_others (resolveAll_cons rfl rfl))))))

/-- The expression that a pattern is by itself, under the flags that hold for it within its
frame. -/
def read (m : ReaderMode) (pattern : String) : Except Refusal Expr := do
  let tree ← Tree.read pattern.toList
  let (e, _) ← tree.resolve m.modes
  return e

/-- What a framed pattern means is the frame around what the pattern means by itself. -/
theorem read_wrap {m : ReaderMode} {pattern : String} {e framed : Expr}
    (h : m.read pattern = .ok e) (hf : Expr.read (m.wrap pattern).toList = .ok framed) :
    framed = m.frameExpr e := by
  obtain ⟨tree, htree, h⟩ := exists_of_bind_ok h
  obtain ⟨meaning, hmeaning, h⟩ := exists_of_bind_ok h
  obtain rfl := Except.ok.inj h
  obtain ⟨framedTree, hframed, hf⟩ := exists_of_bind_ok hf
  rw [readTree_wrap htree hframed, resolve_frameTree m hmeaning] at hf
  exact (Except.ok.inj hf).symm

end ReaderMode

namespace Indication

/-- What an indication finds in a text is matched by its own expression in the frame. -/
theorem find_matches {i : Indication} {e : Expr} {text : List Char} {bytes : Nat × Nat}
    (he : i.mode.read i.pattern = .ok e) (h : i.compiled.find text = some bytes) :
    ∃ front hit back, text = front ++ hit ++ back ∧
      bytes = (byteLength front, byteLength (front ++ hit)) ∧
      (i.mode.frameExpr e).Matches front hit back := by
  rw [← ReaderMode.read_wrap he (read_of_ofText i.compiles).1]
  exact Pattern.find_matches i.compiles h

/-- The search for an indication is a matcher whose ranges lie between characters. -/
theorem find_onBoundaries (i : Indication) : Scan.Matcher.OnBoundaries i.compiled.find := by
  intro text bytes h
  obtain ⟨front, hit, back, htext, hbytes, -⟩ := Pattern.find_matches i.compiles h
  exact ⟨front, hit, back, htext, hbytes⟩

/-- Read line by line, the frame matches whole texts only. -/
theorem frameExpr_singleLine {e : Expr} {front hit back : List Char}
    (h : (ReaderMode.singleLine.frameExpr e).Matches front hit back) :
    front = [] ∧ back = [] ∧ e.Matches [] hit [] := by
  unfold ReaderMode.frameExpr at h
  obtain ⟨_, _, rfl, hbefore, h⟩ := Expr.matches_cons.mp h
  obtain ⟨rfl, hstart⟩ := Expr.matches_look.mp hbefore
  obtain ⟨covered, _, rfl, hcovered, h⟩ := Expr.matches_cons.mp h
  obtain ⟨_, _, rfl, hafter, h⟩ := Expr.matches_cons.mp h
  obtain ⟨rfl, hend⟩ := Expr.matches_look.mp hafter
  obtain rfl := Expr.matches_nil.mp h
  have hfront : front = [] := by simpa [Look.holds] using hstart
  have hback : back = [] := by simpa [Look.holds] using hend
  subst hfront hback
  refine ⟨rfl, rfl, ?_⟩
  simpa using hcovered

/-- An indication that is read line by line, and whose pattern is an expression by itself,
matches whole lines only: a match goes from the first byte of a line to its end, and the
expression covers the line. So does each line that a scan reports. -/
theorem find_wholeLine (i : Indication) (e : Expr) (hmode : i.mode = .singleLine)
    (he : i.mode.read i.pattern = .ok e) :
    (∀ (line : String) (bytes : Nat × Nat), i.find line = some bytes →
      bytes = (0, byteLength line.toList) ∧ e.Matches [] line.toList []) ∧
    ∀ (lines : List String) (file : String) (turns : List (Scan.Turn (String × Nat)))
      (a : Scan.Allowance) (f : FoundIndication),
      turns.map (·.item) = Scan.Scanner.lineItems lines →
      (Scan.Scanner.scanLines i.compiled.find i.pattern file turns a).1.found = some f →
      ∃ n line, lines[n]? = some line ∧ e.Matches [] line.toList [] ∧
        f = .ofMatch i.pattern file (UInt64.ofNat (n + 1)) line := by
  have hline : ∀ (line : String) (bytes : Nat × Nat), i.find line = some bytes →
      bytes = (0, byteLength line.toList) ∧ e.Matches [] line.toList [] := by
    intro line bytes h
    obtain ⟨front, hit, back, htext, hbytes, hmatch⟩ := find_matches he h
    rw [hmode] at hmatch
    obtain ⟨rfl, rfl, hcovered⟩ := frameExpr_singleLine hmatch
    rw [List.nil_append, List.append_nil] at htext
    rw [hbytes, htext]
    exact ⟨rfl, hcovered⟩
  refine ⟨hline, fun lines file turns a f hitems hfound => ?_⟩
  obtain ⟨item, hitem, bytes, hhit, rfl⟩ := Scan.Scanner.exists_hit_of_found hfound
  rw [hitems] at hitem
  exact ⟨item.2, item.1, List.mk_mem_zipIdx_iff_getElem?.mp hitem, (hline item.1 bytes hhit).2, rfl⟩

/-- A pattern is accepted, and something of its compiled form known, if that form has been
computed. -/
theorem exists_ofPattern {α : Type} {pattern : String} {mode : ReaderMode} {run : Pattern → α}
    {x : α} (h : ((Pattern.ofText (mode.wrap pattern)).map run).toOption = some x) :
    ∃ i : Indication, ofPattern pattern mode = .ok i ∧ i.pattern = pattern ∧ i.mode = mode ∧
      run i.compiled = x := by
  unfold ofPattern
  split
  · next p hp =>
    rw [hp] at h
    exact ⟨_, rfl, rfl, rfl, Option.some.inj h⟩
  · next r hr =>
    rw [hr] at h
    exact absurd h nofun

/-- A pattern is an expression by itself, if it has been found to be one. -/
theorem exists_read {pattern : String} {mode : ReaderMode} (h : (mode.read pattern).isOk = true) :
    ∃ e, mode.read pattern = .ok e := by
  cases he : mode.read pattern with
  | error r => rw [he] at h; exact absurd h nofun
  | ok e => exact ⟨e, rfl⟩

/-- One of two branches covers the second line of a log. -/
theorem find_wholeLine_branch :
    let lines := ["foobar", "bar"]
    let turns := [⟨("foobar", 0), .answered, []⟩, ⟨("bar", 1), .answered, []⟩]
    ∃ (i : Indication) (e : Expr), ofPattern "foo|bar" .singleLine = .ok i ∧
      ReaderMode.singleLine.read "foo|bar" = .ok e ∧ e.Matches [] "bar".toList [] ∧
      (Scan.Scanner.scanLines i.compiled.find "foo|bar" "log" turns (.fresh 16)).1.found =
        some (.ofMatch "foo|bar" "log" 2 "bar") ∧
      ∃ (n : Nat) (line : String), lines[n]? = some line ∧ e.Matches [] line.toList [] := by
  intro lines turns
  have hrun : ((Pattern.ofText (ReaderMode.singleLine.wrap "foo|bar")).map fun p =>
      (p.find "bar".toList,
        (Scan.Scanner.scanLines p.find "foo|bar" "log" turns (.fresh 16)).1.found)).toOption =
      some (some (0, 3), some (.ofMatch "foo|bar" "log" 2 "bar")) := by decide +kernel
  obtain ⟨i, hi, hpattern, hmode, hboth⟩ := exists_ofPattern hrun
  obtain ⟨hfind, hscan⟩ := Prod.mk.inj hboth
  have hread : (ReaderMode.singleLine.read "foo|bar").isOk = true := by decide +kernel
  obtain ⟨e, he⟩ := exists_read hread
  obtain ⟨hline, hreport⟩ := find_wholeLine i e hmode (by rw [hmode, hpattern, he])
  obtain ⟨n, line, hn, hcovered, -⟩ :=
    hreport lines "log" turns (.fresh 16) _ rfl (by rw [hpattern, hscan])
  exact ⟨i, e, hi, he, (hline "bar" (0, 3) hfind).2, hscan, n, line, hn, hcovered⟩

/-- A pattern that closes the group of its frame and opens another is accepted, and matches a
part of a line only. -/
theorem find_partOfLine : ∃ i : Indication, ofPattern "foo)|(bar" .singleLine = .ok i ∧
    i.find "foozz" = some (0, 3) ∧ byteLength "foozz".toList = 5 := by
  have hrun : ((Pattern.ofText (ReaderMode.singleLine.wrap "foo)|(bar")).map
      (·.find "foozz".toList)).toOption = some (some (0, 3)) := by decide +kernel
  obtain ⟨i, hi, -, -, hfind⟩ := exists_ofPattern hrun
  exact ⟨i, hi, hfind, by decide⟩

end Indication

end BuildTriage
