import BuildTriage.Pattern.Basic
import BuildTriage.Proofs.Pattern.Program
import BuildTriage.Text.Bytes

/-!
# A search finds matches only

Every thread of a search stands where a way through the program leads from the place where
its match began, and this is kept when threads are followed and when a character is taken.
So a match that is found is one of the expression, and its bytes are those before and after
the text that it matches.
-/

namespace BuildTriage.Pattern

open Text

/-- A thread stands between two parts of a text where a way through the program leads, from
the place where its match began. -/
def Thread.Stands (p : Program) (done rest : List Char) (t : Thread) : Prop :=
  ∃ front hit n, done = front ++ hit ∧ t.start = byteLength front ∧
    Path p.insts n ⟨p.start, front, hit ++ rest⟩ ⟨t.pc, done, rest⟩

/-- The bytes of a match: a way through the program leads from the first of them to where
the pattern has matched. -/
def Program.Hits (p : Program) (text : List Char) (bytes : Nat × Nat) : Prop :=
  ∃ front hit back n pc, text = front ++ hit ++ back ∧
    bytes = (byteLength front, byteLength (front ++ hit)) ∧
    Path p.insts n ⟨p.start, front, hit ++ back⟩ ⟨pc, front ++ hit, back⟩ ∧
    p.insts[pc]? = some .accept

variable {p : Program} {text done rest : List Char}

/-- A thread that has not taken a character stands where its match begins. -/
theorem Thread.stands_start (p : Program) (done rest : List Char) :
    Thread.Stands p done rest ⟨p.start, byteLength done⟩ :=
  ⟨done, [], 0, (List.append_nil done).symm, rfl, .refl _⟩

/-- A thread stands where an instruction leads it that takes no character. -/
theorem Thread.Stands.step {pc next start : Nat} (h : Stands p done rest ⟨pc, start⟩)
    (hs : Step p.insts ⟨pc, done, rest⟩ ⟨next, done, rest⟩) :
    Stands p done rest ⟨next, start⟩ := by
  obtain ⟨front, hit, n, hd, hb, hp⟩ := h
  exact ⟨front, hit, n + 1, hd, hb, hp.snoc hs⟩

/-- A thread stands after the character that it takes. -/
theorem Thread.Stands.take {pc next start : Nat} {c : Char}
    (h : Stands p done (c :: rest) ⟨pc, start⟩)
    (hs : Step p.insts ⟨pc, done, c :: rest⟩ ⟨next, done ++ [c], rest⟩) :
    Stands p (done ++ [c]) rest ⟨next, start⟩ := by
  obtain ⟨front, hit, n, hd, hb, hp⟩ := h
  refine ⟨front, hit ++ [c], n + 1, by rw [hd, List.append_assoc], hb, ?_⟩
  rw [List.append_assoc]
  exact hp.snoc hs

/-- A thread that has come to where the pattern has matched gives a match. -/
theorem Thread.Stands.hits {t : Thread} (h : t.Stands p done rest)
    (ht : text = done ++ rest) (ha : p.insts[t.pc]? = some .accept) :
    p.Hits text (t.start, byteLength done) := by
  obtain ⟨front, hit, n, rfl, hb, hp⟩ := h
  exact ⟨front, hit, rest, n, t.pc, ht, by rw [hb], hp, ha⟩

/-- Following threads that stand somewhere gives threads that do. -/
theorem follow_stands (start mark : Nat) (fuel : Nat) (pcs : List Nat) (f : Frontier)
    (hpcs : ∀ pc ∈ pcs, Thread.Stands p done rest ⟨pc, start⟩)
    (hf : ∀ t ∈ f.threads, t.Stands p done rest) :
    ∀ t ∈ (follow p.insts done.getLast? rest.head? start mark fuel pcs f).threads,
      t.Stands p done rest := by
  induction fuel generalizing pcs f with
  | zero => simpa only [follow] using hf
  | succ fuel ih =>
    cases pcs with
    | nil => simpa only [follow] using hf
    | cons pc more =>
      obtain ⟨hpc, hmore⟩ := List.forall_mem_cons.mp hpcs
      rw [follow]
      split
      · exact ih more f hmore hf
      · dsimp only
        split
        · next targets hi =>
          refine ih _ _ (List.forall_mem_append.mpr ⟨fun target ht => ?_, hmore⟩) hf
          exact hpc.step (.split hi ht)
        · next l next hi =>
          split
          · next hl =>
            exact ih _ _ (List.forall_mem_cons.mpr ⟨hpc.step (.check hi hl), hmore⟩) hf
          · exact ih _ _ hmore hf
        · refine ih _ _ hmore fun t ht => ?_
          rcases Array.mem_push.mp ht with ht | rfl
          · exact hf t ht
          · exact hpc
        · exact ih _ _ hmore hf

/-- The match that is found by threads that stand somewhere is one. -/
theorem advance_hits (fuel mark : Nat) (c after : Option Char) (threads : List Thread)
    (f : Frontier) (found : Option (Nat × Nat)) (ht : text = done ++ rest)
    (hthreads : ∀ t ∈ threads, t.Stands p done rest) (hfound : ∀ m ∈ found, p.Hits text m) :
    ∀ m ∈ (advance p fuel (byteLength done) c after mark threads f found).2, p.Hits text m := by
  induction threads generalizing f with
  | nil => simpa only [advance] using hfound
  | cons t more ih =>
    obtain ⟨hstands, hmore⟩ := List.forall_mem_cons.mp hthreads
    unfold advance
    split
    · next ha =>
      intro m hm
      rw [← Option.some.inj hm]
      exact hstands.hits ht ha
    · exact ih _ hmore
    · exact ih _ hmore

/-- Taking a character gives threads that stand after it. -/
theorem advance_stands (fuel mark here : Nat) (c : Char) (threads : List Thread) (f : Frontier)
    (found : Option (Nat × Nat)) (hthreads : ∀ t ∈ threads, t.Stands p done (c :: rest))
    (hf : ∀ t ∈ f.threads, t.Stands p (done ++ [c]) rest) :
    ∀ t ∈ (advance p fuel here (some c) rest.head? mark threads f found).1.threads,
      t.Stands p (done ++ [c]) rest := by
  induction threads generalizing f with
  | nil => simpa only [advance] using hf
  | cons t more ih =>
    obtain ⟨hstands, hmore⟩ := List.forall_mem_cons.mp hthreads
    unfold advance
    split
    · exact hf
    · next s next x hi hx =>
      obtain rfl := Option.some.inj hx
      refine ih _ hmore ?_
      split
      · next hs =>
        have htaken : ∀ pc ∈ [next], Thread.Stands p (done ++ [c]) rest ⟨pc, t.start⟩ :=
          List.forall_mem_singleton.mpr (hstands.take (.take hi hs))
        have hfollow := follow_stands t.start mark fuel [next] f htaken hf
        simpa only [List.getLast?_concat] using hfollow
      · exact hf
    · exact ih _ hmore hf

/-- Where no match is under way, a thread starts that stands there. -/
theorem entered_stands (fuel mark : Nat) (found : Option (Nat × Nat)) (f : Frontier)
    (hf : ∀ t ∈ f.threads, t.Stands p done rest) :
    ∀ t ∈ (if found.isSome then f else follow p.insts done.getLast? rest.head?
      (byteLength done) mark fuel [p.start] f).threads.toList, t.Stands p done rest := by
  intro t hmem
  rw [Array.mem_toList_iff] at hmem
  revert t
  split
  · exact hf
  · exact follow_stands _ mark fuel [p.start] f
      (List.forall_mem_singleton.mpr (Thread.stands_start p done rest)) hf

/-- A search from a place in the text finds matches only. -/
theorem searchFrom_hits (fuel mark : Nat) (cs : List Char) (f : Frontier)
    (found : Option (Nat × Nat)) (ht : text = done ++ cs)
    (hf : ∀ t ∈ f.threads, t.Stands p done cs) (hfound : ∀ m ∈ found, p.Hits text m) :
    ∀ m ∈ searchFrom p fuel cs (byteLength done) done.getLast? mark f found, p.Hits text m := by
  induction cs generalizing done mark f found with
  | nil =>
    have hthreads := entered_stands fuel mark found f hf
    rw [searchFrom]
    exact advance_hits fuel (mark + 1) none none _ _ found ht hthreads hfound
  | cons c rest ih =>
    have hthreads := entered_stands fuel mark found f hf
    rw [searchFrom]
    dsimp only at hthreads ⊢
    generalize (if found.isSome = true then f else follow p.insts done.getLast? (c :: rest).head?
      (byteLength done) mark fuel [p.start] f) = g at hthreads ⊢
    have hnext := advance_stands fuel (mark + 1) (byteLength done) c _ ⟨#[], g.marks⟩ found
      hthreads (by simp)
    have hhits := advance_hits fuel (mark + 1) (some c) rest.head? _ ⟨#[], g.marks⟩ found ht
      hthreads hfound
    split
    · exact hhits
    · have hsplit : text = (done ++ [c]) ++ rest := by rw [ht, List.append_assoc]; rfl
      have hrest := ih (mark + 1) _ _ hsplit hnext hhits
      simpa only [byteLength_append, byteLength_cons, byteLength_nil, Nat.add_zero,
        List.getLast?_concat] using hrest

/-- The bytes that a search for an expression answers are those of a part of the text that
the expression matches. -/
theorem search_matches {e : Expr} {bytes : Nat × Nat} (h : e.program.search text = some bytes) :
    ∃ front hit back, text = front ++ hit ++ back ∧
      bytes = (byteLength front, byteLength (front ++ hit)) ∧ e.Matches front hit back := by
  have hsplit : text = [] ++ text := rfl
  have hhits := searchFrom_hits e.program.followSteps 1 text
    ⟨#[], Array.replicate e.program.insts.size 0⟩ none hsplit (by simp) (by simp) bytes h
  obtain ⟨front, hit, back, n, pc, ht, hb, hp, ha⟩ := hhits
  obtain ⟨found, hsplit, hdone, hmatch⟩ := program_matches hp ha
  obtain rfl := List.append_cancel_left hdone
  exact ⟨front, hit, back, ht, hb, hmatch⟩

/-- A compiled pattern has the expression that its source is read as, and its program. -/
theorem read_of_ofText {p : Pattern} {source : String} (h : Pattern.ofText source = .ok p) :
    Expr.read source.toList = .ok p.expr ∧ p.program = p.expr.program := by
  unfold Pattern.ofText at h
  cases he : Expr.read source.toList with
  | error r => rw [he] at h; exact absurd h (by simp [bind, Except.bind])
  | ok e =>
    rw [he] at h
    simp only [bind, Except.bind] at h
    split at h
    · exact absurd h (by simp)
    · rw [← Except.ok.inj h]
      exact ⟨rfl, rfl⟩

/-- What a compiled pattern finds in a text is matched by its expression. -/
theorem find_matches {p : Pattern} {source : String} {bytes : Nat × Nat}
    (hp : Pattern.ofText source = .ok p) (h : p.find text = some bytes) :
    ∃ front hit back, text = front ++ hit ++ back ∧
      bytes = (byteLength front, byteLength (front ++ hit)) ∧ p.expr.Matches front hit back := by
  rw [Pattern.find, (read_of_ofText hp).2] at h
  exact search_matches h

end BuildTriage.Pattern
