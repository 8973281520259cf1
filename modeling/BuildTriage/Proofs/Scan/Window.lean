import BuildTriage.Scan.Report

/-!
# Windows over a text

A window is cut from the text at its start, and the windows before it hide nothing from
it: a stretch of at most as many bytes as two windows share lies in the first window, or
behind the place where the next one starts.
-/

namespace BuildTriage

namespace Text

/-- A text is cut at the end of a part by the bytes of that part. -/
theorem countBytes_byteLength (a b : List Char) :
    countBytes (byteLength a) (a ++ b) 0 = a.length := by
  induction a with
  | nil => cases b <;> simp [countBytes]
  | cons c a ih =>
    have hpos := c.utf8Size_pos
    have hne : c.utf8Size + byteLength a ≠ 0 := by omega
    have hsub : c.utf8Size + byteLength a - c.utf8Size = byteLength a := by omega
    rw [List.cons_append, byteLength_cons, countBytes, if_neg hne, countBytes_add, hsub, ih,
      List.length_cons]

theorem takeBytes_byteLength (a b : List Char) : takeBytes (byteLength a) (a ++ b) = a := by
  rw [takeBytes, countBytes_byteLength, List.take_left]

theorem dropBytes_byteLength (a b : List Char) : dropBytes (byteLength a) (a ++ b) = b := by
  rw [dropBytes, countBytes_byteLength, List.drop_left]

/-- A part of a text is what stands between the places where it begins and ends. -/
theorem sliceBytes_byteLength (a b c : List Char) :
    sliceBytes (byteLength a) (byteLength (a ++ b)) (a ++ b ++ c) = b := by
  have hsub : byteLength (a ++ b) - byteLength a = byteLength b := by
    rw [byteLength_append]
    omega
  rw [sliceBytes, hsub, List.append_assoc, dropBytes_byteLength, takeBytes_byteLength]

/-- A beginning of a text has no more bytes than the text. -/
theorem byteLength_le_of_isPrefix {a l : List Char} (h : a <+: l) :
    byteLength a ≤ byteLength l := by
  obtain ⟨b, rfl⟩ := h
  rw [byteLength_append]
  omega

/-- Only the empty text has no bytes. -/
theorem eq_nil_of_byteLength {a : List Char} (h : byteLength a = 0) : a = [] := by
  cases a with
  | nil => rfl
  | cons c a =>
    have hpos := c.utf8Size_pos
    rw [byteLength_cons] at h
    omega

/-- Of two beginnings of a text, the one with fewer bytes begins the other. -/
theorem isPrefix_of_byteLength_le {a b l : List Char} (ha : a <+: l) (hb : b <+: l)
    (h : byteLength a ≤ byteLength b) : a <+: b := by
  rcases List.prefix_or_prefix_of_prefix ha hb with hab | ⟨c, hc⟩
  · exact hab
  · rw [← hc, byteLength_append] at h
    have hnil : c = [] := eq_nil_of_byteLength (by omega)
    exact ⟨[], by rw [← hc, hnil, List.append_nil, List.append_nil]⟩

/-- Two beginnings of a text with equally many bytes are the same. -/
theorem eq_of_byteLength_eq {a b l : List Char} (ha : a <+: l) (hb : b <+: l)
    (h : byteLength a = byteLength b) : a = b := by
  have hab := isPrefix_of_byteLength_le ha hb (Nat.le_of_eq h)
  have hba := isPrefix_of_byteLength_le hb ha (Nat.le_of_eq h.symm)
  exact hab.eq_of_length_le hba.length_le

/-- A beginning of a text with at least so many bytes begins with the shortest one. -/
theorem takeBytes_isPrefix {n : Nat} {a l : List Char} (ha : a <+: l) (h : n ≤ byteLength a) :
    takeBytes n l <+: a := by
  obtain ⟨b, rfl⟩ := ha
  induction a generalizing n with
  | nil =>
    rw [byteLength_nil, Nat.le_zero] at h
    subst h
    cases b <;> simp [takeBytes, countBytes]
  | cons c a ih =>
    by_cases hn : n = 0
    · subst hn
      simp [takeBytes, countBytes]
    · rw [byteLength_cons] at h
      have hrest := ih (show n - c.utf8Size ≤ byteLength a by omega)
      rw [List.cons_append, takeBytes, countBytes, if_neg hn, countBytes_add, List.take_succ_cons,
        List.cons_prefix_cons]
      exact ⟨rfl, hrest⟩

/-- All characters of a text that has no more bytes than asked for count. -/
theorem countBytes_of_le {n : Nat} {l : List Char} (h : byteLength l ≤ n) :
    countBytes n l 0 = l.length := by
  induction l generalizing n with
  | nil => rfl
  | cons c l ih =>
    have hpos := c.utf8Size_pos
    rw [byteLength_cons] at h
    have hn : n ≠ 0 := by omega
    have hrest := ih (show byteLength l ≤ n - c.utf8Size by omega)
    rw [countBytes, if_neg hn, countBytes_add, hrest, List.length_cons]

/-- A text that has no more bytes than asked for is not cut. -/
theorem takeBytes_of_le {n : Nat} {l : List Char} (h : byteLength l ≤ n) : takeBytes n l = l := by
  rw [takeBytes, countBytes_of_le h, List.take_length]

end Text

namespace Scan.Window

open Text

/-- Where a window is not the last one, the next one starts further on. -/
theorem length_dropBytes_stride {size start : Nat} {rest : List Char} (overlap : Nat)
    (h : (front size start rest).length ≠ rest.length) :
    (dropBytes ((front size start rest).stride overlap) rest).length < rest.length := by
  have hpos : 0 < (front size start rest).stride overlap := by
    unfold stride
    omega
  refine length_dropBytes_lt hpos ?_
  rintro rfl
  exact h rfl

/-- The windows found so far come first. -/
theorem slide_append (size overlap start : Nat) (rest : List Char) (done : List Window) :
    slide size overlap start rest done = done.reverse ++ slide size overlap start rest [] := by
  induction hn : rest.length using Nat.strongRecOn generalizing start rest done with
  | ind n ih =>
    subst hn
    rw [slide.eq_1, slide.eq_1 size overlap start rest []]
    by_cases h : (front size start rest).length = rest.length
    · rw [if_pos h, if_pos h, List.reverse_cons, List.reverse_singleton]
    · have hlt := length_dropBytes_stride overlap h
      rw [if_neg h, if_neg h]
      dsimp only
      rw [ih _ hlt _ _ (_ :: done) rfl, ih _ hlt _ _ [_] rfl, List.reverse_cons,
        List.reverse_singleton, List.append_assoc]

/-- The last window over a text. -/
theorem slide_last {size start : Nat} {rest : List Char} (overlap : Nat)
    (h : (front size start rest).length = rest.length) :
    slide size overlap start rest [] = [front size start rest] := by
  rw [slide.eq_1, if_pos h, List.reverse_singleton]

/-- A window before others. -/
theorem slide_next {size start : Nat} {rest : List Char} (overlap : Nat)
    (h : (front size start rest).length ≠ rest.length) :
    slide size overlap start rest [] = front size start rest ::
      slide size overlap
        (start + byteLength (takeBytes ((front size start rest).stride overlap) rest))
        (dropBytes ((front size start rest).stride overlap) rest) [] := by
  rw [slide.eq_1, if_neg h]
  dsimp only
  rw [slide_append, List.reverse_singleton, List.singleton_append]

/-- What holds of the last window over a text, and of a window before others when it holds of
those, holds of the windows over any text. -/
theorem slide_induction {size overlap : Nat} {P : Nat → List Char → List Window → Prop}
    (last : ∀ start rest, (front size start rest).length = rest.length →
      P start rest [front size start rest])
    (next : ∀ start rest step ws, (front size start rest).length ≠ rest.length →
      step = (front size start rest).stride overlap →
      P (start + byteLength (takeBytes step rest)) (dropBytes step rest) ws →
      P start rest (front size start rest :: ws))
    (start : Nat) (rest : List Char) : P start rest (slide size overlap start rest []) := by
  induction hn : rest.length using Nat.strongRecOn generalizing start rest with
  | ind n ih =>
    subst hn
    by_cases h : (front size start rest).length = rest.length
    · rw [slide_last overlap h]
      exact last start rest h
    · rw [slide_next overlap h]
      exact next start rest _ _ h rfl (ih _ (length_dropBytes_stride overlap h) _ _ rfl)

/-- The characters of a window are the shortest beginning of the text with its bytes. -/
theorem chars_front (size start : Nat) (rest : List Char) :
    (front size start rest).chars = takeBytes size rest := rfl

/-- A window is cut from the text at the place where it starts. -/
theorem rest_of_mem_slide {size overlap start : Nat} {rest : List Char} {w : Window}
    (h : w ∈ slide size overlap start rest []) :
    ∃ skipped, rest = skipped ++ w.rest ∧ w.start = start + byteLength skipped := by
  revert h
  refine slide_induction (P := fun start rest ws => w ∈ ws →
    ∃ skipped, rest = skipped ++ w.rest ∧ w.start = start + byteLength skipped) ?_ ?_ start rest
  · intro start rest _ hw
    rw [List.mem_singleton] at hw
    exact ⟨[], by rw [hw]; rfl, by rw [hw]; rfl⟩
  · intro start rest step ws _ _ ih hw
    rcases List.mem_cons.mp hw with rfl | hw
    · exact ⟨[], rfl, rfl⟩
    · obtain ⟨skipped, hrest, hstart⟩ := ih hw
      refine ⟨takeBytes step rest ++ skipped, ?_, ?_⟩
      · rw [List.append_assoc, ← hrest, takeBytes_append_dropBytes]
      · rw [hstart, byteLength_append, Nat.add_assoc]

/-- The text of a log is what stands before a window and what starts with it. -/
theorem rest_of_mem_cover {size overlap : Nat} {text : List Char} {w : Window}
    (h : w ∈ cover size overlap text) :
    ∃ before, text = before ++ w.rest ∧ byteLength before = w.start := by
  unfold cover at h
  split at h
  · exact absurd h List.not_mem_nil
  · obtain ⟨before, hrest, hstart⟩ := rest_of_mem_slide h
    rw [Nat.zero_add] at hstart
    exact ⟨before, hrest, hstart.symm⟩

/-- The characters of a window begin the text that starts with it. -/
theorem chars_isPrefix (w : Window) : w.chars <+: w.rest := List.take_prefix _ _

end Scan.Window

namespace Scan

open Text

/-- A hit in a window is reported with its text, and with the number of the line in which it
begins in the whole text. -/
theorem blockFound_eq {pattern file : String} {text before front hit back : List Char}
    {w : Window} (hrest : text = before ++ w.rest) (hstart : byteLength before = w.start)
    (hchars : w.chars = front ++ hit ++ back) :
    blockFound pattern file text w (byteLength front, byteLength (front ++ hit)) =
      .ofMatch pattern file (UInt64.ofNat ((before ++ front).count '\n' + 1))
        (String.ofList hit) := by
  obtain ⟨behind, hbehind⟩ := w.chars_isPrefix
  have hall : w.rest = front ++ hit ++ (back ++ behind) := by
    rw [← hbehind, hchars, List.append_assoc _ back]
  have htext : text = (before ++ front) ++ (hit ++ (back ++ behind)) := by
    rw [hrest, hall, List.append_assoc before, List.append_assoc front]
  have hoffset : w.start + byteLength front = byteLength (before ++ front) := by
    rw [byteLength_append, hstart]
  rw [blockFound, lineAt, hoffset, hall, sliceBytes_byteLength, htext, takeBytes_byteLength]

end Scan

end BuildTriage
