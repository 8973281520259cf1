import BuildTriage.Proofs.Scan.Search
import BuildTriage.Proofs.Scan.Window
import BuildTriage.Scan.Literal

/-!
# Windows find what a search of the whole text finds

When a target is no longer than what two windows share, its first occurrence in the text
lies in the first window, or behind the place where the next window starts; and then the
first window has no occurrence at all. So the first window with a hit has the first
occurrence of all, wherever the edges of the windows are.
-/

namespace BuildTriage.Scan

open Text

/-- A target stands in a text behind a part of it, and nowhere before that. -/
structure Leftmost (target text before : List Char) : Prop where
  /-- The target stands there. -/
  occurs : before ++ target <+: text
  /-- It does not stand further to the front. -/
  first : ∀ other, other ++ target <+: text → before.length ≤ other.length

section Occurrences

variable {target text before : List Char}

/-- A target occurs in a text where it stands behind a part of it. -/
theorem infix_iff_occurs : target <:+: text ↔ ∃ before, before ++ target <+: text := by
  constructor
  · rintro ⟨before, after, h⟩
    exact ⟨before, after, h⟩
  · rintro ⟨before, after, h⟩
    exact ⟨before, after, h⟩

/-- What stands behind some parts of a text also stands there without its first character. -/
theorem occurs_cons {c : Char} {rest : List Char} :
    (c :: before) ++ target <+: c :: rest ↔ before ++ target <+: rest := by
  rw [List.cons_append, List.cons_prefix_cons]
  exact and_iff_right rfl

/-- A target at the front of a text stands nowhere before that. -/
theorem leftmost_nil (h : target <+: text) : Leftmost target text [] :=
  ⟨h, fun _ _ => Nat.zero_le _⟩

/-- A character before a text moves the first occurrence by one, unless the target stands
at the front then. -/
theorem leftmost_cons {c : Char} {rest : List Char} (h : Leftmost target rest before)
    (hfront : ¬target <+: c :: rest) : Leftmost target (c :: rest) (c :: before) := by
  refine ⟨occurs_cons.mpr h.occurs, ?_⟩
  intro other hother
  cases other with
  | nil => exact absurd hother hfront
  | cons d other =>
    rw [List.cons_append, List.cons_prefix_cons] at hother
    have hle := h.first other hother.2
    rw [List.length_cons, List.length_cons]
    omega

/-- There is one place where a target stands first. -/
theorem leftmost_unique {other : List Char} (h : Leftmost target text before)
    (h' : Leftmost target text other) : before = other := by
  have hlen : before.length = other.length :=
    Nat.le_antisymm (h.first other h'.occurs) (h'.first before h.occurs)
  have hpre : before <+: text := (List.prefix_append before target).trans h.occurs
  have hpre' : other <+: text := (List.prefix_append other target).trans h'.occurs
  exact (List.prefix_of_prefix_length_le hpre hpre' (Nat.le_of_eq hlen)).eq_of_length hlen

/-- A first occurrence behind a part of a text is the first one in what follows that part. -/
theorem leftmost_of_append {skipped rest : List Char}
    (h : Leftmost target (skipped ++ rest) (skipped ++ before)) :
    Leftmost target rest before := by
  constructor
  · have hoccurs := h.occurs
    rw [List.append_assoc, List.prefix_append_right_inj] at hoccurs
    exact hoccurs
  · intro other hother
    have hin : (skipped ++ other) ++ target <+: skipped ++ rest := by
      rw [List.append_assoc, List.prefix_append_right_inj]
      exact hother
    have hle := h.first (skipped ++ other) hin
    rw [List.length_append, List.length_append] at hle
    omega

/-- The search finds the first occurrence, if there is one. -/
theorem occurrenceFrom_spec (hne : target ≠ []) (text : List Char) (start : Nat) :
    (∃ before, Leftmost target text before ∧ occurrenceFrom target text start =
      some (start + byteLength before, start + byteLength before + byteLength target)) ∨
    (¬target <:+: text ∧ occurrenceFrom target text start = none) := by
  induction text generalizing start with
  | nil =>
    refine .inr ⟨?_, ?_⟩
    · rw [List.infix_nil]
      exact hne
    · have hempty : target.isEmpty = false := List.isEmpty_eq_false_iff.mpr hne
      rw [occurrenceFrom, hempty]
      rfl
  | cons c rest ih =>
    rw [occurrenceFrom]
    by_cases hfront : target <+: c :: rest
    · rw [if_pos (List.isPrefixOf_iff_prefix.mpr hfront)]
      exact .inl ⟨[], leftmost_nil hfront, rfl⟩
    · rw [if_neg (fun h => hfront (List.isPrefixOf_iff_prefix.mp h))]
      rcases ih (start + c.utf8Size) with ⟨before, hleft, hfound⟩ | ⟨hnone, hfound⟩
      · refine .inl ⟨c :: before, leftmost_cons hleft hfront, ?_⟩
        rw [hfound, byteLength_cons, Nat.add_assoc start]
      · refine .inr ⟨?_, hfound⟩
        rw [List.infix_cons_iff]
        rintro (h | h)
        · exact hfront h
        · exact hnone h

/-- Where a target stands first, it is found. -/
theorem literal_of_leftmost {target : String} (hne : target ≠ "")
    (h : Leftmost target.toList text before) : Matcher.literal target text =
      some (byteLength before, byteLength (before ++ target.toList)) := by
  have hne' : target.toList ≠ [] := by simpa using hne
  rcases occurrenceFrom_spec hne' text 0 with ⟨other, hother, hfound⟩ | ⟨hnone, _⟩
  · rw [leftmost_unique hother h, Nat.zero_add, ← byteLength_append] at hfound
    exact hfound
  · exact absurd (infix_iff_occurs.mpr ⟨before, h.occurs⟩) hnone

/-- Nothing is found in a text without the target. -/
theorem literal_eq_none {target : String} (hne : target ≠ "")
    (h : ¬target.toList <:+: text) : Matcher.literal target text = none := by
  have hne' : target.toList ≠ [] := by simpa using hne
  rcases occurrenceFrom_spec hne' text 0 with ⟨other, hother, _⟩ | ⟨_, hfound⟩
  · exact absurd (infix_iff_occurs.mpr ⟨other, hother.occurs⟩) h
  · exact hfound

/-- A target that occurs stands first somewhere. -/
theorem exists_leftmost (hne : target ≠ []) (h : target <:+: text) :
    ∃ before, Leftmost target text before := by
  rcases occurrenceFrom_spec hne text 0 with ⟨before, hleft, _⟩ | ⟨hnone, _⟩
  · exact ⟨before, hleft⟩
  · exact absurd h hnone

end Occurrences

namespace Window

variable {size overlap start : Nat} {target rest before : List Char}

/-- A first occurrence that ends in a window is the first one in it. -/
theorem leftmost_chars (h : Leftmost target rest before)
    (hfits : byteLength (before ++ target) ≤ byteLength (front size start rest).chars) :
    Leftmost target (front size start rest).chars before := by
  have hpre := chars_isPrefix (front size start rest)
  refine ⟨isPrefix_of_byteLength_le h.occurs hpre hfits, ?_⟩
  intro other hother
  exact h.first other (hother.trans hpre)

/-- When the first occurrence ends behind a window, there is none in it. -/
theorem not_infix_of_lt (h : Leftmost target rest before)
    (hlate : byteLength (front size start rest).chars < byteLength (before ++ target)) :
    ¬target <:+: (front size start rest).chars := by
  rw [infix_iff_occurs]
  rintro ⟨other, hother⟩
  have hpre := chars_isPrefix (front size start rest)
  have hin : other ++ target <+: rest := hother.trans hpre
  have hlen := h.first other hin
  have hbegin : before <+: other := List.prefix_of_prefix_length_le
    ((List.prefix_append before target).trans h.occurs)
    ((List.prefix_append other target).trans hin) hlen
  have hbytes := byteLength_le_of_isPrefix hbegin
  have hchars := byteLength_le_of_isPrefix hother
  rw [byteLength_append] at hchars hlate
  omega

/-- When the first occurrence ends behind a window, the window is not the last one, and the
occurrence stands behind the place where the next window starts. -/
theorem leftmost_dropBytes (h : Leftmost target rest before) (hlt : overlap < size)
    (hlen : byteLength target ≤ overlap)
    (hlate : byteLength (front size start rest).chars < byteLength (before ++ target)) :
    (front size start rest).length ≠ rest.length ∧
    ∃ other, before = takeBytes ((front size start rest).stride overlap) rest ++ other ∧
      Leftmost target (dropBytes ((front size start rest).stride overlap) rest) other := by
  have hbefore : before <+: rest := (List.prefix_append before target).trans h.occurs
  have htotal := byteLength_le_of_isPrefix h.occurs
  -- A window with fewer bytes than wanted is the whole text, and the occurrence ends in it.
  have hsize : size ≤ byteLength (front size start rest).chars := by
    by_cases hle : size ≤ byteLength rest
    · exact le_byteLength_takeBytes size rest hle
    · rw [chars_front, takeBytes_of_le (by omega)] at hlate
      omega
  rw [byteLength_append] at hlate
  have hstride : (front size start rest).stride overlap ≤ byteLength before := by
    unfold stride
    omega
  constructor
  · intro hlast
    have hall : (front size start rest).chars = rest := by
      rw [chars, hlast]
      exact List.take_length
    rw [hall] at hlate
    rw [byteLength_append] at htotal
    omega
  · obtain ⟨other, hother⟩ := takeBytes_isPrefix hbefore hstride
    refine ⟨other, hother.symm, ?_⟩
    have hwhole := takeBytes_append_dropBytes ((front size start rest).stride overlap) rest
    have hsplit : Leftmost target
        (takeBytes ((front size start rest).stride overlap) rest ++
          dropBytes ((front size start rest).stride overlap) rest)
        (takeBytes ((front size start rest).stride overlap) rest ++ other) := by
      rw [hwhole, hother]
      exact h
    exact leftmost_of_append hsplit

/-- A text without the target has windows without it. -/
theorem slide_without (h : ¬target <:+: rest) :
    ∀ w ∈ slide size overlap start rest [], ¬target <:+: w.chars := by
  intro w hw hin
  obtain ⟨skipped, hrest, _⟩ := rest_of_mem_slide hw
  apply h
  rw [hrest]
  exact (hin.trans (chars_isPrefix w).isInfix).trans (List.suffix_append skipped w.rest).isInfix

/-- The first window that has the target has its first occurrence. -/
theorem slide_reaches (start : Nat) (hlt : overlap < size) (hlen : byteLength target ≤ overlap)
    (h : Leftmost target rest before) :
    ∃ front w back inside, slide size overlap start rest [] = front ++ w :: back ∧
      (∀ v ∈ front, ¬target <:+: v.chars) ∧ Leftmost target w.chars inside ∧
      w.start + byteLength inside = start + byteLength before := by
  refine slide_induction (P := fun start rest ws => ∀ before, Leftmost target rest before →
    ∃ front w back inside, ws = front ++ w :: back ∧
      (∀ v ∈ front, ¬target <:+: v.chars) ∧ Leftmost target w.chars inside ∧
      w.start + byteLength inside = start + byteLength before) ?_ ?_ start rest before h
  · intro start rest hlast before h
    by_cases hfits : byteLength (before ++ target) ≤ byteLength (front size start rest).chars
    · exact ⟨[], _, [], before, rfl, by simp, leftmost_chars h hfits, rfl⟩
    · exact absurd hlast (leftmost_dropBytes h hlt hlen (Nat.lt_of_not_le hfits)).1
  · intro start rest step ws _ hstep ih before h
    by_cases hfits : byteLength (before ++ target) ≤ byteLength (front size start rest).chars
    · exact ⟨[], _, ws, before, rfl, by simp, leftmost_chars h hfits, rfl⟩
    · have hlate := Nat.lt_of_not_le hfits
      obtain ⟨_, other, hbefore, hother⟩ := leftmost_dropBytes h hlt hlen hlate
      rw [← hstep] at hbefore hother
      obtain ⟨skipped, w, back, inside, hws, hskipped, hw, hat⟩ := ih other hother
      refine ⟨front size start rest :: skipped, w, back, inside, by rw [hws]; rfl, ?_, hw, ?_⟩
      · intro v hv
        rcases List.mem_cons.mp hv with rfl | hv
        · exact not_infix_of_lt h hlate
        · exact hskipped v hv
      · rw [hat, hbefore, byteLength_append, Nat.add_assoc]

end Window

section Lines

/-- The lines of a log before some place, each with its new line. -/
def linesBefore (lines : List String) : List Char :=
  lines.flatMap fun line => line.toList ++ ['\n']

theorem joinLines_singleton (line : String) : joinLines [line] = line.toList := by
  rw [joinLines, String.intercalate_singleton]

theorem joinLines_cons_cons (line next : String) (lines : List String) :
    joinLines (line :: next :: lines) = line.toList ++ '\n' :: joinLines (next :: lines) := by
  rw [joinLines, joinLines, String.intercalate_cons_cons, String.toList_append,
    String.toList_append, List.append_assoc]
  rfl

/-- A beginning of a line that holds no new line holds none. -/
theorem count_of_isPrefix {line part : List Char} (hline : '\n' ∉ line) (h : part <+: line) :
    part.count '\n' = 0 := List.count_eq_zero.mpr fun hin => hline (h.subset hin)

/-- A beginning of a log whose lines hold no new lines ends in the line before which there
are as many lines as there are new lines in it. -/
theorem line_of_isPrefix {lines : List String} (hlines : ∀ line ∈ lines, '\n' ∉ line.toList)
    (hne : lines ≠ []) {before : List Char} (h : before <+: joinLines lines) :
    ∃ line part, lines[before.count '\n']? = some line ∧ part <+: line.toList ∧
      before = linesBefore (lines.take (before.count '\n')) ++ part := by
  induction lines generalizing before with
  | nil => exact absurd rfl hne
  | cons line lines ih =>
    have hline := hlines line List.mem_cons_self
    by_cases hfirst : before <+: line.toList
    · refine ⟨line, before, ?_, hfirst, ?_⟩
      · rw [count_of_isPrefix hline hfirst, List.getElem?_cons_zero]
      · rw [count_of_isPrefix hline hfirst, List.take_zero]
        rfl
    · cases lines with
      | nil =>
        rw [joinLines_singleton] at h
        exact absurd h hfirst
      | cons next lines =>
        rw [joinLines_cons_cons, List.append_cons] at h
        have hlong : line.toList ++ ['\n'] <+: before := by
          refine List.prefix_of_prefix_length_le (List.prefix_append _ _) h ?_
          rw [List.length_append, List.length_singleton, Nat.succ_le_iff]
          refine Nat.lt_of_not_le fun hshort => hfirst ?_
          rw [List.append_assoc] at h
          exact List.prefix_of_prefix_length_le h (List.prefix_append _ _) hshort
        obtain ⟨more, rfl⟩ := hlong
        rw [List.prefix_append_right_inj] at h
        have hrest : ∀ line ∈ next :: lines, '\n' ∉ line.toList :=
          fun line hin => hlines line (List.mem_cons_of_mem _ hin)
        obtain ⟨found, part, hget, hpart, hmore⟩ := ih hrest (List.cons_ne_nil _ _) h
        have hcount : (line.toList ++ ['\n'] ++ more).count '\n' = more.count '\n' + 1 := by
          rw [List.count_append, List.count_append, List.count_eq_zero.mpr hline]
          simp [Nat.add_comm]
        refine ⟨found, part, ?_, hpart, ?_⟩
        · rw [hcount, List.getElem?_cons_succ]
          exact hget
        · rw [hcount, List.take_succ_cons, linesBefore, List.flatMap_cons,
            List.append_assoc _ _ part]
          exact congrArg _ hmore

end Lines

namespace Scanner

variable {size overlap : Nat} {target : String} {lines : List String} {turns : List (Turn Window)}
  {pattern file : String} {a : Allowance}

/-- Windows over a text that lacks the target report nothing. -/
theorem scanBlocks_without (hne : target ≠ "")
    (hitems : turns.map (·.item) = Window.cover size overlap (joinLines lines))
    (hanswered : ∀ t ∈ turns, t.ending = .answered)
    (h : ¬target.toList <:+: joinLines lines) :
    (scanBlocks (.literal target) pattern file lines turns a).1.state = .notFound ∧
    (scanBlocks (.literal target) pattern file lines turns a).1.found = none := by
  have hpass : PassesAll (fun w => Matcher.literal target w.chars) turns a := by
    refine passesAll_of_answered a fun t ht => ⟨hanswered t ht, literal_eq_none hne ?_⟩
    have hin : t.item ∈ Window.cover size overlap (joinLines lines) :=
      hitems ▸ List.mem_map.mpr ⟨t, ht, rfl⟩
    unfold Window.cover at hin
    split at hin
    · exact absurd hin List.not_mem_nil
    · exact Window.slide_without h _ hin
  rw [scanBlocks, conduct_of_passesAll hpass]
  exact ⟨rfl, rfl⟩

/-- Windows over a text report the first occurrence of a target that is no longer than what
two windows share. -/
theorem scanBlocks_leftmost (hlt : overlap < size) (hne : target ≠ "")
    (hlen : byteLength target.toList ≤ overlap)
    (hitems : turns.map (·.item) = Window.cover size overlap (joinLines lines))
    (hanswered : ∀ t ∈ turns, t.ending = .answered) {before : List Char}
    (h : Leftmost target.toList (joinLines lines) before) :
    (scanBlocks (.literal target) pattern file lines turns a).1.state = .found ∧
    (scanBlocks (.literal target) pattern file lines turns a).1.found =
      some (.ofMatch pattern file (UInt64.ofNat (before.count '\n' + 1)) target) := by
  obtain ⟨front, w, back, inside, hslide, hfront, hw, hat⟩ :=
    Window.slide_reaches 0 hlt hlen h
  have htext : (joinLines lines).isEmpty = false := by
    refine List.isEmpty_eq_false_iff.mpr fun hnil => hne ?_
    have hoccurs := h.occurs
    rw [hnil, List.prefix_nil, List.append_eq_nil_iff] at hoccurs
    exact String.toList_eq_nil_iff.mp hoccurs.2
  rw [Window.cover, htext, if_neg Bool.false_ne_true, hslide] at hitems
  obtain ⟨passed, others, hsplit, hpassed, hothers⟩ := List.map_eq_append_iff.mp hitems
  obtain ⟨t, later, hcons, ht, _⟩ := List.map_eq_cons_iff.mp hothers
  subst hcons ht
  have hpass : PassesAll (fun w => Matcher.literal target w.chars) passed a := by
    refine passesAll_of_answered a fun u hu => ⟨?_, literal_eq_none hne ?_⟩
    · exact hanswered u (hsplit ▸ List.mem_append_left _ hu)
    · exact hfront u.item (hpassed ▸ List.mem_map.mpr ⟨u, hu, rfl⟩)
  have hhit : t.Hits (fun w => Matcher.literal target w.chars)
      (byteLength inside, byteLength (inside ++ target.toList)) :=
    ⟨hanswered t (hsplit ▸ List.mem_append_right _ List.mem_cons_self),
      literal_of_leftmost hne hw⟩
  obtain ⟨skipped, hrest, hstart⟩ := Window.rest_of_mem_slide
    (hslide ▸ List.mem_append_right front List.mem_cons_self)
  obtain ⟨behind, hbehind⟩ := hw.occurs
  have hplace : skipped ++ inside = before := by
    refine eq_of_byteLength_eq (l := joinLines lines) ?_ ?_ ?_
    · rw [hrest, List.prefix_append_right_inj]
      exact ((List.prefix_append inside target.toList).trans hw.occurs).trans
        (Window.chars_isPrefix t.item)
    · exact (List.prefix_append before target.toList).trans h.occurs
    · rw [byteLength_append]
      omega
  rw [scanBlocks, conduct_of_hits hsplit hpass hhit, ← hplace,
    blockFound_eq hrest (by omega) hbehind.symm, String.ofList_toList]
  exact ⟨rfl, rfl⟩

/-- Over windows that are all answered in time, whatever the settings, a target that is no
longer than what two windows share is found exactly when the text of the log has it. What is
reported then is the target, with the number of the line in which it first occurs in the
whole text. -/
theorem scanBlocks_literal (settings : ScannerSettings) (target pattern file : String)
    (lines : List String) (turns : List (Turn Window)) (a : Allowance) (hne : target ≠ "")
    (hlen : byteLength target.toList ≤ (ofSettings settings).overlap)
    (hitems : turns.map (·.item) = (ofSettings settings).blockItems lines)
    (hanswered : ∀ t ∈ turns, t.ending = .answered) :
    let report := (scanBlocks (.literal target) pattern file lines turns a).1
    (report.state = .found ↔ target.toList <:+: joinLines lines) ∧
    (¬target.toList <:+: joinLines lines → report.state = .notFound ∧ report.found = none) ∧
    ∀ before, Leftmost target.toList (joinLines lines) before →
      report.found = some (.ofMatch pattern file (UInt64.ofNat (before.count '\n' + 1)) target) ∧
      ((∀ line ∈ lines, '\n' ∉ line.toList) → ∃ line part,
        lines[before.count '\n']? = some line ∧ part <+: line.toList ∧
        before = linesBefore (lines.take (before.count '\n')) ++ part) := by
  intro report
  have hlt := (ofSettings settings).overlap_lt
  have hwithout : ¬target.toList <:+: joinLines lines →
      report.state = .notFound ∧ report.found = none :=
    scanBlocks_without hne hitems hanswered
  have hleftmost : ∀ before, Leftmost target.toList (joinLines lines) before →
      report.state = .found ∧ report.found =
        some (.ofMatch pattern file (UInt64.ofNat (before.count '\n' + 1)) target) :=
    fun _ h => scanBlocks_leftmost hlt hne hlen hitems hanswered h
  have hnonempty : target.toList ≠ [] := fun h => hne (String.toList_eq_nil_iff.mp h)
  refine ⟨⟨?_, ?_⟩, hwithout, ?_⟩
  · intro hfound
    by_cases hin : target.toList <:+: joinLines lines
    · exact hin
    · rw [(hwithout hin).1] at hfound
      exact absurd hfound State.noConfusion
  · intro hin
    obtain ⟨before, h⟩ := exists_leftmost hnonempty hin
    exact (hleftmost before h).1
  · intro before h
    refine ⟨(hleftmost before h).2, fun hlines => ?_⟩
    have hpre : before <+: joinLines lines :=
      (List.prefix_append before target.toList).trans h.occurs
    refine line_of_isPrefix hlines ?_ hpre
    rintro rfl
    have hoccurs := h.occurs
    rw [joinLines, String.intercalate_nil, String.toList_empty, List.prefix_nil,
      List.append_eq_nil_iff] at hoccurs
    exact hnonempty hoccurs.2

/-- A target of two lines that straddles the edges of several windows is found. -/
theorem scanBlocks_literal_straddling :
    let settings : ScannerSettings := { blockSize := 4, blockOverlap := 9 }
    let lines := ["déjà", "vu", "x"]
    let turns := (ofSettings settings).blockTurns (fun _ => .takes 0) lines
    let report := (scanBlocks (.literal "à\n") "p" "log" lines turns (.fresh 16)).1
    (report.state = .found ↔ "à\n".toList <:+: joinLines lines) ∧
    report.found = some (.ofMatch "p" "log" 1 "à\n") := by
  intro settings lines turns report
  have h := scanBlocks_literal settings "à\n" "p" "log" lines turns (.fresh 16) (by decide)
    (by decide) (map_item_blockTurns _ _ _) (by decide +kernel)
  refine ⟨h.1, ?_⟩
  have hfirst : Leftmost "à\n".toList (joinLines lines) "déj".toList := by
    have htarget : "à\n".toList = ['à', '\n'] := by decide
    have htext : joinLines lines = ['d', 'é', 'j', 'à', '\n', 'v', 'u', '\n', 'x'] := by
      decide +kernel
    have hbefore : "déj".toList = ['d', 'é', 'j'] := by decide
    rw [htarget, htext, hbefore]
    refine leftmost_cons (leftmost_cons (leftmost_cons (leftmost_nil ?_) ?_) ?_) ?_
    · decide
    · decide
    · decide
    · decide
  exact (h.2.2 _ hfirst).1

end Scanner

end BuildTriage.Scan
