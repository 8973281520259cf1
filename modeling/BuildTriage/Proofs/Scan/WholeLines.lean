import BuildTriage.Proofs.Indication

/-!
# Matches over several lines

Read over several lines, a framed pattern is extended to whole lines of the text that it is
searched for in. That text is a window over the log, and the edges of a window count as ends of
lines wherever they fall: a hit is whole lines of the log, up to what the edges of its window
cut off. Over a log that fits into one window nothing is cut off.
-/

namespace BuildTriage

open Pattern Text

namespace Scan

/-- What stands before the start of a line. -/
def StartsLine (before : List Char) : Prop := ∀ c ∈ before.getLast?, c = '\n'

/-- What stands after the end of a line. -/
def EndsLine (after : List Char) : Prop := ∀ c ∈ after.head?, c = '\n'

theorem StartsLine.append {a b : List Char} (ha : StartsLine a) (hb : StartsLine b) :
    StartsLine (a ++ b) := by
  intro c hc
  rw [List.getLast?_append] at hc
  cases hlast : b.getLast? with
  | none => rw [hlast, Option.none_or] at hc; exact ha c hc
  | some d => rw [hlast, Option.some_or, ← hlast] at hc; exact hb c hc

theorem StartsLine.of_append {a b : List Char} (h : StartsLine (a ++ b)) : StartsLine b := by
  intro c hc
  refine h c ?_
  rw [List.getLast?_append, hc]
  rfl

theorem EndsLine.append {a b : List Char} (ha : EndsLine a) (hb : EndsLine b) :
    EndsLine (a ++ b) := by
  cases a with
  | nil => exact hb
  | cons c a => exact ha

theorem EndsLine.of_append {a b : List Char} (h : EndsLine (a ++ b)) : EndsLine a := by
  intro c hc
  refine h c ?_
  rw [List.head?_append, hc]
  rfl

/-- A beginning of a line and what follows it either stay within the line or go beyond it. -/
theorem append_eq_line {line rest a b : List Char} (hline : '\n' ∉ line)
    (h : line ++ '\n' :: rest = a ++ b) :
    (∃ c, line = a ++ c ∧ b = c ++ '\n' :: rest) ∨
      ∃ more, a = line ++ '\n' :: more ∧ rest = more ++ b := by
  rcases List.append_eq_append_iff.mp h with ⟨c, rfl, hc⟩ | ⟨c, rfl, hc⟩
  · cases c with
    | nil => exact .inl ⟨[], by simp, hc.symm⟩
    | cons d c =>
      obtain ⟨rfl, hrest⟩ := List.cons.inj hc
      exact .inr ⟨c, rfl, hrest⟩
  · exact .inl ⟨c, rfl, hc⟩

/-- What begins at the start of a line is the rest of the lines from there on. -/
theorem exists_lines_of_startsLine {lines : List String}
    (hlines : ∀ line ∈ lines, '\n' ∉ line.toList) (hne : lines ≠ []) {before rest : List Char}
    (h : joinLines lines = before ++ rest) (hstart : StartsLine before) :
    ∃ front back, lines = front ++ back ∧ back ≠ [] ∧ front.length = before.count '\n' ∧
      rest = joinLines back := by
  induction lines generalizing before with
  | nil => exact absurd rfl hne
  | cons line lines ih =>
    have hline := hlines line List.mem_cons_self
    by_cases hbefore : before = []
    · subst hbefore
      exact ⟨[], _, rfl, hne, rfl, h.symm⟩
    have hlast : '\n' ∈ before := by
      have hin := List.getLast_mem hbefore
      rwa [hstart _ (List.getLast?_eq_some_getLast hbefore)] at hin
    cases lines with
    | nil =>
      rw [joinLines_singleton] at h
      exact absurd (h ▸ List.mem_append_left rest hlast) hline
    | cons next lines =>
      rw [joinLines_cons_cons] at h
      rcases append_eq_line hline h with ⟨c, hc, -⟩ | ⟨more, rfl, hrest⟩
      · exact absurd (hc ▸ List.mem_append_left c hlast) hline
      · rw [List.append_cons] at hstart
        obtain ⟨front, back, hsplit, hback, hlength, hjoin⟩ :=
          ih (fun l hl => hlines l (List.mem_cons_of_mem _ hl)) (List.cons_ne_nil _ _) hrest
            hstart.of_append
        refine ⟨line :: front, back, by rw [hsplit]; rfl, hback, ?_, hjoin⟩
        rw [List.count_append, List.count_eq_zero.mpr hline, List.count_cons_self,
          List.length_cons, hlength, Nat.zero_add]

/-- What ends at the end of a line is the lines up to there. -/
theorem exists_lines_of_endsLine {lines : List String}
    (hlines : ∀ line ∈ lines, '\n' ∉ line.toList) (hne : lines ≠ []) {hit after : List Char}
    (h : joinLines lines = hit ++ after) (hend : EndsLine after) :
    ∃ taken back, lines = taken ++ back ∧ taken ≠ [] ∧ hit = joinLines taken := by
  induction lines generalizing hit with
  | nil => exact absurd rfl hne
  | cons line lines ih =>
    have hline := hlines line List.mem_cons_self
    have hwhole : ∀ c, line.toList = hit ++ c → EndsLine c → hit = line.toList := by
      intro c hc hd
      cases c with
      | nil => rw [hc, List.append_nil]
      | cons d c =>
        have hin : d ∈ line.toList := hc ▸ List.mem_append_right hit List.mem_cons_self
        exact absurd (hd d rfl ▸ hin) hline
    cases lines with
    | nil =>
      rw [joinLines_singleton] at h
      have hhit : hit = joinLines [line] := by rw [hwhole after h hend, joinLines_singleton]
      exact ⟨[line], [], rfl, List.cons_ne_nil _ _, hhit⟩
    | cons next lines =>
      rw [joinLines_cons_cons] at h
      rcases append_eq_line hline h with ⟨c, hc, rfl⟩ | ⟨more, rfl, hrest⟩
      · refine ⟨[line], next :: lines, rfl, List.cons_ne_nil _ _, ?_⟩
        rw [joinLines_singleton]
        exact hwhole c hc hend.of_append
      · obtain ⟨taken, back, hsplit, htaken, hjoin⟩ :=
          ih (fun l hl => hlines l (List.mem_cons_of_mem _ hl)) (List.cons_ne_nil _ _) hrest
        refine ⟨line :: taken, back, by rw [hsplit]; rfl, List.cons_ne_nil _ _, ?_⟩
        obtain ⟨first, others, rfl⟩ := List.exists_cons_of_ne_nil htaken
        rw [joinLines_cons_cons, hjoin]

/-- A record of whole lines of a log: one or more in a row, with the number of the first of
them. -/
def WholeLines (pattern file : String) (lines : List String) (f : FoundIndication) : Prop :=
  ∃ front taken back, lines = front ++ taken ++ back ∧ taken ≠ [] ∧
    f = .ofMatch pattern file (UInt64.ofNat (front.length + 1)) (String.ofList (joinLines taken))

/-- A hit from the start of a line to the end of one is whole lines. -/
theorem wholeLines_of_hit {pattern file : String} {lines : List String}
    (hlines : ∀ line ∈ lines, '\n' ∉ line.toList) (hne : lines ≠ []) {before hit after : List Char}
    (h : joinLines lines = before ++ hit ++ after) (hstart : StartsLine before)
    (hend : EndsLine after) :
    WholeLines pattern file lines
      (.ofMatch pattern file (UInt64.ofNat (before.count '\n' + 1)) (String.ofList hit)) := by
  rw [List.append_assoc] at h
  obtain ⟨front, others, rfl, hothers, hcount, hrest⟩ :=
    exists_lines_of_startsLine hlines hne h hstart
  obtain ⟨taken, back, rfl, htaken, rfl⟩ := exists_lines_of_endsLine
    (fun l hl => hlines l (List.mem_append_right front hl)) hothers hrest.symm hend
  exact ⟨front, taken, back, (List.append_assoc ..).symm, htaken, by rw [hcount]⟩

/-- A log that fits into one window has no other. -/
theorem Window.cover_of_le {size overlap : Nat} {text : List Char} {w : Window}
    (h : byteLength text ≤ size) (hw : w ∈ cover size overlap text) :
    w.start = 0 ∧ w.chars = text := by
  unfold cover at hw
  split at hw
  · exact absurd hw List.not_mem_nil
  · have hall : (front size 0 text).length = text.length := countBytes_of_le h
    rw [slide_last overlap hall, List.mem_singleton] at hw
    subst hw
    exact ⟨rfl, takeBytes_of_le h⟩

end Scan

namespace Indication

/-- Read over several lines, the frame matches from the start of a line to the end of one. -/
theorem frameExpr_multiLine {e : Expr} {front hit back : List Char}
    (h : (ReaderMode.multiLine.frameExpr e).Matches front hit back) :
    Scan.StartsLine front ∧ Scan.EndsLine back ∧ ∃ lead covered trail,
      hit = lead ++ covered ++ trail ∧ e.Matches (front ++ lead) covered (trail ++ back) := by
  unfold ReaderMode.frameExpr at h
  obtain ⟨_, _, rfl, hempty, h⟩ := Expr.matches_cons.mp h
  cases hempty
  obtain ⟨_, _, rfl, hbefore, h⟩ := Expr.matches_cons.mp h
  obtain ⟨rfl, hstart⟩ := Expr.matches_look.mp hbefore
  obtain ⟨lead, _, rfl, -, h⟩ := Expr.matches_cons.mp h
  obtain ⟨covered, _, rfl, hcovered, h⟩ := Expr.matches_cons.mp h
  obtain ⟨trail, _, rfl, -, h⟩ := Expr.matches_cons.mp h
  obtain ⟨_, _, rfl, hafter, h⟩ := Expr.matches_cons.mp h
  obtain ⟨rfl, hend⟩ := Expr.matches_look.mp hafter
  obtain rfl := Expr.matches_nil.mp h
  refine ⟨?_, ?_, lead, covered, trail, by simp, by simpa using hcovered⟩
  · intro c hc
    simpa [Look.holds, Option.mem_def.mp hc] using hstart
  · intro c hc
    simpa [Look.holds, Option.mem_def.mp hc] using hend

/-- What a scan over several lines reports for an indication whose pattern is an expression by
itself goes from the start of a line to the end of one, where the edges of the window that is
searched count as such, and the expression matches within it. When those edges stand between
lines of the log, and always when the log fits into one window, whole lines are reported. -/
theorem scanBlocks_wholeLines (i : Indication) (e : Expr) (s : Scan.Scanner) (lines : List String)
    (file : String) (turns : List (Scan.Turn Scan.Window)) (a : Scan.Allowance)
    (f : FoundIndication) (hmode : i.mode = .multiLine) (he : i.mode.read i.pattern = .ok e)
    (hlines : ∀ line ∈ lines, '\n' ∉ line.toList)
    (hitems : turns.map (·.item) = s.blockItems lines)
    (hfound : (Scan.Scanner.scanBlocks i.compiled.find i.pattern file lines turns a).1.found =
      some f) :
    ∃ w ∈ s.blockItems lines, ∃ before front hit back behind,
      Scan.joinLines lines = before ++ w.chars ++ behind ∧ byteLength before = w.start ∧
      w.chars = front ++ hit ++ back ∧ Scan.StartsLine front ∧ Scan.EndsLine back ∧
      (∃ lead covered trail, hit = lead ++ covered ++ trail ∧
        e.Matches (front ++ lead) covered (trail ++ back)) ∧
      f = .ofMatch i.pattern file (UInt64.ofNat ((before ++ front).count '\n' + 1))
        (String.ofList hit) ∧
      (Scan.StartsLine before → Scan.EndsLine behind → Scan.WholeLines i.pattern file lines f) ∧
      (byteLength (Scan.joinLines lines) ≤ s.size →
        Scan.WholeLines i.pattern file lines f) := by
  obtain ⟨w, hw, bytes, hhit, rfl⟩ := Scan.Scanner.exists_hit_of_found hfound
  rw [hitems] at hw
  obtain ⟨before, hrest, hstart⟩ := Scan.Window.rest_of_mem_cover hw
  obtain ⟨front, hit, back, hchars, rfl, hmatch⟩ := find_matches he hhit
  rw [hmode] at hmatch
  obtain ⟨hfront, hback, hcovered⟩ := frameExpr_multiLine hmatch
  obtain ⟨behind, hbehind⟩ := w.chars_isPrefix
  have hne : lines ≠ [] := by
    rintro rfl
    exact absurd hw List.not_mem_nil
  have htext : Scan.joinLines lines = before ++ w.chars ++ behind := by
    rw [hrest, ← hbehind, List.append_assoc]
  have hsplit : Scan.joinLines lines = (before ++ front) ++ hit ++ (back ++ behind) := by
    rw [htext, hchars]
    simp only [List.append_assoc]
  have hwhole : Scan.StartsLine before → Scan.EndsLine behind → Scan.WholeLines i.pattern file lines
      (Scan.blockFound i.pattern file (Scan.joinLines lines) w
        (byteLength front, byteLength (front ++ hit))) := by
    intro hbefore hafter
    rw [Scan.blockFound_eq hrest hstart hchars]
    exact Scan.wholeLines_of_hit hlines hne hsplit (hbefore.append hfront) (hback.append hafter)
  refine ⟨w, hw, before, front, hit, back, behind, htext, hstart, hchars, hfront, hback, hcovered,
    Scan.blockFound_eq hrest hstart hchars, hwhole, fun hsize => ?_⟩
  obtain ⟨hzero, hall⟩ := Scan.Window.cover_of_le hsize hw
  have hbefore : before = [] := eq_nil_of_byteLength (hstart.trans hzero)
  have hbehind : behind = [] := by
    rw [hall, hbefore, List.nil_append] at htext
    exact List.self_eq_append_right.mp htext
  subst hbefore hbehind
  exact hwhole nofun nofun

/-- A match that goes over the end of a line, in a log that fits into one window. -/
theorem scanBlocks_wholeLines_joined :
    let lines := ["one", "two x", "y three", "four"]
    let s := Scan.Scanner.ofSettings {}
    let turns := s.blockTurns (fun _ => .takes 0) lines
    ∃ (i : Indication) (e : Expr), ofPattern "x\\ny" .multiLine = .ok i ∧
      ReaderMode.multiLine.read "x\\ny" = .ok e ∧
      (Scan.Scanner.scanBlocks i.compiled.find "x\\ny" "log" lines turns (.fresh 16)).1.found =
        some (.ofMatch "x\\ny" "log" 2 "two x\ny three") ∧
      Scan.WholeLines "x\\ny" "log" lines (.ofMatch "x\\ny" "log" 2 "two x\ny three") := by
  intro lines s turns
  have hrun : ((Pattern.ofText (ReaderMode.multiLine.wrap "x\\ny")).map fun p =>
      (Scan.Scanner.scanBlocks p.find "x\\ny" "log" lines turns (.fresh 16)).1.found).toOption =
      some (some (.ofMatch "x\\ny" "log" 2 "two x\ny three")) := by decide +kernel
  obtain ⟨i, hi, hpattern, hmode, hscan⟩ := exists_ofPattern hrun
  have hread : (ReaderMode.multiLine.read "x\\ny").isOk = true := by decide +kernel
  obtain ⟨e, he⟩ := exists_read hread
  have hlines : ∀ line ∈ lines, '\n' ∉ line.toList := by decide +kernel
  obtain ⟨_, _, _, _, _, _, _, _, _, _, _, _, _, _, _, hfits⟩ := scanBlocks_wholeLines i e s lines
    "log" turns (.fresh 16) _ hmode (by rw [hmode, hpattern, he]) hlines
    (Scan.Scanner.map_item_blockTurns _ _ _) (by rw [hpattern, hscan])
  have hwhole := hfits (by decide +kernel)
  rw [hpattern] at hwhole
  exact ⟨i, e, hi, he, hscan, hwhole⟩

/-- A window that is shorter than a line cuts the line that is reported short. -/
theorem scan_cutLine :
    let s := Scan.Scanner.ofSettings { blockSize := 5, blockOverlap := 0 }
    ∃ i : Indication, ofPattern "ERR" .multiLine = .ok i ∧
      (s.scan i ["xxERRORyy"] "log").found = some (.ofMatch "ERR" "log" 1 "xxERR") ∧
      ¬Scan.WholeLines "ERR" "log" ["xxERRORyy"] (.ofMatch "ERR" "log" 1 "xxERR") := by
  intro s
  have hrun : ((Pattern.ofText (ReaderMode.multiLine.wrap "ERR")).map fun p =>
      (s.run p.find (fun _ => .takes 0) .multiLine "ERR" ["xxERRORyy"] "log"
        (.fresh Scan.Scanner.sharedCap)).1.found).toOption =
      some (some (.ofMatch "ERR" "log" 1 "xxERR")) := by decide +kernel
  obtain ⟨i, hi, hpattern, hmode, hscan⟩ := exists_ofPattern hrun
  refine ⟨i, hi, ?_, ?_⟩
  · rw [Scan.Scanner.scan, hmode, hpattern]
    exact hscan
  · rintro ⟨front, taken, back, hsplit, hne, hf⟩
    have hin : ∀ line ∈ taken, line = "xxERRORyy" := by
      intro line hline
      have hmem := List.mem_append_left back (List.mem_append_right front hline)
      rw [← hsplit, List.mem_singleton] at hmem
      exact hmem
    have hlength := congrArg List.length hsplit
    simp only [List.length_append, List.length_singleton] at hlength
    obtain ⟨line, others, rfl⟩ := List.exists_cons_of_ne_nil hne
    obtain rfl : others = [] := by
      rw [List.length_cons] at hlength
      exact List.eq_nil_of_length_eq_zero (by omega)
    obtain rfl := hin line List.mem_cons_self
    have htext : some "xxERR" = some (String.ofList (Scan.joinLines ["xxERRORyy"])) :=
      congrArg FoundIndication.matchingString hf
    exact absurd htext (by decide +kernel)

end Indication

end BuildTriage
