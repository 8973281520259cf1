import BuildTriage.Proofs.Scan.WholeText

/-!
# Reports are true

Whatever the turns of a scan are, its report says what they came to: the first hit if all
turns before it pass, nothing if all turns pass, and no more than that the time was up if a
turn ends the scan before. How many items were overdue is counted up to there.
-/

namespace BuildTriage.Scan

open Text

variable {α : Type}

/-- A report says what the turns of a scan came to. -/
structure Truthful (hit : α → Option (Nat × Nat))
    (describes : α → Nat × Nat → FoundIndication → Prop) (turns : List (Turn α)) (a : Allowance)
    (report : Report) : Prop where
  /-- The state is a last one. -/
  final : report.state = .found ∨ report.state = .notFound ∨ report.state = .scanTimedOut
  /-- Something is reported exactly when the state says so. -/
  found_isSome : report.found.isSome ↔ report.state = .found
  /-- What is found was hit, after turns that pass. -/
  found : report.state = .found → ∃ front turn rest bytes f,
    turns = front ++ turn :: rest ∧ PassesAll hit front a ∧ turn.Hits hit bytes ∧
    report.found = some f ∧ describes turn.item bytes f ∧ report.late = countLate front
  /-- A hit after turns that pass is found. -/
  of_hits : ∀ front turn rest bytes, turns = front ++ turn :: rest → PassesAll hit front a →
    turn.Hits hit bytes → report.state = .found
  /-- When nothing is found, all turns pass. -/
  notFound : report.state = .notFound → PassesAll hit turns a ∧ report.late = countLate turns
  /-- When all turns pass, nothing is found. -/
  of_passesAll : PassesAll hit turns a → report.state = .notFound
  /-- When the time is up, a turn has ended the scan after turns that pass. -/
  timedOut : report.state = .scanTimedOut → ∃ front turn rest,
    turns = front ++ turn :: rest ∧ PassesAll hit front a ∧ turn.Ends (afterAll front a) ∧
    report.late = countLate front
  /-- A turn that ends the scan after turns that pass leaves nothing to report. -/
  of_ends : ∀ front turn rest, turns = front ++ turn :: rest → PassesAll hit front a →
    turn.Ends (afterAll front a) → report.state = .scanTimedOut ∧ report.found = none

/-- The ranges of a matcher begin and end between the characters of its text, as those of every
indication do (`Indication.find_onBoundaries`). -/
def Matcher.OnBoundaries (m : Matcher) : Prop :=
  ∀ text bytes, m text = some bytes → ∃ front hit back, text = front ++ hit ++ back ∧
    bytes = (byteLength front, byteLength (front ++ hit))

/-- The ranges of a search for a text are the places where it stands. -/
theorem Matcher.literal_onBoundaries {target : String} (hne : target ≠ "") :
    (Matcher.literal target).OnBoundaries := by
  intro text bytes hfound
  by_cases hin : target.toList <:+: text
  · obtain ⟨before, h⟩ := exists_leftmost (by simpa using hne) hin
    rw [literal_of_leftmost hne h] at hfound
    obtain ⟨after, hafter⟩ := h.occurs
    exact ⟨before, target.toList, after, hafter.symm, (Option.some.inj hfound).symm⟩
  · rw [literal_eq_none hne hin] at hfound
    exact absurd hfound nofun

namespace Scanner

variable {hit : α → Option (Nat × Nat)} {describe : α → Nat × Nat → FoundIndication}
  {describes : α → Nat × Nat → FoundIndication → Prop} {turns : List (Turn α)} {a : Allowance}

/-- The report of a scan, by what its turns came to. -/
theorem conduct_cases (hit : α → Option (Nat × Nat)) (describe : α → Nat × Nat → FoundIndication)
    (turns : List (Turn α)) (a : Allowance) :
    (PassesAll hit turns a ∧
      (conduct hit describe turns a).1 = ⟨.notFound, none, countLate turns⟩) ∨
    (∃ front turn rest bytes, turns = front ++ turn :: rest ∧ PassesAll hit front a ∧
      turn.Hits hit bytes ∧ (conduct hit describe turns a).1 =
        ⟨.found, some (describe turn.item bytes), countLate front⟩) ∨
    ∃ front turn rest, turns = front ++ turn :: rest ∧ PassesAll hit front a ∧
      turn.Ends (afterAll front a) ∧
      (conduct hit describe turns a).1 = ⟨.scanTimedOut, none, countLate front⟩ := by
  rcases passesAll_or_decided hit turns a with
    hpass | ⟨front, turn, rest, hsplit, hfront, ⟨bytes, hhits⟩ | hends⟩
  · exact .inl ⟨hpass, conduct_of_passesAll hpass⟩
  · exact .inr (.inl ⟨front, turn, rest, bytes, hsplit, hfront, hhits,
      conduct_of_hits hsplit hfront hhits⟩)
  · exact .inr (.inr ⟨front, turn, rest, hsplit, hfront, hends,
      conduct_of_ends hsplit hfront hends⟩)

/-- What a scan finds describes a hit of one of its items. -/
theorem exists_hit_of_found {f : FoundIndication}
    (h : (conduct hit describe turns a).1.found = some f) :
    ∃ item ∈ turns.map (·.item), ∃ bytes, hit item = some bytes ∧ f = describe item bytes := by
  rcases conduct_cases hit describe turns a with
    ⟨_, hr⟩ | ⟨_, turn, _, bytes, rfl, _, hhits, hr⟩ | ⟨_, _, _, _, _, _, hr⟩
  · rw [hr] at h
    exact absurd h nofun
  · rw [hr] at h
    exact ⟨turn.item, by simp, bytes, hhits.2, (Option.some.inj h).symm⟩
  · rw [hr] at h
    exact absurd h nofun

/-- A scan reports the truth if it describes each hit as it is. -/
theorem conduct_truthful (h : ∀ turn ∈ turns, ∀ bytes, hit turn.item = some bytes →
      describes turn.item bytes (describe turn.item bytes)) :
    Truthful hit describes turns a (conduct hit describe turns a).1 where
  final := by
    rcases conduct_cases hit describe turns a with
      ⟨_, hr⟩ | ⟨_, _, _, _, _, _, _, hr⟩ | ⟨_, _, _, _, _, _, hr⟩
    · exact .inr (.inl (by rw [hr]))
    · exact .inl (by rw [hr])
    · exact .inr (.inr (by rw [hr]))
  found_isSome := by
    rcases conduct_cases hit describe turns a with
      ⟨_, hr⟩ | ⟨_, _, _, _, _, _, _, hr⟩ | ⟨_, _, _, _, _, _, hr⟩
    · simp [hr]
    · simp [hr]
    · simp [hr]
  found hstate := by
    rcases conduct_cases hit describe turns a with
      ⟨_, hr⟩ | ⟨front, turn, rest, bytes, hsplit, hfront, hhits, hr⟩ | ⟨_, _, _, _, _, _, hr⟩
    · rw [hr] at hstate
      exact State.noConfusion hstate
    · have hin : turn ∈ turns := hsplit ▸ List.mem_append_right front List.mem_cons_self
      rw [hr]
      exact ⟨front, turn, rest, bytes, _, hsplit, hfront, hhits, rfl,
        h turn hin bytes hhits.2, rfl⟩
    · rw [hr] at hstate
      exact State.noConfusion hstate
  of_hits front turn rest bytes hsplit hfront hhits := by
    rw [conduct_of_hits hsplit hfront hhits]
  notFound hstate := by
    rcases conduct_cases hit describe turns a with
      ⟨hpass, hr⟩ | ⟨_, _, _, _, _, _, _, hr⟩ | ⟨_, _, _, _, _, _, hr⟩
    · rw [hr]
      exact ⟨hpass, rfl⟩
    · rw [hr] at hstate
      exact State.noConfusion hstate
    · rw [hr] at hstate
      exact State.noConfusion hstate
  of_passesAll hpass := by
    rw [conduct_of_passesAll hpass]
  timedOut hstate := by
    rcases conduct_cases hit describe turns a with
      ⟨_, hr⟩ | ⟨_, _, _, _, _, _, _, hr⟩ | ⟨front, turn, rest, hsplit, hfront, hends, hr⟩
    · rw [hr] at hstate
      exact State.noConfusion hstate
    · rw [hr] at hstate
      exact State.noConfusion hstate
    · rw [hr]
      exact ⟨front, turn, rest, hsplit, hfront, hends, rfl⟩
  of_ends front turn rest hsplit hfront hends := by
    rw [conduct_of_ends hsplit hfront hends]
    exact ⟨rfl, rfl⟩

/-- A line is reported whole, with its number from one. -/
def DescribesLine (pattern file : String) (lines : List String) (item : String × Nat)
    (_ : Nat × Nat) (f : FoundIndication) : Prop :=
  lines[item.2]? = some item.1 ∧ f = .ofMatch pattern file (UInt64.ofNat (item.2 + 1)) item.1

/-- A hit in a window is reported with its text, and with the number of new lines before it
in the whole text, from one. -/
def DescribesBlock (pattern file : String) (lines : List String) (w : Window)
    (bytes : Nat × Nat) (f : FoundIndication) : Prop :=
  ∃ before hit after, joinLines lines = before ++ hit ++ after ∧
    byteLength before = w.start + bytes.1 ∧ byteLength (before ++ hit) = w.start + bytes.2 ∧
    f = .ofMatch pattern file (UInt64.ofNat (before.count '\n' + 1)) (String.ofList hit)

/-- The scan of a log line by line, or window by window, reports the truth, whatever becomes
of the attempts and of the allowance. -/
theorem scan_truthful (s : Scanner) (matcher : Matcher) (pattern file : String)
    (lines : List String) (a : Allowance) (hmatcher : matcher.OnBoundaries) :
    (∀ turns : List (Turn (String × Nat)), turns.map (·.item) = lineItems lines →
      Truthful (fun item => matcher item.1.toList) (DescribesLine pattern file lines) turns a
        (scanLines matcher pattern file turns a).1) ∧
    ∀ turns : List (Turn Window), turns.map (·.item) = s.blockItems lines →
      Truthful (fun w => matcher w.chars) (DescribesBlock pattern file lines) turns a
        (scanBlocks matcher pattern file lines turns a).1 := by
  constructor
  · intro turns hitems
    refine conduct_truthful fun turn hturn bytes _ => ⟨?_, rfl⟩
    have hin : turn.item ∈ lineItems lines := hitems ▸ List.mem_map.mpr ⟨turn, hturn, rfl⟩
    exact List.mk_mem_zipIdx_iff_getElem?.mp hin
  · intro turns hitems
    refine conduct_truthful fun turn hturn bytes hhit => ?_
    have hin : turn.item ∈ s.blockItems lines := hitems ▸ List.mem_map.mpr ⟨turn, hturn, rfl⟩
    obtain ⟨before, hrest, hstart⟩ := Window.rest_of_mem_cover hin
    obtain ⟨front, hit, back, hchars, rfl⟩ := hmatcher _ _ hhit
    obtain ⟨behind, hbehind⟩ := Window.chars_isPrefix turn.item
    refine ⟨before ++ front, hit, back ++ behind, ?_, ?_, ?_, ?_⟩
    · rw [hrest, ← hbehind, hchars]
      simp only [List.append_assoc]
    · rw [byteLength_append, hstart]
    · rw [List.append_assoc, byteLength_append, hstart]
    · exact blockFound_eq hrest hstart hchars

/-- A line that is overdue while another scan abandons a worker, one without a hit, and one
with a hit. -/
theorem scan_truthful_overdue :
    let lines := ["slow", "miss", "a hit"]
    let turns := [⟨("slow", 0), .overdue, [.abandons]⟩, ⟨("miss", 1), .answered, []⟩,
      ⟨("a hit", 2), .answered, [.ends]⟩]
    let report := (scanLines (.literal "hit") "p" "log" turns (.fresh 2)).1
    Truthful (fun item => Matcher.literal "hit" item.1.toList) (DescribesLine "p" "log" lines)
      turns (.fresh 2) report ∧ report.late = 1 := by
  intro lines turns report
  have h := scan_truthful (ofSettings {}) (.literal "hit") "p" "log" lines (.fresh 2)
    (Matcher.literal_onBoundaries (by decide))
  exact ⟨h.1 turns rfl, by decide +kernel⟩

end Scanner

end BuildTriage.Scan
