import BuildTriage.Scan.Report

/-!
# What a search comes to

A turn passes, hits, or ends the search. The worker that a passed turn leaves has nothing
in its queues, so the answer to an item is never that to an earlier one. By induction the
turns before some place pass, and the one at that place decides the report.
-/

namespace BuildTriage.Scan

variable {α : Type}

namespace Turn

/-- The allowance when the attempt of a turn ends. -/
def allowance (t : Turn α) (a : Allowance) : Allowance := t.outside.foldl .shift a

/-- The allowance after a turn that passes. -/
def after (t : Turn α) (a : Allowance) : Allowance :=
  if t.ending = .overdue then { t.allowance a with running := (t.allowance a).running + 1 }
  else t.allowance a

/-- The item is answered to have no hit, or skipped. -/
def Passes (hit : α → Option (Nat × Nat)) (t : Turn α) (a : Allowance) : Prop :=
  t.ending = .answered ∧ hit t.item = none ∨
    t.ending = .overdue ∧ (t.allowance a).running < (t.allowance a).cap

/-- The item is answered to have a hit. -/
def Hits (hit : α → Option (Nat × Nat)) (t : Turn α) (bytes : Nat × Nat) : Prop :=
  t.ending = .answered ∧ hit t.item = some bytes

/-- The scan cannot go on: its worker has crashed, its budget has run out, or the worker
cannot be abandoned. -/
def Ends (t : Turn α) (a : Allowance) : Prop :=
  t.ending = .crashed ∨ t.ending = .exhausted ∨ t.ending = .unstarted ∨
    t.ending = .overdue ∧ (t.allowance a).cap ≤ (t.allowance a).running

/-- Each turn passes, hits or ends the search. -/
theorem passes_or_hits_or_ends (hit : α → Option (Nat × Nat)) (t : Turn α) (a : Allowance) :
    t.Passes hit a ∨ (∃ bytes, t.Hits hit bytes) ∨ t.Ends a := by
  unfold Passes Hits Ends
  cases he : t.ending with
  | answered =>
    cases hh : hit t.item with
    | none => exact .inl (.inl ⟨rfl, rfl⟩)
    | some bytes => exact .inr (.inl ⟨bytes, rfl, rfl⟩)
  | overdue =>
    by_cases hroom : (t.allowance a).running < (t.allowance a).cap
    · exact .inl (.inr ⟨rfl, hroom⟩)
    · exact .inr (.inr (.inr (.inr (.inr ⟨rfl, Nat.le_of_not_lt hroom⟩))))
  | exhausted => exact .inr (.inr (.inr (.inl rfl)))
  | unstarted => exact .inr (.inr (.inr (.inr (.inl rfl))))
  | crashed => exact .inr (.inr (.inl rfl))

end Turn

/-- All of some turns pass, one after the other. -/
def PassesAll (hit : α → Option (Nat × Nat)) : List (Turn α) → Allowance → Prop
  | [], _ => True
  | t :: rest, a => t.Passes hit a ∧ PassesAll hit rest (t.after a)

/-- The allowance after some turns that pass. -/
def afterAll (turns : List (Turn α)) (a : Allowance) : Allowance :=
  turns.foldl (fun a t => t.after a) a

/-- How many of some turns are overdue. -/
def countLate (turns : List (Turn α)) : Nat := turns.countP fun t => t.ending = .overdue

/-- The worker at hand, if there is one, has nothing in its queues. -/
def Idle (worker : Option (Mailbox α)) : Prop := ∀ m, worker = some m → m = .empty

/-- A scan without a worker gets one that is idle. -/
theorem idle_none : Idle (none : Option (Mailbox α)) := nofun

/-- An idle worker answers the item that it is sent, and is idle again. -/
theorem serve_idle {worker : Option (Mailbox α)} (h : Idle worker)
    (hit : α → Option (Nat × Nat)) (item : α) :
    (((worker.getD .empty).send item).serve hit).receive? = some (hit item, .empty) := by
  cases worker with
  | none => rfl
  | some m =>
    have hm := h m rfl
    subst hm
    rfl

/-- A worker can be abandoned as long as there is room. -/
theorem abandon_of_lt {a : Allowance} (h : a.running < a.cap) :
    a.abandon? = some { a with running := a.running + 1 } := if_pos h

/-- No worker can be abandoned when there is no room. -/
theorem abandon_of_le {a : Allowance} (h : a.cap ≤ a.running) : a.abandon? = none :=
  if_neg (Nat.not_lt.mpr h)

variable {hit : α → Option (Nat × Nat)} {worker : Option (Mailbox α)} {a : Allowance}

/-- A search goes on after a turn that passes, with an idle worker or none. -/
theorem search_passes {t : Turn α} (h : t.Passes hit a) (hw : Idle worker)
    (rest : List (Turn α)) (late : Nat) :
    ∃ kept, Idle kept ∧ search hit (t :: rest) worker ⟨.scanning, late⟩ a =
      search hit rest kept ⟨.scanning, late + countLate [t]⟩ (t.after a) := by
  rcases h with ⟨he, hnone⟩ | ⟨he, hroom⟩
  · have hlate : countLate [t] = 0 := by simp [countLate, he]
    have hafter : t.after a = t.allowance a := by simp [Turn.after, he]
    refine ⟨some .empty, fun m hm => (Option.some.inj hm).symm, ?_⟩
    simp only [search, attempt, he, serve_idle hw, hnone, hlate, hafter, Turn.allowance,
      Nat.add_zero]
  · have hlate : countLate [t] = 1 := by simp [countLate, he]
    have hafter : t.after a = { t.allowance a with running := (t.allowance a).running + 1 } := by
      simp [Turn.after, he]
    have habandon := abandon_of_lt hroom
    rw [← hafter, Turn.allowance] at habandon
    refine ⟨none, idle_none, ?_⟩
    simp only [search, attempt, he, habandon, hlate]
    rfl

/-- A search is over at a hit. -/
theorem search_hits {t : Turn α} {bytes : Nat × Nat} (h : t.Hits hit bytes) (hw : Idle worker)
    (rest : List (Turn α)) (progress : Progress) :
    search hit (t :: rest) worker progress a =
      ⟨some (t.item, bytes), progress, t.allowance a⟩ := by
  obtain ⟨he, hsome⟩ := h
  simp only [search, attempt, he, serve_idle hw, hsome, Turn.allowance]

/-- A search is over without a hit at a turn that ends it. -/
theorem search_ends {t : Turn α} (h : t.Ends a) (rest : List (Turn α)) (progress : Progress) :
    (search hit (t :: rest) worker progress a).hit = none ∧
    (search hit (t :: rest) worker progress a).progress = progress.reach .scanTimedOut := by
  rcases h with he | he | he | ⟨he, hfull⟩
  · simp only [search, attempt, he, and_self]
  · simp only [search, attempt, he, and_self]
  · simp only [search, attempt, he, and_self]
  · have habandon := abandon_of_le hfull
    rw [Turn.allowance] at habandon
    simp only [search, attempt, he, habandon, and_self]

/-- A search goes on after any number of turns that pass. -/
theorem search_passesAll {front : List (Turn α)} (h : PassesAll hit front a) (hw : Idle worker)
    (rest : List (Turn α)) (late : Nat) :
    ∃ kept, Idle kept ∧ search hit (front ++ rest) worker ⟨.scanning, late⟩ a =
      search hit rest kept ⟨.scanning, late + countLate front⟩ (afterAll front a) := by
  induction front generalizing worker a late with
  | nil => exact ⟨worker, hw, rfl⟩
  | cons t front ih =>
    obtain ⟨hpass, hfront⟩ := h
    obtain ⟨kept, hkept, hstep⟩ := search_passes hpass hw (front ++ rest) late
    obtain ⟨kept', hkept', hrun⟩ := ih hfront hkept (late + countLate [t])
    refine ⟨kept', hkept', ?_⟩
    have hlate : countLate (t :: front) = countLate [t] + countLate front := by
      rw [← List.singleton_append, countLate, List.countP_append]
      rfl
    rw [List.cons_append, hstep, hrun, hlate, Nat.add_assoc]
    rfl

/-- Turns whose items are answered to have no hit pass. -/
theorem passesAll_of_answered {turns : List (Turn α)} (a : Allowance)
    (h : ∀ t ∈ turns, t.ending = .answered ∧ hit t.item = none) : PassesAll hit turns a := by
  induction turns generalizing a with
  | nil => trivial
  | cons t rest ih =>
    have hrest := ih (t.after a) fun u hu => h u (List.mem_cons_of_mem t hu)
    exact ⟨.inl (h t List.mem_cons_self), hrest⟩

/-- Some turns pass, or there is one that decides after turns that pass. -/
theorem passesAll_or_decided (hit : α → Option (Nat × Nat)) (turns : List (Turn α))
    (a : Allowance) :
    PassesAll hit turns a ∨ ∃ front t rest, turns = front ++ t :: rest ∧
      PassesAll hit front a ∧ ((∃ bytes, t.Hits hit bytes) ∨ t.Ends (afterAll front a)) := by
  induction turns generalizing a with
  | nil => exact .inl trivial
  | cons t rest ih =>
    rcases t.passes_or_hits_or_ends hit a with hpass | hdecides
    · rcases ih (t.after a) with hrest | ⟨front, u, rest', hsplit, hfront, hdecides⟩
      · exact .inl ⟨hpass, hrest⟩
      · refine .inr ⟨t :: front, u, rest', ?_, ⟨hpass, hfront⟩, hdecides⟩
        rw [hsplit, List.cons_append]
    · exact .inr ⟨[], t, rest, rfl, trivial, hdecides⟩

/-- The turns of a scan that is alone are those of its items. -/
theorem Limits.map_item_turns (l : Limits) (effort : α → Effort) (spent : Nat) (items : List α)
    (done : List (Turn α)) : (l.turns effort spent items done).map (·.item) =
      (done.map (·.item)).reverse ++ items := by
  induction items generalizing spent done with
  | nil => rw [turns, List.map_reverse, List.append_nil]
  | cons item rest ih =>
    rw [turns]
    dsimp only
    rw [ih, List.map_cons, List.reverse_cons, List.append_assoc]
    rfl

variable {describe : α → Nat × Nat → FoundIndication} {turns : List (Turn α)}

namespace Scanner

/-- Line by line, a scan that is alone takes the lines in order. -/
theorem map_item_lineTurns (s : Scanner) (effort : List Char → Effort) (lines : List String) :
    (s.lineTurns effort lines).map (·.item) = lineItems lines :=
  s.lineLimits.map_item_turns _ 0 _ []

/-- Over several lines, a scan that is alone takes the windows in order. -/
theorem map_item_blockTurns (s : Scanner) (effort : List Char → Effort) (lines : List String) :
    (s.blockTurns effort lines).map (·.item) = s.blockItems lines :=
  s.blockLimits.map_item_turns _ 0 _ []

/-- When all turns pass, nothing is found. -/
theorem conduct_of_passesAll (h : PassesAll hit turns a) :
    (conduct hit describe turns a).1 = ⟨.notFound, none, countLate turns⟩ := by
  obtain ⟨kept, _, hrun⟩ := search_passesAll h idle_none [] 0
  rw [List.append_nil, Nat.zero_add] at hrun
  have hbegin : Progress.begun.reach .scanning = ⟨.scanning, 0⟩ := rfl
  simp only [conduct, hbegin, hrun, search, Report.ofSearch]
  rfl

/-- A hit after turns that pass is what is found. -/
theorem conduct_of_hits {front rest : List (Turn α)} {t : Turn α} {bytes : Nat × Nat}
    (hsplit : turns = front ++ t :: rest) (hfront : PassesAll hit front a)
    (ht : t.Hits hit bytes) :
    (conduct hit describe turns a).1 =
      ⟨.found, some (describe t.item bytes), countLate front⟩ := by
  obtain ⟨kept, hkept, hrun⟩ := search_passesAll hfront idle_none (t :: rest) 0
  rw [Nat.zero_add, search_hits ht hkept, ← hsplit] at hrun
  have hbegin : Progress.begun.reach .scanning = ⟨.scanning, 0⟩ := rfl
  simp only [conduct, hbegin, hrun, Report.ofSearch]
  rfl

/-- A turn that ends the search after turns that pass ends the scan. -/
theorem conduct_of_ends {front rest : List (Turn α)} {t : Turn α}
    (hsplit : turns = front ++ t :: rest) (hfront : PassesAll hit front a)
    (ht : t.Ends (afterAll front a)) :
    (conduct hit describe turns a).1 = ⟨.scanTimedOut, none, countLate front⟩ := by
  obtain ⟨kept, _, hrun⟩ := search_passesAll hfront idle_none (t :: rest) 0
  rw [Nat.zero_add, ← hsplit] at hrun
  obtain ⟨hnone, hprogress⟩ : (search hit turns none ⟨.scanning, 0⟩ a).hit = none ∧
      (search hit turns none ⟨.scanning, 0⟩ a).progress =
        Progress.reach ⟨.scanning, countLate front⟩ .scanTimedOut := by
    rw [hrun]
    exact search_ends ht rest ⟨.scanning, countLate front⟩
  have hbegin : Progress.begun.reach .scanning = ⟨.scanning, 0⟩ := rfl
  simp only [conduct, hbegin, Report.ofSearch, hnone, hprogress]
  rfl

end Scanner

end BuildTriage.Scan
