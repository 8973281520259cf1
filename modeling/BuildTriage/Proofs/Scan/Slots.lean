import BuildTriage.Proofs.Scan.Workers
import Mathlib.Algebra.Ring.Nat
import Mathlib.Data.List.Nodup

/-!
# The places of abandoned workers

Any number of scans share an allowance, each with a worker at hand, and the moves of all of
them come in any order. The allowance counts the abandoned workers that have not given their
place back. Once all upkeep is done, these are the ones whose call of the matcher still
runs, and the ones whose call has crashed: these never give it back.
-/

namespace BuildTriage.Scan

/-- The workers of all scans that share an allowance, with those that have ended. -/
structure Workshop (α : Type) where
  /-- What they share. -/
  allowance : Allowance
  /-- The workers, in the order in which they began. -/
  workers : List (Worker α)
  deriving DecidableEq, Repr

namespace Workshop

variable {α : Type}

/-- A workshop without workers. -/
def fresh (cap : Nat) : Workshop α := ⟨.fresh cap, []⟩

/-- What happens in a workshop. -/
inductive Event (α : Type) where
  /-- A worker begins. -/
  | hire
  /-- A worker makes a move, or its scan does. -/
  | move (i : Nat) (m : Move α)

/-- What happens is upkeep. -/
def Event.isUpkeep : Event α → Bool
  | hire => false
  | move _ m => m.isUpkeep

/-- The workshop after something has happened, if it can. -/
def step (s : Workshop α) : Event α → Option (Workshop α)
  | .hire => some { s with workers := s.workers ++ [.begun] }
  | .move i m => do
    let w ← s.workers[i]?
    let (w, allowance) ← w.move? s.allowance m
    return ⟨allowance, s.workers.set i w⟩

/-- The workshop after all this has happened, if it can. -/
def run (s : Workshop α) : List (Event α) → Option (Workshop α)
  | [] => some s
  | e :: rest => (s.step e).bind fun t => t.run rest

/-- Nothing is left to be done but for calls to end, waits to end and scans to go on. -/
def AtRest (s : Workshop α) : Prop := ∀ w ∈ s.workers, w.Rests s.allowance

variable {s t : Workshop α} {cap : Nat}

/-- A place in a list of workers, and what changing it does. -/
theorem set_split {workers : List (Worker α)} {i : Nat} {w : Worker α}
    (h : workers[i]? = some w) : ∃ front back, workers = front ++ w :: back ∧
      ∀ w', workers.set i w' = front ++ w' :: back := by
  obtain ⟨hi, hw⟩ := List.getElem?_eq_some_iff.mp h
  refine ⟨workers.take i, workers.drop (i + 1), ?_, fun w' => ?_⟩
  · rw [← hw, ← List.drop_eq_getElem_cons hi, List.take_append_drop]
  · rw [List.set_eq_take_append_cons_drop, if_pos hi]

/-- A move changes one worker, and may change the allowance. -/
theorem exists_of_move {i : Nat} {m : Move α} (h : s.step (.move i m) = some t) :
    ∃ front w back w' a, s.workers = front ++ w :: back ∧
      w.move? s.allowance m = some (w', a) ∧ t = ⟨a, front ++ w' :: back⟩ := by
  simp only [step] at h
  obtain ⟨w, hw, h⟩ := Option.bind_eq_some_iff.mp h
  obtain ⟨⟨w', a⟩, hmove, h⟩ := Option.bind_eq_some_iff.mp h
  obtain ⟨front, back, hsplit, hset⟩ := set_split hw
  cases h
  exact ⟨front, w, back, w', a, hsplit, hmove, by rw [hset]⟩

/-- The allowance counts the workers that have a place, and no more than it may. -/
structure Kept (cap : Nat) (s : Workshop α) : Prop where
  /-- The cap stays what it was. -/
  cap_eq : s.allowance.cap = cap
  /-- There is a place for each worker that has one. -/
  running_eq : s.allowance.running = s.workers.countP (·.counts)
  /-- No more places are taken than there are. -/
  running_le : s.allowance.running ≤ cap
  /-- The workers are sound. -/
  sound : ∀ w ∈ s.workers, w.Sound

theorem kept_fresh (cap : Nat) : Kept cap (fresh cap : Workshop α) where
  cap_eq := rfl
  running_eq := rfl
  running_le := Nat.zero_le cap
  sound := nofun

/-- One event keeps the count. -/
theorem Kept.step (h : Kept cap s) {e : Event α} (hs : s.step e = some t) : Kept cap t := by
  cases e with
  | hire =>
    cases hs
    refine ⟨h.cap_eq, ?_, h.running_le, ?_⟩
    · have hbegun : (Worker.begun : Worker α).counts = false := rfl
      simp only [List.countP_append, List.countP_singleton, hbegun, h.running_eq]
      rfl
    · exact List.forall_mem_append.mpr ⟨h.sound, List.forall_mem_singleton.mpr Worker.sound_begun⟩
  | move i m =>
    obtain ⟨front, w, back, w', a, hsplit, hmove, rfl⟩ := exists_of_move hs
    have hsound := h.sound
    have hcount := h.running_eq
    rw [hsplit, List.forall_mem_append, List.forall_mem_cons] at hsound
    obtain ⟨hfront, hw, hback⟩ := hsound
    have hsound' : ∀ v ∈ front ++ w' :: back, v.Sound :=
      List.forall_mem_append.mpr ⟨hfront, List.forall_mem_cons.mpr ⟨hw.move hmove, hback⟩⟩
    simp only [hsplit, List.countP_append, List.countP_cons] at hcount
    have hle := h.running_le
    have hcap := h.cap_eq
    cases Worker.effect_of_move hw hmove with
    | keeps hcounts ha =>
      subst ha
      refine ⟨hcap, ?_, hle, hsound'⟩
      simp only [List.countP_append, List.countP_cons, hcounts, hcount]
    | takes _ _ hroom hbefore hafter ha =>
      subst ha
      refine ⟨hcap, ?_, by simp only; omega, hsound'⟩
      simp only [List.countP_append, List.countP_cons, hbefore, hafter, hcount]
      simp only [Bool.false_eq_true, if_true, if_false]
      omega
    | repays hbefore hafter ha =>
      subst ha
      refine ⟨hcap, ?_, Nat.le_trans (Nat.sub_le _ _) hle, hsound'⟩
      simp only [List.countP_append, List.countP_cons, hbefore, hafter, hcount, Allowance.release]
      simp only [Bool.false_eq_true, if_true, if_false]
      omega

/-- Any events keep the count. -/
theorem Kept.run (h : Kept cap s) {events : List (Event α)} (hs : s.run events = some t) :
    Kept cap t := by
  induction events generalizing s with
  | nil => cases hs; exact h
  | cons e rest ih =>
    obtain ⟨u, hu, hrest⟩ := Option.bind_eq_some_iff.mp hs
    exact ih (h.step hu) hrest

/-- How many moves of upkeep a workshop has before it at most. -/
def distance (s : Workshop α) : Nat := (s.workers.map (·.distance)).sum

/-- Where there is upkeep to be done, it can be done. -/
theorem exists_upkeep (h : ¬s.AtRest) : ∃ e t, e.isUpkeep = true ∧ s.step e = some t ∧
    t.distance < s.distance := by
  simp only [AtRest, Worker.Rests, not_forall] at h
  obtain ⟨w, hw, m, hup, hmove⟩ := h
  obtain ⟨⟨w', a⟩, hmove⟩ := Option.ne_none_iff_exists'.mp hmove
  obtain ⟨i, hi, hget⟩ := List.getElem_of_mem hw
  have hat : s.workers[i]? = some w := List.getElem?_eq_some_iff.mpr ⟨hi, hget⟩
  obtain ⟨front, back, hsplit, hset⟩ := set_split hat
  refine ⟨.move i m, ⟨a, front ++ w' :: back⟩, hup, ?_, ?_⟩
  · simp only [step, hat, hmove, Option.bind_eq_bind, Option.bind_some, hset]
    rfl
  · have hless := Worker.distance_lt hup hmove
    simp only [distance, hsplit, List.map_append, List.map_cons, List.sum_append, List.sum_cons]
    omega

/-- All upkeep can be done. -/
theorem exists_atRest (s : Workshop α) : ∃ events t, (∀ e ∈ events, e.isUpkeep = true) ∧
    s.run events = some t ∧ t.AtRest := by
  induction hn : s.distance using Nat.strongRecOn generalizing s with
  | _ n ih =>
    by_cases hrest : s.AtRest
    · exact ⟨[], s, nofun, rfl, hrest⟩
    · obtain ⟨e, t, hup, hstep, hless⟩ := exists_upkeep hrest
      obtain ⟨events, u, hall, hrun, hu⟩ := ih t.distance (hn ▸ hless) t rfl
      refine ⟨e :: events, u, List.forall_mem_cons.mpr ⟨hup, hall⟩, ?_, hu⟩
      simp only [run, hstep, Option.bind_some, hrun]

/-- Scans that have waited long enough can all abandon their workers, if there is room. -/
theorem exists_abandoned {places : List Nat} (hn : places.Nodup)
    (hlate : ∀ i ∈ places, ∃ w, s.workers[i]? = some w ∧ w.bond = .late)
    (hroom : s.allowance.running + places.length ≤ s.allowance.cap) :
    ∃ t, s.run (places.map fun i => .move i .abandon) = some t ∧
      t.allowance.running = s.allowance.running + places.length ∧
      (∀ i ∈ places, ∃ w, t.workers[i]? = some w ∧ w.bond = .abandoned) ∧
      ∀ i ∉ places, t.workers[i]? = s.workers[i]? := by
  induction places generalizing s with
  | nil => exact ⟨s, rfl, rfl, nofun, fun _ _ => rfl⟩
  | cons i rest ih =>
    obtain ⟨hi, hrest⟩ := List.nodup_cons.mp hn
    obtain ⟨⟨w, hw, hbond⟩, hothers⟩ := List.forall_mem_cons.mp hlate
    rw [List.length_cons] at hroom
    let less : Allowance := { s.allowance with running := s.allowance.running + 1 }
    have hfree : s.allowance.abandon? = some less :=
      if_pos (Nat.lt_of_lt_of_le (by omega : s.allowance.running < _) hroom)
    let t : Workshop α := ⟨less, s.workers.set i { w with bond := .abandoned }⟩
    have hstep : s.step (.move i .abandon) = some t := by
      simp only [step, hw, Option.bind_eq_bind, Option.bind_some, Worker.move?, hbond, if_true,
        hfree]
      rfl
    have hsame : ∀ j, j ≠ i → t.workers[j]? = s.workers[j]? :=
      fun j hj => List.getElem?_set_ne (Ne.symm hj)
    have hself : t.workers[i]? = some { w with bond := .abandoned } :=
      List.getElem?_set_self (List.getElem?_eq_some_iff.mp hw).1
    have hlate' : ∀ j ∈ rest, ∃ v, t.workers[j]? = some v ∧ v.bond = .late := by
      intro j hj
      rw [hsame j fun he => hi (he ▸ hj)]
      exact hothers j hj
    obtain ⟨u, hrun, hrunning, habandoned, hframe⟩ := ih (s := t) hrest hlate'
      (by show s.allowance.running + 1 + rest.length ≤ s.allowance.cap; omega)
    refine ⟨u, ?_, ?_, ?_, ?_⟩
    · simp only [List.map_cons, run, hstep, Option.bind_some, hrun]
    · rw [hrunning, List.length_cons]
      show s.allowance.running + 1 + rest.length = _
      omega
    · refine List.forall_mem_cons.mpr ⟨⟨_, (hframe i hi).trans hself, rfl⟩, habandoned⟩
    · intro j hj
      rw [List.mem_cons, not_or] at hj
      rw [hframe j hj.2, hsame j hj.1]

/-- Whatever scans and workers do in whatever order, as many places of the allowance are taken
as there are abandoned workers that have not given theirs back, and never more than there are.
A worker gives a place back once if it is abandoned and has ended, and never else. What is left
to be done can be done; then the abandoned workers that have a place are those whose call of the
matcher still runs or has crashed. When all abandoned workers have ended no place is taken, and
as many scans as there are free places can abandon their workers. -/
theorem places_of_run {events : List (Event α)} (h : (fresh cap).run events = some s) :
    s.allowance.running ≤ cap ∧
    s.allowance.running = s.workers.countP (·.counts) ∧
    (∀ w ∈ s.workers, w.repaid ≤ 1 ∧
      (w.repaid = 1 ↔ w.bond = .abandoned ∧ w.thread = .ended)) ∧
    (∃ upkeep t, (∀ e ∈ upkeep, e.isUpkeep = true) ∧ s.run upkeep = some t ∧ t.AtRest) ∧
    (s.AtRest → s.allowance.running = s.workers.countP fun w =>
      w.bond == .abandoned && (w.thread.isCalling || w.thread.hasCrashed)) ∧
    ((∀ w ∈ s.workers, w.bond = .abandoned → w.thread = .ended) → s.allowance.running = 0) ∧
    ∀ places : List Nat, places.Nodup →
      (∀ i ∈ places, ∃ w, s.workers[i]? = some w ∧ w.bond = .late) →
      s.allowance.running + places.length ≤ cap →
      ∃ t, s.run (places.map fun i => .move i .abandon) = some t ∧
        ∀ i ∈ places, ∃ w, t.workers[i]? = some w ∧ w.bond = .abandoned := by
  have hkept := (kept_fresh cap).run h
  refine ⟨hkept.running_le, hkept.running_eq, fun w hw => (hkept.sound w hw).repaid,
    exists_atRest s, fun hrest => ?_, fun hended => ?_, fun places hn hlate hroom => ?_⟩
  · rw [hkept.running_eq]
    exact List.countP_congr fun w hw => by
      rw [Worker.Rests.counts_eq (hkept.sound w hw) (hrest w hw)]
  · rw [hkept.running_eq, List.countP_eq_zero]
    intro w hw hcounts
    have hbond : w.bond = .abandoned := by grind [Worker.counts]
    have hrepaid := (hkept.sound w hw).repaid.2.mpr ⟨hbond, hended w hw hbond⟩
    grind [Worker.counts]
  · rw [← hkept.cap_eq] at hroom
    obtain ⟨t, hrun, -, habandoned, -⟩ := exists_abandoned hn hlate hroom
    exact ⟨t, hrun, habandoned⟩

/-- Two workers are abandoned in the middle of their calls. The call of the first one returns
while its scan has not marked it yet, and it gives its place back all the same. -/
def sampleEvents : List (Event Unit) :=
  [.hire, .move 0 (.send ()), .move 0 .take, .move 0 .expire, .hire, .move 1 (.send ()),
    .move 0 .abandon, .move 0 (.answer none), .move 0 .reply, .move 1 .take, .move 1 .expire,
    .move 0 .mark, .move 0 .closeItems, .move 1 .abandon, .move 0 .stop, .move 0 .closeAnswers,
    .move 0 .look, .move 0 .repay]

/-- One place is taken in the end, for the worker whose call still runs. -/
theorem places_of_run_sample :
    let first : Worker Unit := ⟨.abandoned, .ended, ⟨[], [none]⟩, false, false, true, 1⟩
    let second : Worker Unit := ⟨.abandoned, .calling (), ⟨[], []⟩, true, true, false, 0⟩
    (fresh 2).run sampleEvents = some ⟨⟨1, 2⟩, [first, second]⟩ ∧
    1 = [first, second].countP (·.counts) ∧ first.repaid ≤ 1 ∧
    ∃ upkeep t, (∀ e ∈ upkeep, e.isUpkeep = true) ∧
      run ⟨⟨1, 2⟩, [first, second]⟩ upkeep = some t ∧ t.AtRest := by
  intro first second
  have hrun : (fresh 2).run sampleEvents = some ⟨⟨1, 2⟩, [first, second]⟩ := by decide
  obtain ⟨-, hcount, hrepaid, hupkeep, -⟩ := places_of_run hrun
  exact ⟨hrun, hcount, (hrepaid first List.mem_cons_self).1, hupkeep⟩

end Workshop

end BuildTriage.Scan
