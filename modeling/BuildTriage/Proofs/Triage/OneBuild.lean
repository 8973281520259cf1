import BuildTriage.Proofs.BuildLocks

/-!
# The locks when every call is for one build

When every call under way is for one build, one lock is all there is. It has a holder or it has
none, and some calls wait for it. A call that takes the lock was one of those that wait, and
found no holder.
-/

namespace BuildTriage

namespace BuildLocks

variable {l next : BuildLocks} {b : BuildRef} {id : Nat}

/-- The call that holds its lock. -/
def holder? (l : BuildLocks) : Option LockCall := l.calls.find? (·.stage == .holding)

/-- The calls that wait. -/
def waiting (l : BuildLocks) : List Nat := (l.calls.filter (·.stage == .waiting)).map (·.id)

/-- The locks are in order, and every call is for one build. -/
structure TidyFor (b : BuildRef) (l : BuildLocks) : Prop where
  /-- The locks are in order. -/
  tidy : l.Tidy
  /-- Every call is for the build. -/
  build_eq : ∀ c ∈ l.calls, c.build = b

namespace TidyFor

/-- The holder is the one call that holds its lock. -/
theorem holder_eq_some (h : l.TidyFor b) {c : LockCall} :
    l.holder? = some c ↔ c ∈ l.calls ∧ c.stage = .holding := by
  constructor
  · intro hfind
    have hstage := List.find?_some hfind
    exact ⟨List.mem_of_find?_eq_some hfind, beq_iff_eq.mp hstage⟩
  · rintro ⟨hc, hholds⟩
    cases hfind : l.holder? with
    | none => exact absurd (beq_iff_eq.mpr hholds) (List.find?_eq_none.mp hfind c hc)
    | some d =>
      have hd := List.mem_of_find?_eq_some hfind
      have hstage := List.find?_some hfind
      have hlock := h.tidy.lock_of_build hd hc ((h.build_eq d hd).trans (h.build_eq c hc).symm)
      rw [h.tidy.held d hd c hc hlock (beq_iff_eq.mp hstage) hholds]

theorem empty (b : BuildRef) : BuildLocks.empty.TidyFor b where
  tidy := Tidy.empty
  build_eq _ h := absurd h List.not_mem_nil

end TidyFor

/-- The calls when another one has begun. -/
theorem enter_calls (l : BuildLocks) (b : BuildRef) : ∃ lock,
    (l.enter b).2.calls = l.calls ++ [⟨l.unused, b, lock, .waiting⟩] := by
  unfold enter
  cases l.lock? b with
  | some lock => exact ⟨lock, rfl⟩
  | none => exact ⟨l.unused, rfl⟩

theorem enter_id (l : BuildLocks) (b : BuildRef) : (l.enter b).1 = l.unused := by
  unfold enter
  cases l.lock? b <;> rfl

/-- A call that begins waits. -/
theorem waiting_enter (l : BuildLocks) (b : BuildRef) :
    (l.enter b).2.waiting = l.waiting ++ [l.unused] := by
  obtain ⟨lock, hcalls⟩ := enter_calls l b
  unfold waiting
  rw [hcalls, List.filter_append, List.map_append]
  rfl

/-- A call that begins does not hold the lock. -/
theorem holder_enter (l : BuildLocks) (b : BuildRef) : (l.enter b).2.holder? = l.holder? := by
  obtain ⟨lock, hcalls⟩ := enter_calls l b
  unfold holder?
  rw [hcalls, List.find?_append]
  exact Option.or_none

/-- A call that goes on waits no more. -/
theorem waiting_move (l : BuildLocks) (id : Nat) (stage : LockStage) (h : stage ≠ .waiting) :
    (l.move id stage).waiting = l.waiting.filter (· != id) := by
  have hids : (·.id) ∘ (·.moved id stage) = LockCall.id := funext fun c => c.moved_id id stage
  have hstays : ∀ c : LockCall, ((c.moved id stage).stage == .waiting) =
      (c.id != id && c.stage == .waiting) := by
    intro c
    rw [LockCall.moved_stage]
    by_cases hid : c.id = id
    · rw [if_pos hid, bne_eq_false_iff_eq.mpr hid, Bool.false_and, beq_eq_false_iff_ne]
      exact h
    · rw [if_neg hid, bne_iff_ne.mpr hid, Bool.true_and]
  unfold waiting
  rw [move_calls, List.filter_map, List.map_map, hids, List.filter_map, List.filter_filter]
  exact congrArg _ (List.filter_congr fun c _ => hstays c)

namespace TidyFor

variable (h : l.TidyFor b)

include h

/-- A call that does not wait is not among those that do. -/
theorem not_mem_waiting {c : LockCall} (hc : c ∈ l.calls) (hstage : c.stage ≠ .waiting) :
    c.id ∉ l.waiting := by
  intro hmem
  obtain ⟨d, hd, hid⟩ := List.mem_map.mp hmem
  obtain ⟨hd, hwaits⟩ := List.mem_filter.mp hd
  rw [List.inj_on_of_nodup_map h.tidy.ids hd hc hid] at hwaits
  exact hstage (beq_iff_eq.mp hwaits)

/-- A call that waits has an id that has been used. -/
theorem waiting_lt (hid : id ∈ l.waiting) : id < l.unused := by
  obtain ⟨c, hc, rfl⟩ := List.mem_map.mp hid
  exact h.tidy.fresh_id c (List.mem_filter.mp hc).1

theorem holder_lt {c : LockCall} (hc : l.holder? = some c) : c.id < l.unused :=
  h.tidy.fresh_id c (h.holder_eq_some.mp hc).1

theorem waiting_filter {c : LockCall} (hc : c ∈ l.calls) (hstage : c.stage ≠ .waiting) :
    l.waiting.filter (· != c.id) = l.waiting := by
  refine List.filter_eq_self.mpr fun other hother => bne_iff_ne.mpr ?_
  rintro rfl
  exact h.not_mem_waiting hc hstage hother

theorem move {c : LockCall} (hc : c ∈ l.calls) {stage : LockStage}
    (hfree : stage = .holding → l.isHeld c.lock = false) : (l.move c.id stage).TidyFor b where
  tidy := h.tidy.move hc hfree
  build_eq := by
    rw [move_calls]
    refine List.forall_mem_map.mpr fun d hd => ?_
    rw [LockCall.moved_build]
    exact h.build_eq d hd

/-- A call for the build begins: it waits, and whoever held the lock holds it still. -/
theorem enter : (l.enter b).2.TidyFor b where
  tidy := h.tidy.enter b
  build_eq := by
    obtain ⟨lock, hcalls⟩ := enter_calls l b
    rw [hcalls]
    exact List.forall_mem_append.mpr ⟨h.build_eq, List.forall_mem_singleton.mpr rfl⟩

/-- Who takes the lock has waited for it, and holds it then; before, nobody did. -/
theorem take (hs : l.take? id = some next) : next.TidyFor b ∧ l.holder? = none ∧
    (∃ c, next.holder? = some c ∧ c.id = id) ∧ l.waiting.Perm (id :: next.waiting) := by
  obtain ⟨c, hc, rfl, hwaits, hfree, rfl⟩ := exists_of_take hs
  have hnext : (l.move c.id .holding).TidyFor b := h.move hc fun _ => hfree
  refine ⟨hnext, ?_, ⟨c.moved c.id .holding, ?_, c.moved_id _ _⟩, ?_⟩
  · refine Option.eq_none_iff_forall_ne_some.mpr fun d hd => ?_
    obtain ⟨hd, hholds⟩ := h.holder_eq_some.mp hd
    have hlock := h.tidy.lock_of_build hd hc ((h.build_eq d hd).trans (h.build_eq c hc).symm)
    rw [isHeld_iff.mpr ⟨d, hd, hlock, hholds⟩] at hfree
    exact absurd hfree nofun
  · refine hnext.holder_eq_some.mpr ⟨?_, ?_⟩
    · rw [move_calls]
      exact List.mem_map_of_mem hc
    · rw [LockCall.moved_stage, if_pos rfl]
  · have hmem : c.id ∈ l.waiting :=
      List.mem_map_of_mem (List.mem_filter.mpr ⟨hc, beq_iff_eq.mpr hwaits⟩)
    have hnodup : l.waiting.Nodup := h.tidy.ids.sublist (List.filter_sublist.map _)
    rw [waiting_move l c.id .holding nofun, ← hnodup.erase_eq_filter]
    exact List.perm_cons_erase hmem

/-- Who releases the lock has held it, and nobody does then. -/
theorem release (hs : l.release? id = some next) : next.TidyFor b ∧
    (∃ c, l.holder? = some c ∧ c.id = id) ∧ next.holder? = none ∧ next.waiting = l.waiting := by
  obtain ⟨c, hc, rfl, hholds, rfl⟩ := exists_of_release hs
  have hnext : (l.move c.id .leaving).TidyFor b := h.move hc nofun
  have hholder : l.holder? = some c := h.holder_eq_some.mpr ⟨hc, hholds⟩
  refine ⟨hnext, ⟨c, hholder, rfl⟩, ?_, ?_⟩
  · refine Option.eq_none_iff_forall_ne_some.mpr fun d hd => ?_
    obtain ⟨hd, hstage⟩ := hnext.holder_eq_some.mp hd
    rw [move_calls] at hd
    obtain ⟨e, he, rfl⟩ := List.mem_map.mp hd
    rw [LockCall.moved_stage] at hstage
    split at hstage
    · exact absurd hstage nofun
    · next hid =>
      -- whoever else holds the lock is the one that releases it
      have hsame := h.holder_eq_some.mpr ⟨he, hstage⟩
      rw [hholder, Option.some.injEq] at hsame
      exact hid (congrArg LockCall.id hsame.symm)
  · rw [waiting_move l c.id .leaving nofun]
    exact h.waiting_filter hc (by rw [hholds]; exact nofun)

/-- Who leaves neither waits for the lock nor holds it. -/
theorem leave (hs : l.leave? id = some next) :
    next.TidyFor b ∧ next.holder? = l.holder? ∧ next.waiting = l.waiting := by
  obtain ⟨c, hc, rfl, hstage, hcalls⟩ := exists_of_leave hs
  have hnext : next.TidyFor b := ⟨h.tidy.leave hs, fun d hd => by
    rw [hcalls] at hd
    exact h.build_eq d (List.mem_filter.mp hd).1⟩
  refine ⟨hnext, Option.ext fun d => ?_, ?_⟩
  · rw [hnext.holder_eq_some, h.holder_eq_some, hcalls, List.mem_filter]
    refine and_congr_left fun hholds => and_iff_left_of_imp fun hd => bne_iff_ne.mpr fun hid => ?_
    rw [List.inj_on_of_nodup_map h.tidy.ids hd hc hid, hstage] at hholds
    exact absurd hholds nofun
  · have hfilter := h.waiting_filter hc (by rw [hstage]; exact nofun)
    rw [← hfilter]
    unfold waiting
    rw [hcalls, List.filter_map, List.filter_filter, List.filter_filter]
    exact congrArg _ (List.filter_congr fun d _ => Bool.and_comm _ _)

end TidyFor

end BuildLocks

end BuildTriage
