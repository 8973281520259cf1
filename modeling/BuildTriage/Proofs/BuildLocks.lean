import BuildTriage.BuildLocks
import Mathlib.Data.List.Nodup

/-!
# One call at a time holds the lock of a build

The entry of a lock goes when a call leaves and nobody else has the lock in hand. While a call
for a build is under way the build keeps its entry, so every call for it has the same lock in
hand, and that is why a lock that one call at a time can hold lets one call at a time work on
the build. Those who have a lock in hand are the table and the calls for the build, whatever
these are doing.
-/

namespace BuildTriage

/-- A step of a call. -/
inductive LockStep where
  /-- A call for a build begins. -/
  | enter (build : BuildRef)
  /-- A call takes the lock that it has in hand. -/
  | take (id : Nat)
  /-- A call releases its lock. -/
  | release (id : Nat)
  /-- A call ends. -/
  | leave (id : Nat)
  deriving DecidableEq, Repr

namespace LockCall

/-- A call when the one of an id has gone on to a stage. -/
def moved (c : LockCall) (id : Nat) (stage : LockStage) : LockCall :=
  if c.id = id then { c with stage := stage } else c

variable (c : LockCall) (id : Nat) (stage : LockStage)

@[simp] theorem moved_id : (c.moved id stage).id = c.id := by
  unfold moved
  split <;> rfl

@[simp] theorem moved_build : (c.moved id stage).build = c.build := by
  unfold moved
  split <;> rfl

@[simp] theorem moved_lock : (c.moved id stage).lock = c.lock := by
  unfold moved
  split <;> rfl

theorem moved_stage : (c.moved id stage).stage = if c.id = id then stage else c.stage := by
  unfold moved
  split <;> rfl

end LockCall

namespace BuildLocks

/-- A step, if it can be taken. -/
def step? (l : BuildLocks) : LockStep → Option BuildLocks
  | .enter b => some (l.enter b).2
  | .take id => l.take? id
  | .release id => l.release? id
  | .leave id => l.leave? id

/-- Some steps, one after the other; one that cannot be taken is left out. -/
def run (l : BuildLocks) (steps : List LockStep) : BuildLocks :=
  steps.foldl (fun l e => (l.step? e).getD l) l

/-- How many have a lock in hand: the table, and calls. -/
def handles (l : BuildLocks) (lock : Nat) : Nat :=
  l.entries.countP (·.2 == lock) + l.calls.countP (·.lock == lock)

/-- The locks when a call has dropped the one that it had in hand. -/
def drop (l : BuildLocks) (id : Nat) : BuildLocks :=
  { l with calls := l.calls.filter (·.id != id) }

/-- The locks without the entry of a build. -/
def strike (l : BuildLocks) (b : BuildRef) : BuildLocks :=
  { l with entries := l.entries.filter (·.1 != b) }

/-- What each step keeps. -/
structure Tidy (l : BuildLocks) : Prop where
  /-- A call is known by its id. -/
  ids : (l.calls.map (·.id)).Nodup
  /-- A build has one entry at most. -/
  builds : (l.entries.map (·.1)).Nodup
  /-- No two builds have the same lock. -/
  locks : (l.entries.map (·.2)).Nodup
  /-- A call has the lock in hand that the table has for its build. -/
  in_hand : ∀ c ∈ l.calls, (c.build, c.lock) ∈ l.entries
  /-- An entry stays for the sake of some call. -/
  needed : ∀ e ∈ l.entries, ∃ c ∈ l.calls, c.build = e.1
  /-- A lock is held by one call at most. -/
  held : ∀ c ∈ l.calls, ∀ d ∈ l.calls, c.lock = d.lock → c.stage = .holding →
    d.stage = .holding → c = d
  /-- The next call gets an id that none has. -/
  fresh_id : ∀ c ∈ l.calls, c.id < l.unused
  /-- The next lock is one that no build has. -/
  fresh_lock : ∀ e ∈ l.entries, e.2 < l.unused

variable {l : BuildLocks}

section Lookups

/-- What a build is looked up to is in the table. -/
theorem mem_of_lock {b : BuildRef} {lock : Nat} (h : l.lock? b = some lock) :
    (b, lock) ∈ l.entries := by
  obtain ⟨before, after, hsplit, -⟩ := List.lookup_eq_some_iff.mp h
  rw [hsplit]
  exact List.mem_append_right _ List.mem_cons_self

/-- A build that is looked up in vain is not in the table. -/
theorem not_mem_of_lock {b : BuildRef} (h : l.lock? b = none) : b ∉ l.entries.map (·.1) := by
  intro hb
  obtain ⟨e, he, rfl⟩ := List.mem_map.mp hb
  have hne := List.lookup_eq_none_iff.mp h e he
  rw [bne_self_eq_false] at hne
  exact Bool.false_ne_true hne

/-- A call that is found is under way. -/
theorem mem_of_call {id : Nat} {c : LockCall} (h : l.call? id = some c) :
    c ∈ l.calls ∧ c.id = id := by
  have hid := List.find?_some h
  exact ⟨List.mem_of_find?_eq_some h, beq_iff_eq.mp hid⟩

/-- A lock is held while some call holds it. -/
theorem isHeld_iff {lock : Nat} :
    l.isHeld lock = true ↔ ∃ c ∈ l.calls, c.lock = lock ∧ c.stage = .holding := by
  simp [isHeld, List.any_eq_true]

theorem move_calls (l : BuildLocks) (id : Nat) (stage : LockStage) :
    (l.move id stage).calls = l.calls.map (·.moved id stage) := rfl

end Lookups

section Inversion

variable {id : Nat} {next : BuildLocks}

/-- Who takes a lock has waited for it, and nobody held it. -/
theorem exists_of_take (h : l.take? id = some next) : ∃ c ∈ l.calls, c.id = id ∧
    c.stage = .waiting ∧ l.isHeld c.lock = false ∧ next = l.move id .holding := by
  unfold take? at h
  split at h
  · next c hcall =>
    obtain ⟨hc, hid⟩ := mem_of_call hcall
    split at h
    · next hmay =>
      have hfree := Bool.not_eq_true' _ ▸ hmay.2
      exact ⟨c, hc, hid, hmay.1, hfree, (Option.some.inj h).symm⟩
    · exact absurd h nofun
  · exact absurd h nofun

/-- Who releases a lock has held it. -/
theorem exists_of_release (h : l.release? id = some next) :
    ∃ c ∈ l.calls, c.id = id ∧ c.stage = .holding ∧ next = l.move id .leaving := by
  unfold release? at h
  split at h
  · next c hcall =>
    obtain ⟨hc, hid⟩ := mem_of_call hcall
    split at h
    · next hholds => exact ⟨c, hc, hid, hholds, (Option.some.inj h).symm⟩
    · exact absurd h nofun
  · exact absurd h nofun

/-- Who leaves has released its lock. -/
theorem exists_of_leave (h : l.leave? id = some next) : ∃ c ∈ l.calls, c.id = id ∧
    c.stage = .leaving ∧ next.calls = l.calls.filter (·.id != id) := by
  unfold leave? at h
  split at h
  · next c hcall =>
    obtain ⟨hc, hid⟩ := mem_of_call hcall
    split at h
    · next hstage =>
      refine ⟨c, hc, hid, hstage, ?_⟩
      dsimp only at h
      split at h
      · split at h
        all_goals rw [← Option.some.inj h]
      · rw [← Option.some.inj h]
    · cases h
  · cases h

end Inversion

/-- One more element with another key leaves the keys distinct. -/
theorem nodup_map_concat {α β : Type} {key : α → β} {xs : List α} {x : α}
    (h : (xs.map key).Nodup) (hx : key x ∉ xs.map key) : ((xs ++ [x]).map key).Nodup := by
  rw [List.map_append, List.map_singleton, ← List.concat_eq_append]
  exact h.concat hx

namespace Tidy

/-- The lock of a build is the one of its entry. -/
theorem lock_eq (h : l.Tidy) {b : BuildRef} {lock : Nat} (hmem : (b, lock) ∈ l.entries) :
    l.lock? b = some lock := by
  cases hfound : l.lock? b with
  | none => exact absurd (List.mem_map_of_mem hmem) (not_mem_of_lock hfound)
  | some other =>
    have hsame := List.inj_on_of_nodup_map h.builds (mem_of_lock hfound) hmem rfl
    rw [(Prod.mk.inj hsame).2]

/-- Calls for one build have one lock in hand. -/
theorem lock_of_build (h : l.Tidy) {c d : LockCall} (hc : c ∈ l.calls) (hd : d ∈ l.calls)
    (hbuild : c.build = d.build) : c.lock = d.lock := by
  have hsame := List.inj_on_of_nodup_map h.builds (h.in_hand c hc) (h.in_hand d hd) hbuild
  exact (Prod.mk.inj hsame).2

/-- Calls with one lock in hand are for one build. -/
theorem build_of_lock (h : l.Tidy) {c d : LockCall} (hc : c ∈ l.calls) (hd : d ∈ l.calls)
    (hlock : c.lock = d.lock) : c.build = d.build := by
  have hsame := List.inj_on_of_nodup_map h.locks (h.in_hand c hc) (h.in_hand d hd) hlock
  exact (Prod.mk.inj hsame).1

/-- A call is found by its id. -/
theorem call_eq (h : l.Tidy) {c : LockCall} (hc : c ∈ l.calls) : l.call? c.id = some c := by
  cases hfound : l.call? c.id with
  | none => exact absurd (beq_self_eq_true c.id) (List.find?_eq_none.mp hfound c hc)
  | some d =>
    obtain ⟨hd, hid⟩ := mem_of_call hfound
    rw [List.inj_on_of_nodup_map h.ids hd hc hid]

/-- There is nothing to keep at the beginning. -/
theorem empty : BuildLocks.empty.Tidy where
  ids := List.nodup_nil
  builds := List.nodup_nil
  locks := List.nodup_nil
  in_hand _ h := absurd h List.not_mem_nil
  needed _ h := absurd h List.not_mem_nil
  held _ h := absurd h List.not_mem_nil
  fresh_id _ h := absurd h List.not_mem_nil
  fresh_lock _ h := absurd h List.not_mem_nil

/-- A call begins, with a lock in hand that the table has then for its build. The table has at
most gained the entry of that lock. -/
theorem joined (h : l.Tidy) {b : BuildRef} {lock : Nat} {entries : List (BuildRef × Nat)}
    (hbuilds : (entries.map (·.1)).Nodup) (hlocks : (entries.map (·.2)).Nodup)
    (hentry : (b, lock) ∈ entries) (hkept : ∀ e ∈ l.entries, e ∈ entries)
    (hgained : ∀ e ∈ entries, e ∈ l.entries ∨ e = (b, lock)) (hlock : lock ≤ l.unused) :
    Tidy ⟨entries, l.calls ++ [⟨l.unused, b, lock, .waiting⟩], l.unused + 1⟩ where
  ids := by
    refine nodup_map_concat h.ids fun hused => ?_
    obtain ⟨c, hc, hid⟩ := List.mem_map.mp hused
    exact absurd hid (Nat.ne_of_lt (h.fresh_id c hc))
  builds := hbuilds
  locks := hlocks
  in_hand := List.forall_mem_append.mpr
    ⟨fun c hc => hkept _ (h.in_hand c hc), List.forall_mem_singleton.mpr hentry⟩
  needed e he := by
    rcases hgained e he with hold | rfl
    · obtain ⟨c, hc, hbuild⟩ := h.needed e hold
      exact ⟨c, List.mem_append_left _ hc, hbuild⟩
    · exact ⟨_, List.mem_append_right _ List.mem_cons_self, rfl⟩
  held c hc d hd hsame hholds hholds' := by
    -- the new call only waits
    have hold : ∀ c ∈ l.calls ++ [⟨l.unused, b, lock, .waiting⟩], c.stage = .holding →
        c ∈ l.calls := by
      intro c hc hstage
      rcases List.mem_append.mp hc with hc | hc
      · exact hc
      · rw [List.mem_singleton.mp hc] at hstage
        exact absurd hstage nofun
    exact h.held c (hold c hc hholds) d (hold d hd hholds') hsame hholds hholds'
  fresh_id := List.forall_mem_append.mpr
    ⟨fun c hc => Nat.lt_succ_of_lt (h.fresh_id c hc),
      List.forall_mem_singleton.mpr (Nat.lt_succ_self _)⟩
  fresh_lock e he := by
    rcases hgained e he with hold | rfl
    · exact Nat.lt_succ_of_lt (h.fresh_lock e hold)
    · exact Nat.lt_succ_of_le hlock

/-- A call that begins gets the lock of its build, or a new one. -/
theorem enter (h : l.Tidy) (b : BuildRef) : (l.enter b).2.Tidy := by
  unfold BuildLocks.enter
  cases hlock : l.lock? b with
  | some lock =>
    have hentry := mem_of_lock hlock
    exact h.joined h.builds h.locks hentry (fun _ he => he) (fun _ he => .inl he)
      (Nat.le_of_lt (h.fresh_lock _ hentry))
  | none =>
    have hnew : l.unused ∉ l.entries.map (·.2) := by
      intro hused
      obtain ⟨e, he, heq⟩ := List.mem_map.mp hused
      exact absurd heq (Nat.ne_of_lt (h.fresh_lock e he))
    refine h.joined (nodup_map_concat h.builds (not_mem_of_lock hlock))
      (nodup_map_concat h.locks hnew) (List.mem_append_right _ List.mem_cons_self)
      (fun _ he => List.mem_append_left _ he) (fun e he => ?_) (Nat.le_refl _)
    exact (List.mem_append.mp he).imp_right List.mem_singleton.mp

/-- A call goes on to a stage. It may come to hold its lock if nobody does. -/
theorem move (h : l.Tidy) {c : LockCall} (hc : c ∈ l.calls) {stage : LockStage}
    (hfree : stage = .holding → l.isHeld c.lock = false) : (l.move c.id stage).Tidy where
  ids := by
    have hids : (l.calls.map (·.moved c.id stage)).map (·.id) = l.calls.map (·.id) := by
      rw [List.map_map]
      exact List.map_congr_left fun d _ => d.moved_id c.id stage
    rw [move_calls, hids]
    exact h.ids
  builds := h.builds
  locks := h.locks
  in_hand := by
    rw [move_calls]
    refine List.forall_mem_map.mpr fun d hd => ?_
    rw [LockCall.moved_build, LockCall.moved_lock]
    exact h.in_hand d hd
  needed e he := by
    obtain ⟨d, hd, hbuild⟩ := h.needed e he
    exact ⟨d.moved c.id stage, List.mem_map_of_mem hd, (d.moved_build c.id stage).trans hbuild⟩
  held := by
    rw [move_calls]
    refine List.forall_mem_map.mpr fun d hd => List.forall_mem_map.mpr fun e he => ?_
    rw [LockCall.moved_lock, LockCall.moved_lock, LockCall.moved_stage, LockCall.moved_stage]
    intro hsame hdHolds heHolds
    -- two that held the lock before were one; the call that comes to hold it finds none
    have hnone : stage = .holding → ∀ other ∈ l.calls, other.lock = c.lock →
        other.stage ≠ .holding := by
      intro hstage other hother hlock hholds
      have hheld := isHeld_iff.mpr ⟨other, hother, hlock, hholds⟩
      rw [hfree hstage] at hheld
      exact Bool.false_ne_true hheld
    have hone : ∀ d ∈ l.calls, d.id = c.id → d = c := fun d hd hid =>
      List.inj_on_of_nodup_map h.ids hd hc hid
    by_cases hdid : d.id = c.id
    · obtain rfl := hone d hd hdid
      by_cases heid : e.id = d.id
      · rw [hone e he heid]
      · rw [if_pos rfl] at hdHolds
        rw [if_neg heid] at heHolds
        exact absurd heHolds (hnone hdHolds e he hsame.symm)
    · rw [if_neg hdid] at hdHolds
      by_cases heid : e.id = c.id
      · obtain rfl := hone e he heid
        rw [if_pos rfl] at heHolds
        exact absurd hdHolds (hnone heHolds d hd hsame)
      · rw [if_neg heid] at heHolds
        rw [h.held d hd e he hsame hdHolds heHolds]
  fresh_id := by
    rw [move_calls]
    refine List.forall_mem_map.mpr fun d hd => ?_
    rw [LockCall.moved_id]
    exact h.fresh_id d hd
  fresh_lock := h.fresh_lock

/-- A call that takes its lock finds it free. -/
theorem take (h : l.Tidy) {id : Nat} {next : BuildLocks} (hs : l.take? id = some next) :
    next.Tidy := by
  obtain ⟨c, hc, rfl, -, hfree, rfl⟩ := exists_of_take hs
  exact h.move hc fun _ => hfree

/-- A call releases its lock. -/
theorem release (h : l.Tidy) {id : Nat} {next : BuildLocks} (hs : l.release? id = some next) :
    next.Tidy := by
  obtain ⟨c, hc, rfl, -, rfl⟩ := exists_of_release hs
  exact h.move hc nofun

/-- The calls that are left are those of other ids. -/
theorem mem_drop {id : Nat} {d : LockCall} : d ∈ (l.drop id).calls ↔ d ∈ l.calls ∧ d.id ≠ id := by
  rw [BuildLocks.drop, List.mem_filter, bne_iff_ne]

/-- A call drops its lock, which another call for the build has in hand. -/
theorem drop_shared (h : l.Tidy) {c other : LockCall} (hc : c ∈ l.calls) (hother : other ∈ l.calls)
    (hid : other.id ≠ c.id) (hbuild : other.build = c.build) : (l.drop c.id).Tidy where
  ids := h.ids.sublist (List.filter_sublist.map _)
  builds := h.builds
  locks := h.locks
  in_hand d hd := h.in_hand d (mem_drop.mp hd).1
  needed e he := by
    obtain ⟨d, hd, hfor⟩ := h.needed e he
    by_cases hdid : d.id = c.id
    · obtain rfl := List.inj_on_of_nodup_map h.ids hd hc hdid
      exact ⟨other, mem_drop.mpr ⟨hother, hid⟩, hbuild.trans hfor⟩
    · exact ⟨d, mem_drop.mpr ⟨hd, hdid⟩, hfor⟩
  held d hd e he := h.held d (mem_drop.mp hd).1 e (mem_drop.mp he).1
  fresh_id d hd := h.fresh_id d (mem_drop.mp hd).1
  fresh_lock := h.fresh_lock

/-- A call drops its lock, which no other call has in hand, and the entry of its build goes. -/
theorem drop_last (h : l.Tidy) {c : LockCall} (hc : c ∈ l.calls)
    (hlast : ∀ d ∈ l.calls, d.id ≠ c.id → d.build ≠ c.build) :
    ((l.drop c.id).strike c.build).Tidy where
  ids := h.ids.sublist (List.filter_sublist.map _)
  builds := h.builds.sublist (List.filter_sublist.map _)
  locks := h.locks.sublist (List.filter_sublist.map _)
  in_hand d hd := by
    obtain ⟨hd, hid⟩ := mem_drop.mp hd
    exact List.mem_filter.mpr ⟨h.in_hand d hd, bne_iff_ne.mpr (hlast d hd hid)⟩
  needed e he := by
    obtain ⟨he, hne⟩ := List.mem_filter.mp he
    obtain ⟨d, hd, hfor⟩ := h.needed e he
    refine ⟨d, mem_drop.mpr ⟨hd, fun hid => ?_⟩, hfor⟩
    obtain rfl := List.inj_on_of_nodup_map h.ids hd hc hid
    exact bne_iff_ne.mp hne hfor.symm
  held d hd e he := h.held d (mem_drop.mp hd).1 e (mem_drop.mp he).1
  fresh_id d hd := h.fresh_id d (mem_drop.mp hd).1
  fresh_lock e he := h.fresh_lock e (List.mem_filter.mp he).1

/-- The table has the lock of a build in hand once, whatever the calls have. -/
theorem handles_of_mem (h : l.Tidy) {c : LockCall} (hc : c ∈ l.calls) (calls : List LockCall) :
    handles { l with calls := calls } c.lock = 1 + calls.countP (·.lock == c.lock) := by
  have hmem : c.lock ∈ l.entries.map (·.2) := List.mem_map_of_mem (h.in_hand c hc)
  have hone : (l.entries.map (·.2)).count c.lock = 1 := List.count_eq_one_of_mem h.locks hmem
  rw [List.count, List.countP_map] at hone
  exact congrArg (· + calls.countP (·.lock == c.lock)) hone

/-- A lock that a call has dropped is in one hand if no other call is for its build. -/
theorem handles_drop (h : l.Tidy) {c : LockCall} (hc : c ∈ l.calls) :
    (l.drop c.id).handles c.lock = 1 ↔ ∀ d ∈ l.calls, d.id ≠ c.id → d.build ≠ c.build := by
  have hcount := h.handles_of_mem hc (l.drop c.id).calls
  have hzero : (l.drop c.id).handles c.lock = 1 ↔
      (l.drop c.id).calls.countP (·.lock == c.lock) = 0 := by
    rw [show (l.drop c.id).handles c.lock = _ from hcount]
    omega
  rw [hzero, List.countP_eq_zero]
  constructor
  · intro hnone d hd hid hbuild
    exact hnone d (mem_drop.mpr ⟨hd, hid⟩) (beq_iff_eq.mpr (h.lock_of_build hd hc hbuild))
  · intro hnone d hd hlock
    obtain ⟨hd, hid⟩ := mem_drop.mp hd
    exact hnone d hd hid (h.build_of_lock hd hc (beq_iff_eq.mp hlock))

/-- A call that ends drops its lock, and strikes the entry if the table has the only hand on the
lock then. -/
theorem leave_eq (h : l.Tidy) {c : LockCall} (hc : c ∈ l.calls) (hstage : c.stage = .leaving) :
    l.leave? c.id = some (if (l.drop c.id).handles c.lock = 1 then
      (l.drop c.id).strike c.build else l.drop c.id) := by
  have hcount := h.handles_of_mem hc (l.drop c.id).calls
  have hany : (l.calls.filter (·.id != c.id)).any (·.lock == c.lock) = true ↔
      ¬(l.drop c.id).handles c.lock = 1 := by
    rw [show (l.drop c.id).handles c.lock = _ from hcount, List.any_eq_true,
      ← List.countP_pos_iff]
    change _ ↔ ¬(1 + (l.calls.filter (·.id != c.id)).countP (·.lock == c.lock) = 1)
    omega
  unfold BuildLocks.leave?
  simp only [h.call_eq hc, hstage, if_true, h.lock_eq (h.in_hand c hc), hany]
  by_cases hone : (l.drop c.id).handles c.lock = 1
  · rw [if_neg (not_not.mpr hone), if_pos hone]
    rfl
  · rw [if_pos hone, if_neg hone]
    rfl

/-- A call ends. -/
theorem leave (h : l.Tidy) {id : Nat} {next : BuildLocks} (hs : l.leave? id = some next) :
    next.Tidy := by
  obtain ⟨c, hc, rfl, hstage, -⟩ := exists_of_leave hs
  rw [h.leave_eq hc hstage, Option.some.injEq] at hs
  rw [← hs]
  have hlast := h.handles_drop hc
  split
  · next hone => exact h.drop_last hc (hlast.mp hone)
  · next hmore =>
    rw [hlast] at hmore
    push Not at hmore
    obtain ⟨other, hother, hid, hbuild⟩ := hmore
    exact h.drop_shared hc hother hid hbuild

/-- Each step keeps the locks tidy. -/
theorem step (h : l.Tidy) {e : LockStep} {next : BuildLocks} (hs : l.step? e = some next) :
    next.Tidy := by
  cases e with
  | enter b =>
    rw [← Option.some.inj hs]
    exact h.enter b
  | take id => exact h.take hs
  | release id => exact h.release hs
  | leave id => exact h.leave hs

/-- Any steps keep the locks tidy. -/
theorem run (h : l.Tidy) (steps : List LockStep) : (l.run steps).Tidy := by
  induction steps generalizing l with
  | nil => exact h
  | cons e rest ih =>
    refine ih (l := (l.step? e).getD l) ?_
    cases hs : l.step? e with
    | none => exact h
    | some next => exact h.step hs

end Tidy

/-- What is true of the locks at every moment. -/
structure Exclusive (l : BuildLocks) : Prop where
  /-- Of the calls for a build, one at most holds the lock and works on it. -/
  one_holder : ∀ c ∈ l.calls, ∀ d ∈ l.calls, c.build = d.build → c.stage = .holding →
    d.stage = .holding → c = d
  /-- Every call for a build, whether it waits for the lock, holds it or has released it, has the
  very lock in hand that the table has for the build. -/
  lock_eq : ∀ c ∈ l.calls, l.lock? c.build = some c.lock
  /-- No two builds have the same lock. -/
  apart : ∀ b b' lock, l.lock? b = some lock → l.lock? b' = some lock → b = b'
  /-- A build has an entry, and one only, while a call for it is under way, and else none. -/
  entries_eq : ∀ b, (l.entries.map (·.1)).count b = if ∃ c ∈ l.calls, c.build = b then 1 else 0
  /-- The lock of a build is in the hands of the table and of every call for the build. -/
  handles_eq : ∀ b lock, l.lock? b = some lock →
    l.handles lock = 1 + l.calls.countP (·.build == b)
  /-- A call that leaves strikes the entry exactly when one hand is left on the lock. -/
  leave_eq : ∀ c ∈ l.calls, c.stage = .leaving →
    l.leave? c.id = some (if (l.drop c.id).handles c.lock = 1 then
      (l.drop c.id).strike c.build else l.drop c.id)
  /-- A call that waits can take the lock exactly when no call for its build holds it. -/
  take_iff : ∀ c ∈ l.calls, c.stage = .waiting →
    ((l.take? c.id).isSome ↔ ∀ d ∈ l.calls, d.build = c.build → d.stage ≠ .holding)

/-- Tidy locks exclude each other's calls. -/
theorem Tidy.exclusive (h : l.Tidy) : l.Exclusive where
  one_holder c hc d hd hbuild := h.held c hc d hd (h.lock_of_build hc hd hbuild)
  lock_eq c hc := h.lock_eq (h.in_hand c hc)
  apart b b' lock hb hb' := by
    have hsame := List.inj_on_of_nodup_map h.locks (mem_of_lock hb) (mem_of_lock hb') rfl
    exact (Prod.mk.inj hsame).1
  entries_eq b := by
    have hcall : b ∈ l.entries.map (·.1) ↔ ∃ c ∈ l.calls, c.build = b := by
      constructor
      · intro hb
        obtain ⟨e, he, rfl⟩ := List.mem_map.mp hb
        exact h.needed e he
      · rintro ⟨c, hc, rfl⟩
        exact List.mem_map_of_mem (h.in_hand c hc)
    split
    · next hb => exact List.count_eq_one_of_mem h.builds (hcall.mpr hb)
    · next hb => exact List.count_eq_zero.mpr fun hmem => hb (hcall.mp hmem)
  handles_eq b lock hlock := by
    obtain ⟨c, hc, hbuild⟩ := h.needed _ (mem_of_lock hlock)
    obtain rfl : c.build = b := hbuild
    have hown := h.lock_eq (h.in_hand c hc)
    rw [hlock, Option.some.injEq] at hown
    rw [hown, h.handles_of_mem hc l.calls]
    refine congrArg (1 + ·) (List.countP_congr fun d hd => ?_)
    rw [beq_iff_eq, beq_iff_eq]
    exact ⟨h.build_of_lock hd hc, h.lock_of_build hd hc⟩
  leave_eq c hc := h.leave_eq hc
  take_iff c hc hwaits := by
    have hfree : l.isHeld c.lock = false ↔
        ∀ d ∈ l.calls, d.build = c.build → d.stage ≠ .holding := by
      rw [← Bool.not_eq_true, isHeld_iff]
      push Not
      exact ⟨fun hnone d hd hbuild => hnone d hd (h.lock_of_build hd hc hbuild),
        fun hnone d hd hlock => hnone d hd (h.build_of_lock hd hc hlock)⟩
    rw [← hfree, BuildLocks.take?, h.call_eq hc]
    cases hheld : l.isHeld c.lock <;> simp [hwaits, hheld]

/-- Whatever calls there are for whatever builds, and in whatever order they take their steps,
one call at a time works on a build, with the lock in hand that the table has for the build; and
a build has no entry when no call for it is under way. -/
theorem exclusive_of_run (steps : List LockStep) : (empty.run steps).Exclusive :=
  (Tidy.empty.run steps).exclusive

/-- Two calls for a build, and a third one that comes when the first one has released the lock
and has not left: the entry stays until the last one leaves. -/
example : let b : BuildRef := ⟨"p", 1⟩
    let steps : List LockStep := [.enter b, .enter b, .take 0, .take 1, .release 0, .enter b,
      .leave 0, .take 2, .take 1]
    (empty.run steps).entries = [(b, 0)] ∧
    (empty.run steps).calls = [⟨1, b, 0, .waiting⟩, ⟨2, b, 0, .holding⟩] ∧
    (empty.run (steps ++ [.release 2, .leave 2, .take 1, .release 1, .leave 1])).isEmpty := by
  decide

end BuildLocks

end BuildTriage
