import BuildTriage.Build
import Mathlib.Data.List.Induction
import Mathlib.Data.List.Nodup
import Mathlib.Logic.Function.Basic

/-!
# Builds that are marked and builds that are held back

Two lines of builds are kept. A build that is marked is marked for good, and the call that has
marked it is the one that hands over its job. A build that is held back stays so until the
release walks past it, and the release walks past the builds in the order in which each was
first asked for.
-/

namespace BuildTriage

/-- The builds in the order in which each of them is first asked for. -/
theorem eraseDups_concat (builds : List BuildRef) (b : BuildRef) :
    (builds ++ [b]).eraseDups =
      if b ∈ builds then builds.eraseDups else builds.eraseDups ++ [b] := by
  rw [List.eraseDups_append]
  by_cases hb : b ∈ builds
  · simp [hb, List.removeAll]
  · have hone : [b].eraseDups = [b] := rfl
    simp [hb, List.removeAll, hone]

theorem nodup_eraseDups (builds : List BuildRef) : builds.eraseDups.Nodup := by
  induction builds using List.reverseRecOn with
  | nil => exact List.nodup_nil
  | append_singleton builds b ih =>
    rw [eraseDups_concat]
    split
    · exact ih
    · next hb =>
      rw [← List.concat_eq_append]
      exact ih.concat fun hmem => hb (List.mem_eraseDups.mp hmem)

namespace Requests

/-- Builds that are marked, builds whose jobs were handed over, and the build that each call has
marked and not handed over. -/
structure Marks (seen scheduled : List BuildRef) (marked : Nat → Option BuildRef) : Prop where
  /-- No build is marked twice. -/
  taken : seen.Nodup
  /-- No job is handed over twice. -/
  once : scheduled.Nodup
  /-- A build is marked when its job was handed over, or when a call is about to do so. -/
  seen_iff : ∀ b, b ∈ seen ↔ b ∈ scheduled ∨ ∃ id, marked id = some b
  /-- A job that a call is about to hand over has not been handed over. -/
  apart : ∀ id b, marked id = some b → b ∉ scheduled
  /-- No two calls are about to hand over one job. -/
  alone : ∀ id id' b, marked id = some b → marked id' = some b → id = id'

namespace Marks

/-- Nothing is marked at the beginning. -/
theorem start : Marks [] [] fun _ => none where
  taken := List.nodup_nil
  once := List.nodup_nil
  seen_iff b := by simp
  apart _ _ h := absurd h nofun
  alone _ _ _ h := absurd h nofun

variable {seen scheduled : List BuildRef} {marked : Nat → Option BuildRef}
  (h : Marks seen scheduled marked) {id : Nat} {b : BuildRef}

include h

/-- A call marks a build that is not marked. -/
theorem mark (hid : marked id = none) (hb : b ∉ seen) :
    Marks (seen ++ [b]) scheduled (Function.update marked id (some b)) where
  taken := by
    rw [← List.concat_eq_append]
    exact h.taken.concat hb
  once := h.once
  seen_iff other := by
    have hothers : (∃ i, Function.update marked id (some b) i = some other) ↔
        (∃ i, marked i = some other) ∨ other = b := by
      constructor
      · rintro ⟨i, hi⟩
        rw [Function.update_apply] at hi
        split at hi
        · exact .inr (Option.some.inj hi).symm
        · exact .inl ⟨i, hi⟩
      · rintro (⟨i, hi⟩ | rfl)
        · have hne : i ≠ id := fun heq => by
            rw [heq, hid] at hi
            exact absurd hi nofun
          exact ⟨i, (Function.update_of_ne hne _ _).trans hi⟩
        · exact ⟨id, Function.update_self ..⟩
    rw [List.mem_append, List.mem_singleton, h.seen_iff, hothers, or_assoc]
  apart i other hi := by
    rw [Function.update_apply] at hi
    split at hi
    · rw [← Option.some.inj hi]
      exact fun hmem => hb ((h.seen_iff b).mpr (.inl hmem))
    · exact h.apart i other hi
  alone i j other hi hj := by
    -- what another call has marked was marked before
    have hold : ∀ {i}, marked i = some b → False := fun hi =>
      hb ((h.seen_iff b).mpr (.inr ⟨_, hi⟩))
    rw [Function.update_apply] at hi hj
    split at hi <;> split at hj
    · next hi' hj' => rw [hi', hj']
    · rw [← Option.some.inj hi] at hj
      exact (hold hj).elim
    · rw [← Option.some.inj hj] at hi
      exact (hold hi).elim
    · exact h.alone i j other hi hj

/-- A call hands over the job for the build that it has marked. -/
theorem schedule (hid : marked id = some b) :
    Marks seen (scheduled ++ [b]) (Function.update marked id none) where
  taken := h.taken
  once := by
    rw [← List.concat_eq_append]
    exact h.once.concat (h.apart id b hid)
  seen_iff other := by
    rw [h.seen_iff, List.mem_append, List.mem_singleton, or_assoc]
    refine or_congr_right ⟨?_, ?_⟩
    · rintro ⟨i, hi⟩
      by_cases hne : i = id
      · rw [hne, hid] at hi
        exact .inl (Option.some.inj hi).symm
      · exact .inr ⟨i, (Function.update_of_ne hne _ _).trans hi⟩
    · rintro (rfl | ⟨i, hi⟩)
      · exact ⟨id, hid⟩
      · rw [Function.update_apply] at hi
        split at hi
        · exact absurd hi nofun
        · exact ⟨i, hi⟩
  apart i other hi := by
    rw [Function.update_apply] at hi
    split at hi
    · exact absurd hi nofun
    · next hne =>
      rw [List.mem_append, List.mem_singleton]
      rintro (hmem | rfl)
      · exact h.apart i other hi hmem
      · exact hne (h.alone i id other hi hid)
  alone i j other hi hj := by
    rw [Function.update_apply] at hi hj
    split at hi
    · exact absurd hi nofun
    · split at hj
      · exact absurd hj nofun
      · exact h.alone i j other hi hj

end Marks

/-- Builds that are held back, builds that were asked for before the signal, builds that the
release has walked past, and the builds that a release has still to walk past. -/
structure Walk (loaded : Bool) (held early released : List BuildRef)
    (walk : Nat → Option (List BuildRef)) : Prop where
  /-- Before the signal, the builds that were asked for are held back, once each. -/
  held_eq : loaded = false → held = early.eraseDups
  /-- After the signal, none are held back. -/
  held_nil : loaded = true → held = []
  /-- Before the signal, none are released. -/
  released_nil : loaded = false → released = []
  /-- Before the signal, there is no release. -/
  walk_none : loaded = false → ∀ id, walk id = none
  /-- There is one release at most. -/
  alone : ∀ id id' line line', walk id = some line → walk id' = some line' → id = id'
  /-- The release walks past the builds that were held back, in their order. -/
  walk_eq : ∀ id line, walk id = some line → released ++ line = early.eraseDups
  /-- A release that has returned has walked past them all. -/
  walked : loaded = true → (∀ id, walk id = none) → released = early.eraseDups

namespace Walk

variable {loaded : Bool} {held early released : List BuildRef}
  {walk : Nat → Option (List BuildRef)} {id : Nat} {b : BuildRef} {line : List BuildRef}

/-- Nothing is held back at the beginning. -/
theorem start : Walk false [] [] [] fun _ => none where
  held_eq _ := rfl
  held_nil _ := rfl
  released_nil _ := rfl
  walk_none _ _ := rfl
  alone _ _ _ _ h := absurd h nofun
  walk_eq _ _ h := absurd h nofun
  walked := nofun

/-- A build that is asked for before the signal is held back, unless it is already. -/
theorem hold (h : Walk false held early released walk) (b : BuildRef) :
    Walk false (if b ∈ held then held else held ++ [b]) (early ++ [b]) released walk where
  held_eq _ := by
    have hmem : b ∈ held ↔ b ∈ early := by
      rw [h.held_eq rfl]
      exact List.mem_eraseDups
    rw [eraseDups_concat, ← h.held_eq rfl]
    simp only [hmem]
  held_nil := nofun
  released_nil := h.released_nil
  walk_none := h.walk_none
  alone := h.alone
  walk_eq i line hi := by
    rw [h.walk_none rfl i] at hi
    exact absurd hi nofun
  walked := nofun

/-- The call that fires the signal has to walk past the builds that are held back. -/
theorem fire (h : Walk false held early released walk) (id : Nat) :
    Walk true [] early released (Function.update walk id (some held)) where
  held_eq := nofun
  held_nil _ := rfl
  released_nil := nofun
  walk_none := nofun
  alone i j line line' hi hj := by
    rw [Function.update_apply, h.walk_none rfl] at hi hj
    split at hi <;> split at hj
    · next hi' hj' => rw [hi', hj']
    · exact absurd hj nofun
    · exact absurd hi nofun
    · exact absurd hi nofun
  walk_eq i line hi := by
    rw [Function.update_apply, h.walk_none rfl] at hi
    split at hi
    · rw [h.released_nil rfl, ← Option.some.inj hi, h.held_eq rfl, List.nil_append]
    · exact absurd hi nofun
  walked _ hnone := by
    have hid := hnone id
    rw [Function.update_self] at hid
    exact absurd hid nofun

/-- A walk is only under way after the signal. -/
theorem loaded_of_walk (h : Walk loaded held early released walk) (hid : walk id = some line) :
    loaded = true := by
  cases hl : loaded with
  | true => rfl
  | false =>
    rw [h.walk_none hl id] at hid
    exact absurd hid nofun

/-- The release walks past a build. -/
theorem pass (h : Walk loaded held early released walk) (hid : walk id = some (b :: line)) :
    Walk loaded held early (released ++ [b]) (Function.update walk id (some line)) := by
  obtain rfl := h.loaded_of_walk hid
  refine ⟨nofun, h.held_nil, nofun, nofun, fun i j l l' hi hj => ?_, fun i l hi => ?_,
    fun _ hnone => ?_⟩
  · rw [Function.update_apply] at hi hj
    split at hi <;> split at hj
    · next hi' hj' => rw [hi', hj']
    · next hi' _ => rw [hi', h.alone id j _ _ hid hj]
    · next hj' => rw [hj', h.alone i id _ _ hi hid]
    · exact h.alone i j l l' hi hj
  · rw [Function.update_apply] at hi
    split at hi
    · rw [← Option.some.inj hi, List.append_assoc]
      exact h.walk_eq id _ hid
    · next hne => exact absurd (h.alone i id _ _ hi hid) hne
  · have hself := hnone id
    rw [Function.update_self] at hself
    exact absurd hself nofun

/-- The release has walked past all builds, and returns. -/
theorem finish (h : Walk loaded held early released walk) (hid : walk id = some []) :
    Walk loaded held early released (Function.update walk id none) := by
  obtain rfl := h.loaded_of_walk hid
  have hold : ∀ {i l}, Function.update walk id none i = some l → walk i = some l := by
    intro i l hi
    rw [Function.update_apply] at hi
    split at hi
    · exact absurd hi nofun
    · exact hi
  refine ⟨nofun, h.held_nil, nofun, nofun, fun i j l l' hi hj => ?_, fun i l hi => ?_,
    fun _ _ => ?_⟩
  · exact h.alone i j l l' (hold hi) (hold hj)
  · exact h.walk_eq i l (hold hi)
  · rw [← h.walk_eq id [] hid, List.append_nil]

end Walk

end Requests

end BuildTriage
