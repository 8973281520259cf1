import BuildTriage.Pool.Basic

/-!
# What a worker's move does

Each move takes one worker out of its place and puts at most one there. It either begins or
ends a task, takes the first task that waits, leaves the pool, or parks; nothing else. The
counters of the pool go with it: they are always the numbers of workers of each kind.
-/

namespace BuildTriage

namespace Worker

variable {τ : Type}

/-- How many of a worker wait to be woken: one or none. -/
def waits : Worker τ → Nat
  | .parked _ | .woken _ => 1
  | .starting _ | .running _ | .looking => 0

/-- How many tasks a worker has: one or none. -/
def tasks : Worker τ → Nat
  | .starting first => first.toList.length
  | .running _ => 1
  | .looking | .parked _ | .woken _ => 0

/-- A worker that may look for work. -/
def Free (w : Worker τ) : Prop := w = .looking ∨ w.waits = 1

end Worker

namespace Pool

variable {τ : Type}

/-- What becomes of a pool when the worker between some others makes a move. -/
inductive Effect (p : Pool τ) (front back : List (Worker τ)) :
    Worker τ → Move → Pool τ → Prop where
  | begin (t : τ) :
    Effect p front back (.starting (some t)) .begin
      { p with staff := front ++ .running t :: back }
  | rise :
    Effect p front back (.starting none) .begin { p with staff := front ++ .looking :: back }
  | refuse (first : Option τ) :
    Effect p front back (.starting first) .refuse
      { p with
        workers := p.workers - 1
        active := p.active - first.toList.length
        staff := front ++ back }
  | finish (t : τ) :
    Effect p front back (.running t) .finish
      { p with active := p.active - 1, staff := front ++ .looking :: back }
  | take {w : Worker τ} {m : Move} (t : τ) (rest : List τ) (hw : w.Free)
    (hq : p.queue = t :: rest) :
    Effect p front back w m
      { p with
        queue := rest
        idle := p.idle - w.waits
        active := p.active + 1
        staff := front ++ .running t :: back }
  | leave {w : Worker τ} {m : Move} (hw : w.Free) (hq : p.queue = []) :
    Effect p front back w m
      { p with
        workers := p.workers - 1
        idle := p.idle - w.waits
        staff := front ++ back }
  | park {w : Worker τ} {m : Move} (timed : Bool) (hw : w.Free)
    (hq : p.queue = []) :
    Effect p front back w m
      { p with
        idle := p.idle - w.waits + 1
        staff := front ++ .parked timed :: back }

/-- A worker at a place stands between others, and another one or none can take that
place. -/
theorem put_split {staff : List (Worker τ)} {i : Nat} {w : Worker τ} (h : staff[i]? = some w) :
    ∃ front back, staff = front ++ w :: back ∧
      (∀ v, put staff i (some v) = front ++ v :: back) ∧ put staff i none = front ++ back := by
  obtain ⟨hi, hw⟩ := List.getElem?_eq_some_iff.mp h
  refine ⟨staff.take i, staff.drop (i + 1), ?_, ?_, ?_⟩
  · rw [← hw, ← List.drop_eq_getElem_cons hi, List.take_append_drop]
  · intro v
    rw [put, List.set_eq_take_append_cons_drop, if_pos hi]
  · rw [put, List.eraseIdx_eq_take_drop_succ]

/-- A worker that looks for work takes the first task that waits. -/
theorem look_of_cons {p : Pool τ} {t : τ} {rest : List τ} (h : p.queue = t :: rest) (i : Nat) :
    p.look i = { p with
      queue := rest, active := p.active + 1, staff := put p.staff i (some (.running t)) } := by
  rw [look, h]

/-- A worker that finds no task leaves if it has to. -/
theorem look_of_leave {p : Pool τ} (h : p.queue = [])
    (hleave : p.closed ∨ p.maxWorkers < p.workers) (i : Nat) :
    p.look i = { p with workers := p.workers - 1, staff := put p.staff i none } := by
  rw [look, h]
  exact if_pos hleave

/-- A worker that finds no task parks if it may stay. -/
theorem look_of_stay {p : Pool τ} (h : p.queue = [])
    (hstay : ¬(p.closed ∨ p.maxWorkers < p.workers)) (i : Nat) :
    p.look i = { p with
      idle := p.idle + 1
      staff := put p.staff i (some (.parked (p.minWorkers < p.workers))) } := by
  rw [look, h]
  exact if_neg hstay

/-- What a worker does that looks for work. -/
theorem effect_look {p : Pool τ} {i : Nat} {w : Worker τ} {front back : List (Worker τ)}
    (m : Move) (hw : w.Free) (hsome : ∀ v, put p.staff i (some v) = front ++ v :: back)
    (hnone : put p.staff i none = front ++ back) :
    Effect p front back w m ({ p with idle := p.idle - w.waits }.look i) := by
  by_cases hq : p.queue = []
  · by_cases hleave : p.closed ∨ p.maxWorkers < p.workers
    · rw [look_of_leave (p := { p with idle := p.idle - w.waits }) hq hleave, hnone]
      exact Effect.leave hw hq
    · rw [look_of_stay (p := { p with idle := p.idle - w.waits }) hq hleave, hsome]
      exact Effect.park _ hw hq
  · obtain ⟨t, rest, hq⟩ := List.exists_cons_of_ne_nil hq
    rw [look_of_cons (p := { p with idle := p.idle - w.waits }) hq, hsome]
    exact Effect.take t rest hw hq

/-- What a worker does whose time is up. -/
theorem effect_expire {p next : Pool τ} {i : Nat} {w : Worker τ} {front back : List (Worker τ)}
    (hw : w.Free) (hsome : ∀ v, put p.staff i (some v) = front ++ v :: back)
    (hnone : put p.staff i none = front ++ back)
    (h : (if p.queue.isEmpty ∧ p.minWorkers < p.workers then
        some { p with
          idle := p.idle - w.waits, workers := p.workers - 1, staff := put p.staff i none }
      else some ({ p with idle := p.idle - w.waits }.look i)) = some next) :
    Effect p front back w .expire next := by
  split at h
  · next hgo =>
    rw [← Option.some.inj h, hnone]
    exact Effect.leave hw (List.isEmpty_iff.mp hgo.1)
  · rw [← Option.some.inj h]
    exact effect_look .expire hw hsome hnone

/-- Every move of a worker has one of the effects. -/
theorem effect_of_move {p next : Pool τ} {i : Nat} {m : Move} (h : p.move? i m = some next) :
    ∃ front w back, p.staff[i]? = some w ∧ p.staff = front ++ w :: back ∧
      Effect p front back w m next := by
  unfold move? at h
  split at h
  · next t hw =>
    obtain ⟨front, back, hsplit, hsome, _⟩ := put_split hw
    rw [← Option.some.inj h, hsome]
    exact ⟨front, _, back, hw, hsplit, .begin t⟩
  · next hw =>
    obtain ⟨front, back, hsplit, hsome, _⟩ := put_split hw
    rw [← Option.some.inj h, hsome]
    exact ⟨front, _, back, hw, hsplit, .rise⟩
  · next first hw =>
    obtain ⟨front, back, hsplit, _, hnone⟩ := put_split hw
    rw [← Option.some.inj h, hnone]
    exact ⟨front, _, back, hw, hsplit, .refuse first⟩
  · next t hw =>
    obtain ⟨front, back, hsplit, hsome, _⟩ := put_split hw
    rw [← Option.some.inj h, hsome]
    exact ⟨front, _, back, hw, hsplit, .finish t⟩
  · next hw =>
    obtain ⟨front, back, hsplit, hsome, hnone⟩ := put_split hw
    rw [← Option.some.inj h]
    exact ⟨front, _, back, hw, hsplit, effect_look .look (.inl rfl) hsome hnone⟩
  · next timed hw =>
    obtain ⟨front, back, hsplit, hsome, hnone⟩ := put_split hw
    rw [← Option.some.inj h]
    exact ⟨front, _, back, hw, hsplit, effect_look .wake (.inr rfl) hsome hnone⟩
  · next timed hw =>
    obtain ⟨front, back, hsplit, hsome, hnone⟩ := put_split hw
    rw [← Option.some.inj h]
    exact ⟨front, _, back, hw, hsplit, effect_look .wake (.inr rfl) hsome hnone⟩
  · next hw =>
    obtain ⟨front, back, hsplit, hsome, hnone⟩ := put_split hw
    exact ⟨front, _, back, hw, hsplit, effect_expire (.inr rfl) hsome hnone h⟩
  · next hw =>
    obtain ⟨front, back, hsplit, hsome, hnone⟩ := put_split hw
    exact ⟨front, _, back, hw, hsplit, effect_expire (.inr rfl) hsome hnone h⟩
  · exact absurd h nofun

/-- No move of a worker closes the pool, or opens it. -/
theorem Effect.closed_eq {p next : Pool τ} {front back : List (Worker τ)} {w : Worker τ}
    {m : Move} (h : Effect p front back w m next) : next.closed = p.closed := by
  cases h <;> rfl

end Pool

end BuildTriage
