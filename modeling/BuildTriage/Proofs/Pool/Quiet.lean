import BuildTriage.Proofs.Pool.Conservation
import Mathlib.Data.List.Nodup

/-!
# A shutdown that leaves nothing behind

A shutdown reports how many tasks are still being worked on when it ends. When it reports none,
no task is worked on from then on: the queue has been dropped, and a closed pool starts
nothing. Until then a task that is worked on goes on, or it is the one that ends.
-/

namespace BuildTriage.Ledger

open Pool (Move)

variable {τ : Type} {r next : Ledger τ} {e : PoolEvent τ}

/-- The task that ends with an event, if one does. -/
def ending? (r : Ledger τ) : PoolEvent τ → Option (Nat × τ)
  | .move i .finish => r.pool.staff[i]?.bind Worker.task?
  | _ => none

/-- With the moves of a worker that is not at work no task ends. -/
theorem ending_of_idle {i : Nat} {w : Worker (Nat × τ)} (hw : r.pool.staff[i]? = some w)
    (htask : w.task? = none) (m : Move) : r.ending? (.move i m) = none := by
  cases m with
  | finish => rw [ending?, hw, Option.bind_some, htask]
  | begin | refuse | look | wake | expire => rfl

/-- The task that ends with an event is written down as ended, and no other one. -/
theorem finished_of_step (h : r.step e = some next) :
    next.finished = r.finished ++ (r.ending? e).toList := by
  cases e with
  | submit task =>
    rw [← Option.some.inj h]
    unfold submit Pool.submit
    cases r.pool.admission with
    | ok a => cases a <;> exact (List.append_nil _).symm
    | error e => exact (List.append_nil _).symm
  | move i m =>
    obtain ⟨pool, hmove, w, hw, rfl⟩ := step_move h
    obtain ⟨front, v, back, hv, hsplit, he⟩ := Pool.effect_of_move hmove
    rw [hw] at hv
    obtain rfl := Option.some.inj hv
    cases he with
    | finish t => rw [ending?, hw]; rfl
    | begin t => rw [ending_of_idle hw rfl]; exact (List.append_nil _).symm
    | rise => rw [ending_of_idle hw rfl]; exact (List.append_nil _).symm
    | refuse first => rw [ending_of_idle hw rfl]; exact (List.append_nil _).symm
    | take t rest hfree hq =>
      rw [ending_of_idle hw (Pool.no_task_of_free hfree).2, moved_of_free hfree]
      exact (List.append_nil _).symm
    | leave hfree hq =>
      rw [ending_of_idle hw (Pool.no_task_of_free hfree).2, moved_of_free hfree]
      exact (List.append_nil _).symm
    | park timed hfree hq =>
      rw [ending_of_idle hw (Pool.no_task_of_free hfree).2, moved_of_free hfree]
      exact (List.append_nil _).symm
  | resize s =>
    rw [← Option.some.inj h]
    exact (List.append_nil _).symm
  | close =>
    rw [← Option.some.inj h]
    exact (List.append_nil _).symm
  | giveUp call =>
    obtain ⟨dropped, -, rfl⟩ := Option.map_eq_some_iff.mp h
    exact (List.append_nil _).symm

/-- No task ends twice, and none that has ended is worked on. -/
theorem Balanced.nodup_worked (hb : r.Balanced) :
    ((r.finished ++ r.pool.running).map (·.1)).Nodup := by
  refine (hb.started_perm.map (·.1)).nodup_iff.mp (hb.nodup.sublist ?_)
  rw [List.append_assoc, List.map_append]
  exact List.sublist_append_left _ _

/-- No task ends twice. -/
theorem Balanced.nodup_finished (hb : r.Balanced) : r.finished.Nodup := by
  have hnumbers := hb.nodup_worked
  rw [List.map_append] at hnumbers
  exact List.Nodup.of_map _ (List.nodup_append.mp hnumbers).1

/-- A task that is worked on goes on, or ends with the event. -/
theorem running_of_step (hb : r.Balanced) (h : r.step e = some next) {t : Nat × τ}
    (ht : t ∈ r.pool.running) : t ∈ next.pool.running ∨ r.ending? e = some t := by
  have hextends := step_extends h
  have hstarted : t ∈ r.started := hb.started_perm.mem_iff.mpr (List.mem_append_right _ ht)
  have hstill : t ∈ next.started := by
    rcases List.mem_append.mp hstarted with htaken | hbegun
    · exact List.mem_append_left _ (hextends.taken.subset htaken)
    · exact List.mem_append_right _ (hextends.begun.subset hbegun)
  rcases List.mem_append.mp ((hb.step h).started_perm.mem_iff.mp hstill) with hfinished | hrunning
  · rw [finished_of_step h, List.mem_append, Option.mem_toList] at hfinished
    rcases hfinished with hbefore | hends
    · have hnodup := hb.nodup_worked
      rw [List.map_append] at hnodup
      exact absurd rfl ((List.nodup_append.mp hnodup).2.2 t.1 (List.mem_map_of_mem hbefore) t.1
        (List.mem_map_of_mem ht))
    · exact .inr hends
  · exact .inl hrunning

/-- In a closed pool tasks only end. -/
theorem active_le_of_closed (hb : r.Balanced) (hclosed : r.pool.closed = true)
    (h : r.step e = some next) : next.pool.active ≤ r.pool.active := by
  cases e with
  | submit task => rw [← Option.some.inj h, submit, Pool.submit_of_closed hclosed]
  | move i m =>
    obtain ⟨pool, hmove, w, hw, rfl⟩ := step_move h
    obtain ⟨front, v, back, hv, hsplit, he⟩ := Pool.effect_of_move hmove
    rw [(moved_eq r pool m w).1]
    cases he with
    | begin t => exact Nat.le_refl _
    | rise => exact Nat.le_refl _
    | refuse first => exact Nat.sub_le _ _
    | finish t => exact Nat.sub_le _ _
    | take t rest hfree hq =>
      have hempty := hb.queue_of_closed hclosed
      rw [hq] at hempty
      exact absurd hempty (List.cons_ne_nil t rest)
    | leave hfree hq => exact Nat.le_refl _
    | park timed hfree hq => exact Nat.le_refl _
  | resize s =>
    rw [← Option.some.inj h]
    exact Nat.le_refl _
  | close =>
    rw [← Option.some.inj h]
    exact Nat.le_refl _
  | giveUp call =>
    obtain ⟨dropped, -, rfl⟩ := Option.map_eq_some_iff.mp h
    exact Nat.le_refl _

/-- A report was there before the event, or says what is worked on now. -/
theorem mem_reports_of_step (h : r.step e = some next) {report : PoolReport}
    (hr : report ∈ next.reports) :
    report ∈ r.reports ∨ report.stragglers = next.pool.active := by
  cases e with
  | submit task =>
    rw [← Option.some.inj h] at hr
    unfold submit Pool.submit at hr
    cases ha : r.pool.admission with
    | ok a =>
      rw [ha] at hr
      cases a <;> exact .inl hr
    | error e =>
      rw [ha] at hr
      exact .inl hr
  | move i m =>
    obtain ⟨pool, -, w, -, rfl⟩ := step_move h
    have hsame : (r.moved pool m w).reports = r.reports := by
      cases w with
      | starting first => by_cases hm : m = .refuse <;> simp [moved, hm]
      | running t | looking | parked timed | woken timed => rfl
    exact .inl (hsame ▸ hr)
  | resize s =>
    rw [← Option.some.inj h] at hr
    exact .inl hr
  | close =>
    rw [← Option.some.inj h] at hr
    exact .inl hr
  | giveUp call =>
    obtain ⟨dropped, -, rfl⟩ := Option.map_eq_some_iff.mp h
    rcases List.mem_append.mp hr with hbefore | hnew
    · exact .inl hbefore
    · rw [List.mem_singleton.mp hnew]
      exact .inr rfl

/-- Once a shutdown has reported that no task is worked on, none is. -/
def Quiet (r : Ledger τ) : Prop :=
  ∀ report ∈ r.reports, report.stragglers = 0 → r.pool.active = 0

theorem Quiet.step (hq : r.Quiet) (hb : r.Balanced) (h : r.step e = some next) : next.Quiet := by
  intro report hreport hnone
  rcases mem_reports_of_step h hreport with hbefore | hnow
  · have hclosed : r.pool.closed = true :=
      hb.closed_iff.mpr (.inr (List.ne_nil_of_mem hbefore))
    have hle := active_le_of_closed hb hclosed h
    have hzero := hq report hbefore hnone
    omega
  · exact hnow.symm.trans hnone

/-- Where nothing is counted as worked on, no worker is at work. -/
theorem Balanced.running_eq_nil (hb : r.Balanced) (h : r.pool.active = 0) :
    r.pool.running = [] := by
  have hcount := hb.counted.active_eq.trans (Pool.sum_tasks r.pool)
  exact List.length_eq_zero_iff.mp (by omega)

end BuildTriage.Ledger
