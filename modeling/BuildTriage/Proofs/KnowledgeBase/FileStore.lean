import BuildTriage.Proofs.KnowledgeBase.Contract

/-!
# Causes in a file follow a catalog

As long as no write fails, the causes in memory are those of the catalog, whether they are
written to a file or not.
-/

namespace BuildTriage

/-- No write to the file fails. -/
def CauseDisk.Writable (d : CauseDisk) : Prop := d.barrier = none ∧ ∀ o ∈ d.outcomes, o = .done

/-- A write that does not fail leaves a file to which writes do not fail. -/
theorem CauseDisk.Writable.write {d : CauseDisk} (h : d.Writable) (text : String) :
    (d.write text).2 = none ∧ (d.write text).1.Writable := by
  obtain ⟨path, old, beside, barrier, outcomes⟩ := d
  obtain ⟨hbarrier, hdone⟩ := h
  simp only at hbarrier hdone
  subst hbarrier
  cases outcomes with
  | nil => exact ⟨rfl, rfl, by simp [CauseDisk.write]⟩
  | cons o rest =>
    have ho := hdone o List.mem_cons_self
    subst ho
    exact ⟨rfl, rfl, fun o h => hdone o (List.mem_cons_of_mem _ h)⟩

namespace CauseFile

/-- The causes in memory are those of the catalog, and no write fails. -/
def Stands (s : CauseFile) (cat : Catalog) : Prop :=
  s.causes = cat.causes ∧ ∀ d, s.disk = some d → d.Writable

/-- A change of the causes is made and written. -/
theorem change_ok {s : CauseFile} (f : List FailureCause → List FailureCause)
    (h : ∀ d, s.disk = some d → d.Writable) :
    change f s =
      .ok () ⟨f s.causes, s.disk.map fun d => (d.write (textOf (f s.causes))).1⟩ := by
  obtain ⟨causes, disk⟩ := s
  cases disk with
  | none => rfl
  | some d =>
    obtain ⟨hnone, -⟩ := (h d rfl).write (textOf (f causes))
    cases hw : d.write (textOf (f causes)) with
    | mk written failure =>
      rw [hw] at hnone
      simp only at hnone
      subst hnone
      have hpersist : persist ⟨f causes, some d⟩ = .ok () ⟨f causes, some written⟩ := by
        refine Eq.trans (bind_ok (x := get) rfl) ?_
        simp only [hw]
        rfl
      simp only [Option.map_some, hw]
      exact Eq.trans (bind_ok (f := fun _ => persist) rfl) hpersist

/-- Of distinct ids, the first cause of an id is the only one. -/
theorem updateFirst_eq_map (id : String) (f : FailureCause → FailureCause)
    (causes : List FailureCause) (hn : (causes.map (·.id)).Nodup) :
    updateFirst id f causes = causes.map fun c => if c.id = id then f c else c := by
  induction causes with
  | nil => rfl
  | cons c rest ih =>
    rw [List.map_cons, List.nodup_cons] at hn
    by_cases hc : c.id = id
    · have hrest : rest.map (fun c => if c.id = id then f c else c) = rest := by
        conv_rhs => rw [← List.map_id rest]
        refine List.map_congr_left fun d hd => ?_
        have hne : d.id ≠ id := fun h => hn.1 (List.mem_map.mpr ⟨d, hd, h.trans hc.symm⟩)
        rw [if_neg hne, id_eq]
      simp only [updateFirst, hc, if_true, List.map_cons, hrest]
    · simp only [updateFirst, hc, if_false, List.map_cons, ih hn.2]

/-- The first cause of an id is looked for as in the catalog. -/
theorem find?_eq_get {s : CauseFile} {cat : Catalog} (h : Stands s cat) (id : String) :
    find? id s.causes = cat.get id := by
  rw [h.1]
  unfold find? Catalog.get
  congr 1

/-- A change of the causes that the catalog makes too. -/
theorem gives_change {s : CauseFile} {cat other : Catalog}
    (f : List FailureCause → List FailureCause) (h : Stands s cat)
    (hf : f cat.causes = other.causes) : Gives Stands (change f) s (.ok ()) other := by
  refine ⟨_, change_ok f h.2, by rw [h.1, hf], ?_⟩
  intro d hd
  obtain ⟨old, hold, rfl⟩ := Option.map_eq_some_iff.mp hd
  exact ((h.2 old hold).write _).2

/-- A cause is added at the end, if its id is not in use. -/
theorem gives_add {s : CauseFile} {cat : Catalog} (fresh : String) (cause : FailureCause)
    (hs : Stands s cat) (hid : (Catalog.entry fresh cause).id ∉ cat.ids) :
    Gives Stands (add fresh cause) s
      (if Text.allBlank cause.name then .error (.cause .emptyName)
        else .ok (Catalog.entry fresh cause))
      (cat.perform (.add fresh cause)).2 := by
  by_cases hn : Text.allBlank cause.name = true
  · simp only [hn, if_true, Catalog.perform]
    exact ⟨s, bind_error (checked_error hn s), hs⟩
  · simp only [hn, Catalog.perform]
    have hadd : cat.causes ++ [Catalog.entry fresh cause] =
        (cat.add (Catalog.entry fresh cause)).causes := by
      simp only [Catalog.add, hid, dite_false, Catalog.append]
    obtain ⟨t, hc, hk⟩ := gives_change (· ++ [Catalog.entry fresh cause]) hs hadd
    refine ⟨t, ?_, hk⟩
    rw [add, bind_ok (checked_ok hn s), Catalog.entry_eq, bind_ok hc]
    rfl

/-- A cause with an id is saved in the place of the one of that id, or at the end. -/
theorem gives_save_known {s : CauseFile} {cat : Catalog} (fresh : String) (cause : FailureCause)
    (hs : Stands s cat) (hid : cause.id ≠ "") (hn : ¬Text.allBlank cause.name = true) :
    Gives Stands (save fresh cause) s (.ok cause) (cat.save cause) := by
  have hnew := Catalog.isNew_eq_false hid
  have hfind := find?_eq_get hs cause.id
  have hget := Catalog.get_isSome_iff cat cause.id
  cases hc : cat.get cause.id with
  | some old =>
    rw [hc] at hfind hget
    have hin : cause.id ∈ cat.ids := hget.mp rfl
    have hsave : updateFirst cause.id (fun _ => cause) cat.causes = (cat.save cause).causes := by
      rw [updateFirst_eq_map _ _ _ cat.distinct]
      simp only [Catalog.save, hin, dite_true, Catalog.adjust]
      rfl
    obtain ⟨t, hch, hk⟩ := gives_change (updateFirst cause.id fun _ => cause) hs hsave
    refine ⟨t, ?_, hk⟩
    simp only [save, hnew, Bool.false_eq_true, if_false]
    rw [bind_ok (checked_ok hn s), bind_ok (get_ok s), hfind]
    exact (bind_ok hch).trans rfl
  | none =>
    rw [hc] at hfind hget
    have hin : cause.id ∉ cat.ids := fun h => absurd (hget.mpr h) (by decide)
    have hsave : cat.causes ++ [cause] = (cat.save cause).causes := by
      simp only [Catalog.save, hin, dite_false, Catalog.append]
    obtain ⟨t, hch, hk⟩ := gives_change (· ++ [cause]) hs hsave
    refine ⟨t, ?_, hk⟩
    simp only [save, hnew, Bool.false_eq_true, if_false]
    rw [bind_ok (checked_ok hn s), bind_ok (get_ok s), hfind]
    exact (bind_ok hch).trans rfl

/-- A tombstone is put on the cause of an id. -/
theorem gives_remove {s : CauseFile} {cat : Catalog} (id : String) (stone : Tombstone)
    (hs : Stands s cat) :
    Gives Stands (remove id stone) s (.ok ((cat.remove id stone).get id))
      (cat.remove id stone) := by
  have hfind := find?_eq_get hs id
  rw [Catalog.get_remove]
  cases hc : cat.get id with
  | none =>
    rw [hc] at hfind
    rw [Catalog.remove_unknown hc]
    refine ⟨s, ?_, hs⟩
    rw [remove, bind_ok (get_ok s), hfind]
    rfl
  | some c =>
    rw [hc] at hfind
    have hbury : updateFirst id (·.bury stone) cat.causes = (cat.remove id stone).causes :=
      updateFirst_eq_map id _ _ cat.distinct
    obtain ⟨t, hch, hk⟩ := gives_change (updateFirst id (·.bury stone)) hs hbury
    refine ⟨t, ?_, hk⟩
    rw [remove, bind_ok (get_ok s), hfind]
    exact (bind_ok hch).trans rfl

/-- The causes of some ids are seen. -/
theorem gives_lastSeen {s : CauseFile} {cat : Catalog} (ids : List String) (time : UInt64)
    (hs : Stands s cat) :
    Gives Stands (lastSeen ids time) s (.ok ()) (cat.lastSeen ids time) := by
  have hseen : cat.causes.map (fun c => if ids.contains c.id then c.touch time else c) =
      (cat.lastSeen ids time).causes := by
    refine List.map_congr_left fun c _ => ?_
    rw [Catalog.sighting_eq]
    by_cases hc : c.id ∈ ids <;> simp [hc]
  by_cases hany : (s.causes.any fun c => ids.contains c.id && c.touches time) = true
  · obtain ⟨t, hch, hk⟩ := gives_change _ hs hseen
    refine ⟨t, ?_, hk⟩
    rw [lastSeen, bind_ok (get_ok s), if_pos hany]
    exact hch
  · have hsame : cat.lastSeen ids time = cat := by
      rw [hs.1, Bool.not_eq_true, List.any_eq_false] at hany
      refine Catalog.lastSeen_still fun c hc hid => ?_
      have hnone := hany c hc
      rw [List.contains_iff_mem.mpr hid, Bool.true_and, Bool.not_eq_true] at hnone
      exact hnone
    rw [hsame]
    refine ⟨s, ?_, hs⟩
    rw [lastSeen, bind_ok (get_ok s), if_neg hany]
    rfl

/-- Causes in a file whose writes do not fail follow a catalog. -/
theorem follows : Follows CauseFile Stands where
  get {s cat} id hs := ⟨s, by rw [← find?_eq_get hs id]; rfl, hs⟩
  causes {s cat} hs := ⟨s, by rw [← Catalog.live_eq, ← hs.1]; rfl, hs⟩
  add fresh cause hs hfit := gives_add fresh cause hs hfit
  save {s cat} fresh cause hs hfit := by
    refine gives_save (add fresh cause) hs (fun hid => ⟨?_, ?_⟩) (fun hid hn => ?_)
      fun hid hn => ?_
    · show save fresh cause = add fresh cause
      simp only [save, Catalog.isNew_eq_true hid, if_true]
    · exact gives_add fresh cause hs (hfit.entry_fresh hid)
    · show save fresh cause s = _
      simp only [save, Catalog.isNew_eq_false hid, Bool.false_eq_true, if_false]
      exact bind_error (checked_error hn s)
    · exact gives_save_known fresh cause hs hid hn
  remove id stone hs := gives_remove id stone hs
  lastSeen ids time hs _ := gives_lastSeen ids time hs

end CauseFile

end BuildTriage
