import BuildTriage.BuildStore

/-!
# What a build store keeps

What is read of a build is read of its record. Attaching causes to a build, or forgetting those
that it had, changes what was found for that build and nothing else: not what is known of it, not
its log, and nothing of any other build. A record that is entered is put among the others.
-/

namespace BuildTriage

namespace BuildStore

variable {s s' : BuildStore} {b : BuildRef} {found : Option (List FoundCause)}

/-- A build that is listed has a record. -/
theorem get_of_mem (h : b ∈ s.builds) : ∃ r, s.get b = .ok r := by
  obtain ⟨r, hr, hbuild⟩ := List.mem_map.mp h
  unfold get
  cases hfind : s.records.find? (·.info.build == b) with
  | some r => exact ⟨r, rfl⟩
  | none =>
    have hother := List.find?_eq_none.mp hfind r hr
    exact absurd (beq_iff_eq.mpr hbuild) hother

/-- A build that is not listed has none. -/
theorem get_of_notMem (h : b ∉ s.builds) : s.get b = .error ⟨b⟩ := by
  have hfind : s.records.find? (·.info.build == b) = none := by
    refine List.find?_eq_none.mpr fun r hr hbuild => h ?_
    exact List.mem_map.mpr ⟨r, hr, beq_iff_eq.mp hbuild⟩
  rw [get, hfind]

/-- A build of which something is read is listed. -/
theorem mem_of_map_get {α : Type} {f : BuildRecord → α} {a : α} (h : (s.get b).map f = .ok a) :
    b ∈ s.builds := by
  refine Decidable.byContradiction fun hb => ?_
  rw [get_of_notMem hb] at h
  cases h

theorem log_of_get {r : BuildRecord} (h : s.get b = .ok r) : s.log b = .ok r.log := by
  rw [BuildStore.log, h]
  rfl

/-- The record of a build is one of the store. -/
theorem mem_of_get {r : BuildRecord} (h : s.get b = .ok r) : r ∈ s.records := by
  unfold get at h
  split at h
  · next r' hfind =>
    rw [← Except.ok.inj h]
    exact List.mem_of_find?_eq_some hfind
  · exact absurd h nofun

/-- The record of a build is one of that build. -/
theorem build_of_get {r : BuildRecord} (h : s.get b = .ok r) : r.info.build = b := by
  unfold get at h
  split at h
  · next r' hfind =>
    rw [← Except.ok.inj h]
    have hbuild := List.find?_some hfind
    exact beq_iff_eq.mp hbuild
  · exact absurd h nofun

/-- Something that is read of a build is read of its record. -/
theorem exists_get {α : Type} {f : BuildRecord → α} {a : α} (h : (s.get b).map f = .ok a) :
    ∃ r, s.get b = .ok r ∧ f r = a := by
  cases hget : s.get b with
  | ok r =>
    rw [hget] at h
    exact ⟨r, rfl, Except.ok.inj h⟩
  | error e =>
    rw [hget] at h
    exact absurd h nofun

/-- What is known of a build names it. -/
theorem build_of_info {info : BuildInfo} (h : s.info b = .ok info) : info.build = b := by
  obtain ⟨r, hr, rfl⟩ := exists_get h
  exact build_of_get hr

/-- The record of a build is told from what is known of it, its log and what was found for it. -/
theorem get_congr (hinfo : s'.info b = s.info b) (hlog : s'.log b = s.log b)
    (hfound : s'.found b = s.found b) : s'.get b = s.get b := by
  unfold BuildStore.info at hinfo
  unfold BuildStore.log at hlog
  unfold BuildStore.found at hfound
  cases hs' : s'.get b with
  | error e =>
    cases hs : s.get b with
    | error e' => rw [hs', hs] at hinfo; exact congrArg _ (Except.error.inj hinfo)
    | ok r => rw [hs', hs] at hinfo; cases hinfo
  | ok r' =>
    cases hs : s.get b with
    | error e => rw [hs', hs] at hinfo; cases hinfo
    | ok r =>
      rw [hs', hs] at hinfo hlog hfound
      obtain ⟨info, log, found⟩ := r
      obtain ⟨info', log', found'⟩ := r'
      obtain rfl : info' = info := Except.ok.inj hinfo
      obtain rfl : log' = log := Except.ok.inj hlog
      obtain rfl : found' = found := Except.ok.inj hfound
      rfl

/-- Other found causes for a build go into its record. -/
theorem exists_of_setFound (h : s.setFound b found = .ok s') :
    (∃ r, s.get b = .ok r) ∧
      s' = ⟨s.records.map fun r => if r.info.build = b then { r with found := found } else r⟩ := by
  unfold setFound at h
  cases hget : s.get b with
  | ok r =>
    rw [hget] at h
    exact ⟨⟨r, rfl⟩, (Except.ok.inj h).symm⟩
  | error e =>
    rw [hget] at h
    exact absurd h nofun

/-- A build that is in the store can have other found causes. -/
theorem setFound_ok {r : BuildRecord} (h : s.get b = .ok r) (found : Option (List FoundCause)) :
    s.setFound b found = .ok
      ⟨s.records.map fun r => if r.info.build = b then { r with found := found } else r⟩ := by
  unfold setFound
  rw [h]
  rfl

/-- The record of a build, after that of some build got other found causes. -/
theorem get_setFound (h : s.setFound b found = .ok s') (other : BuildRef) :
    s'.get other =
      (s.get other).map fun r => if r.info.build = b then { r with found := found } else r := by
  obtain ⟨-, rfl⟩ := exists_of_setFound h
  have hsame : (fun r : BuildRecord => r.info.build == other) ∘
      (fun r => if r.info.build = b then { r with found := found } else r) =
      fun r => r.info.build == other := by
    funext r
    dsimp only [Function.comp]
    split <;> rfl
  unfold get
  rw [List.find?_map, hsame]
  cases s.records.find? (·.info.build == other) with
  | some r => rfl
  | none => rfl

/-- The builds stay, in their order. -/
theorem builds_setFound (h : s.setFound b found = .ok s') : s'.builds = s.builds := by
  obtain ⟨-, rfl⟩ := exists_of_setFound h
  unfold builds
  rw [List.map_map]
  refine List.map_congr_left fun r _ => ?_
  dsimp only [Function.comp]
  split <;> rfl

/-- What is known of a build stays. -/
theorem info_setFound (h : s.setFound b found = .ok s') (other : BuildRef) :
    s'.info other = s.info other := by
  unfold BuildStore.info
  rw [get_setFound h other]
  cases s.get other with
  | error e => rfl
  | ok r =>
    simp only [Except.map]
    split <;> rfl

/-- The log of a build stays. -/
theorem log_setFound (h : s.setFound b found = .ok s') (other : BuildRef) :
    s'.log other = s.log other := by
  unfold BuildStore.log
  rw [get_setFound h other]
  cases s.get other with
  | error e => rfl
  | ok r =>
    simp only [Except.map]
    split <;> rfl

/-- The causes that a build got are those that were found for it. -/
theorem found_setFound (h : s.setFound b found = .ok s') : s'.found b = .ok found := by
  obtain ⟨⟨r, hr⟩, -⟩ := exists_of_setFound h
  unfold BuildStore.found
  rw [get_setFound h b, hr]
  simp only [Except.map, if_pos (build_of_get hr)]

/-- What has been attached to a build is what was found for it. -/
theorem found_of_attach {causes : List FoundCause} (h : s.attach b causes = .ok s') :
    s'.found b = .ok (some causes) :=
  found_setFound h

/-- What was found for other builds stays. -/
theorem found_setFound_other (h : s.setFound b found = .ok s') {other : BuildRef}
    (hne : other ≠ b) : s'.found other = s.found other := by
  unfold BuildStore.found
  rw [get_setFound h other]
  cases hr : s.get other with
  | error e => rfl
  | ok r =>
    have hbuild : r.info.build ≠ b := by
      rw [build_of_get hr]
      exact hne
    simp only [Except.map, if_neg hbuild]

/-- A record that was put in its place is among the others. -/
theorem mem_place {r s : BuildRecord} {records : List BuildRecord} (h : s ∈ place r records) :
    s = r ∨ s ∈ records := by
  induction records with
  | nil => exact .inl (List.mem_singleton.mp h)
  | cons first rest ih =>
    rw [place] at h
    split at h
    · rcases List.mem_cons.mp h with hs | hs
      · exact .inl hs
      · exact .inr (List.mem_cons_of_mem _ hs)
    · split at h
      · exact List.mem_cons.mp h
      · rcases List.mem_cons.mp h with rfl | hs
        · exact .inr List.mem_cons_self
        · exact (ih hs).imp_right (List.mem_cons_of_mem _)

end BuildStore

end BuildTriage
