import BuildTriage.Proofs.Triage.Calls

/-!
# How a call for a completed build goes on

A call for a completed build that is to be scanned reads what was found for it. If something was,
the call spares the build. Otherwise it lists the causes, reads the log and attaches what it
finds, whatever others have attached meanwhile. What was found for the build, before a step and
after it, decides how far the call can have come.
-/

namespace BuildTriage

namespace Stage

/-- The call has read that the build was not scanned, and has not attached anything yet. -/
def isScanning : Stage → Bool
  | .listing _ | .matching _ _ | .attaching _ _ => true
  | .called | .informed _ | .requested | .forgetting | .forgot | .logging _ _ | .ended _ => false

/-- The call has attached what it found. -/
def hasGiven (s : Stage) : Bool := s.given?.isSome

/-- The call has read that the build was not scanned. -/
def hasPassed (s : Stage) : Bool := s.isScanning || s.hasGiven

/-- How far a call for a completed build may have come that is to be scanned if it was not. -/
inductive Completing (info : BuildInfo) : Stage → Prop where
  | called : Completing info .called
  | informed : Completing info (.informed info)
  | listing : Completing info (.listing info)
  | matching (causes : List FailureCause) : Completing info (.matching info causes)
  | attaching (found : List FoundCause) : Completing info (.attaching info found)
  | logging (found : List FoundCause) : Completing info (.logging info found)
  | scanned (found : List FoundCause) : Completing info (.ended (.scanned info found))
  | spared : Completing info (.ended (.spared info .alreadyScanned))

/-- A step of such a call, with what was found for the build before and after it. -/
inductive Passage (info : BuildInfo) : Stage → Option (List FoundCause) → Stage →
    Option (List FoundCause) → Prop where
  | inform (found : Option (List FoundCause)) :
    Passage info .called found (.informed info) found
  | pass : Passage info (.informed info) none (.listing info) none
  | spare (x : List FoundCause) :
    Passage info (.informed info) (some x) (.ended (.spared info .alreadyScanned)) (some x)
  | list (causes : List FailureCause) (found : Option (List FoundCause)) :
    Passage info (.listing info) found (.matching info causes) found
  | unlisted (found : Option (List FoundCause)) :
    Passage info (.listing info) found (.attaching info []) found
  | search (causes : List FailureCause) (x : List FoundCause) (found : Option (List FoundCause)) :
    Passage info (.matching info causes) found (.attaching info x) found
  | attach (x : List FoundCause) (found : Option (List FoundCause)) :
    Passage info (.attaching info x) found (.logging info x) (some x)
  | log (x : List FoundCause) (found : Option (List FoundCause)) :
    Passage info (.logging info x) found (.ended (.scanned info x)) found
  | stay (verdict : Verdict) (found : Option (List FoundCause)) :
    Passage info (.ended verdict) found (.ended verdict) found

variable {info : BuildInfo} {s s' : Stage} {found found' : Option (List FoundCause)}

/-- A step leads such a call on as such. -/
theorem Passage.completing (h : Passage info s found s' found') (hs : Completing info s) :
    Completing info s' := by
  cases h with
  | inform => exact .informed
  | pass => exact .listing
  | spare => exact .spared
  | list causes => exact .matching causes
  | unlisted => exact .attaching []
  | search causes x => exact .attaching x
  | attach x => exact .logging x
  | log x => exact .scanned x
  | stay => exact hs

/-- What has been read stays so. -/
theorem Passage.hasPassed (h : Passage info s found s' found') (hs : s.hasPassed = true) :
    s'.hasPassed = true := by
  cases h with
  | inform | pass | spare => cases hs
  | list | unlisted | search | attach | log => rfl
  | stay => exact hs

/-- Where something was found, nobody else reads that the build was not scanned. -/
theorem Passage.hasPassed_eq (h : Passage info s found s' found') (hfound : found' ≠ none) :
    s'.hasPassed = s.hasPassed := by
  cases h with
  | pass => exact absurd rfl hfound
  | inform | spare | list | unlisted | search | attach | log | stay => rfl

/-- What has been attached stays so. -/
theorem Passage.hasGiven (h : Passage info s found s' found') (hs : s.hasGiven = true) :
    s'.hasGiven = true := by
  cases h with
  | inform | pass | spare | list | unlisted | search | attach => cases hs
  | log => rfl
  | stay => exact hs

/-- Where nothing is found nothing was found before. -/
theorem Passage.none_before (h : Passage info s found s' none) : found = none := by
  cases h with
  | inform | pass | list | unlisted | search | log | stay => rfl

/-- Where nothing is found a call that has attached nothing goes on. -/
theorem Passage.goes_on (h : Passage info s found s' none) (hgiven : s.hasGiven = false)
    (hopen : s.isEnded = false) : s'.hasGiven = false ∧ s'.isEnded = false := by
  cases h with
  | inform | pass | list | unlisted | search => exact ⟨rfl, rfl⟩
  | log => cases hgiven
  | stay => cases hopen

/-- What is found was found before, or the call has attached it. -/
theorem Passage.of_some (h : Passage info s found s' found') (hfound : found' ≠ none) :
    found ≠ none ∨ s'.hasGiven = true := by
  cases h with
  | attach => exact .inr rfl
  | inform | pass | spare | list | unlisted | search | log | stay => exact .inl hfound

variable {b : BuildRef} {t : Triage}

/-- Every step of such a call is one of those. -/
theorem exists_passage (withdrawn : Bool) (hs : Completing info s) (hbuild : info.build = b)
    (hinfo : t.builds.info b = .ok info) (hfound : t.builds.found b = .ok found)
    (hspared : t.settings.spared? info none = none) :
    ∃ s' t' found', s.next b withdrawn t = .ok s' t' ∧ t'.settings = t.settings ∧
      t'.builds.info b = .ok info ∧ t'.builds.found b = .ok found' ∧
      Passage info s found s' found' := by
  subst hbuild
  obtain ⟨r, hr, -⟩ := BuildStore.exists_get hfound
  cases hs with
  | called =>
    exact ⟨.informed info, t, found, Triage.bind_ok (Triage.ask_ok hinfo), rfl, hinfo, hfound,
      .inform found⟩
  | informed =>
    cases found with
    | none =>
      have hnext : Stage.next info.build withdrawn (.informed info) t = .ok (.listing info) t := by
        rw [next, Triage.bind_ok (Triage.ask_ok hfound), Triage.get_bind, hspared]
        rfl
      exact ⟨.listing info, t, none, hnext, rfl, hinfo, hfound, .pass⟩
    | some x =>
      have hnext : Stage.next info.build withdrawn (.informed info) t =
          .ok (.ended (.spared info .alreadyScanned)) t := by
        have hspare := ScannerSettings.spared_of_found hspared x
        rw [next, Triage.bind_ok (Triage.ask_ok hfound), Triage.get_bind, hspare]
        rfl
      exact ⟨.ended (.spared info .alreadyScanned), t, some x, hnext, rfl, hinfo, hfound, .spare x⟩
  | listing =>
    cases hcauses : KnowledgeBase.causes t.kb with
    | ok causes kb =>
      exact ⟨.matching info causes, _, found, Triage.bind_ok (Triage.catalog_ok hcauses), rfl,
        hinfo, hfound, .list causes found⟩
    | error e kb =>
      exact ⟨.attaching info [], _, found, Triage.bind_ok (Triage.catalog_error hcauses), rfl,
        hinfo, hfound, .unlisted found⟩
  | matching causes =>
    have hreported : ∃ x, Course.reportedNow causes info.build t = .ok x t := by
      rw [Course.reportedNow_eq]
      split
      · exact ⟨_, rfl⟩
      · exact ⟨_, rfl⟩
    obtain ⟨x, hx⟩ := hreported
    exact ⟨.attaching info x, t, found, Triage.bind_ok hx, rfl, hinfo, hfound,
      .search causes x found⟩
  | attaching x =>
    have hattach := BuildStore.setFound_ok hr (some x)
    refine ⟨.logging info x, _, some x, Triage.bind_ok (Triage.tell_ok hattach), rfl, ?_,
      BuildStore.found_setFound hattach, .attach x found⟩
    exact (BuildStore.info_setFound hattach info.build).trans hinfo
  | logging x =>
    exact ⟨.ended (.scanned info x), _, found, Triage.bind_ok (Triage.record_eq info x t), rfl,
      hinfo, hfound, .log x found⟩
  | scanned x => exact ⟨_, t, found, rfl, rfl, hinfo, hfound, .stay _ found⟩
  | spared => exact ⟨_, t, found, rfl, rfl, hinfo, hfound, .stay _ found⟩

/-- What another call does for its own build keeps what no step for that build can end. -/
theorem keeps_next {p : Triage → Prop} {own : BuildRef} {withdrawn : Bool}
    (hkb : ∀ t kb, p t → p { t with kb := kb })
    (hrecorder : ∀ t r, p t → p { t with recorder := r })
    (hbuilds : ∀ t builds found, p t → t.builds.setFound own found = .ok builds →
      p { t with builds := builds })
    (hinfo : ∀ info ∈ s.info?, info.build = own) : TriageStep.Keeps p (s.next own withdrawn) := by
  have htell : ∀ found, TriageStep.Keeps p (Triage.tell (·.setFound own found)) := fun found =>
    TriageStep.keeps_tell fun t builds ht hset => hbuilds t builds found ht hset
  cases s with
  | called => exact (TriageStep.keeps_ask _).bind fun _ => TriageStep.keeps_pure _
  | informed info =>
    refine (TriageStep.keeps_ask _).bind fun found => TriageStep.keeps_get.bind fun t => ?_
    split
    · refine TriageStep.keeps_get.bind fun t => ?_
      dsimp only
      split
      · exact (TriageStep.keeps_record hrecorder _ _).bind fun _ => TriageStep.keeps_pure _
      · exact TriageStep.keeps_pure _
    · exact TriageStep.keeps_pure _
  | requested => exact TriageStep.keeps_pure _
  | forgetting => exact (htell none).bind fun _ => TriageStep.keeps_pure _
  | forgot => exact (TriageStep.keeps_ask _).bind fun _ => TriageStep.keeps_pure _
  | listing info =>
    refine (TriageStep.keeps_catalog hkb).bind fun causes => ?_
    cases causes with
    | none => exact TriageStep.keeps_pure _
    | some causes => exact TriageStep.keeps_pure _
  | matching info causes =>
    have hread : TriageStep.Keeps p (Course.reportedNow causes info.build) := by
      intro t ht
      rw [TriageStep.after, Course.reportedNow_eq]
      cases t.builds.log info.build with
      | ok log => exact ht
      | error e => exact ht
    exact hread.bind fun _ => TriageStep.keeps_pure _
  | attaching info found =>
    obtain rfl := hinfo info rfl
    exact (htell (some found)).bind fun _ => TriageStep.keeps_pure _
  | logging info found =>
    exact (TriageStep.keeps_record hrecorder _ _).bind fun _ => TriageStep.keeps_pure _
  | ended verdict => exact TriageStep.keeps_pure _

end Stage

end BuildTriage
