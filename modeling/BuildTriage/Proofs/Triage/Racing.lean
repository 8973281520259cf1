import BuildTriage.Proofs.Triage.Passage
import BuildTriage.Proofs.Triage.Service

/-!
# Calls for one build at a time

Several calls for a completed build take their steps in any order. None that has read that the
build was not scanned goes back on it, and once something is attached no other call reads so. If
at no time two of them are on their way to attach what they find, there is one at most.
-/

namespace BuildTriage

namespace Call

/-- A step of a call leaves it its build. -/
theorem build_advance (withdrawn : Bool) (c : Call) (t : Triage) :
    (c.advance withdrawn t).1.build = c.build := by
  unfold advance
  cases c.stage.next c.build withdrawn t with
  | ok s t => rfl
  | error e t => rfl

theorem host_advance (withdrawn : Bool) (c : Call) (t : Triage) :
    (c.advance withdrawn t).2 = TriageStep.after (c.stage.next c.build withdrawn) t := by
  unfold advance TriageStep.after
  cases c.stage.next c.build withdrawn t with
  | ok s t => rfl
  | error e t => rfl

end Call

namespace Service

/-- How many calls for a build have come so far. -/
def tally (v : Service) (b : BuildRef) (far : Stage → Bool) : Nat :=
  v.calls.countP fun c => c.build == b && far c.stage

/-- The step neither rescans a build nor changes what is known of it or whether it was
scanned, but through a call for it. -/
def spares (v : Service) (b : BuildRef) : ServiceStep → Bool
  | .replace builds => builds.info b = v.host.builds.info b ∧
    (builds.found b).map (·.isSome) = (v.host.builds.found b).map (·.isSome)
  | .rescan build | .begin _ build => build != b
  | .refresh _ | .complete _ | .act _ | .pool _ | .save | .see => true

/-- None of the steps rescans a build, or changes it but through a call for it. -/
def undisturbed (b : BuildRef) : Service → List ServiceStep → Bool
  | _, [] => true
  | v, e :: rest => v.spares b e && (v.step e).all (undisturbed b · rest)

/-- At no time during the steps two calls for a build are between reading that it was not
scanned and attaching what they found. -/
def apart (b : BuildRef) : Service → List ServiceStep → Bool
  | v, [] => v.tally b Stage.isScanning ≤ 1
  | v, e :: rest => v.tally b Stage.isScanning ≤ 1 && (v.step e).all (apart b · rest)

/-- The calls for a completed build that is to be scanned if it was not, with what was found for
it. -/
structure Racing (b : BuildRef) (info : BuildInfo) (v : Service)
    (found : Option (List FoundCause)) : Prop where
  /-- What is known of the build. -/
  info_eq : v.host.builds.info b = .ok info
  /-- What was found for it. -/
  found_eq : v.host.builds.found b = .ok found
  /-- It is to be scanned if it was not. -/
  unspared : v.host.settings.spared? info none = none
  /-- Nobody rescans it. -/
  completing : ∀ c ∈ v.calls, c.build = b → Stage.Completing info c.stage
  /-- As long as it was not scanned no call has attached anything or has come to its end. -/
  fresh : found = none → ∀ c ∈ v.calls, c.build = b →
    c.stage.hasGiven = false ∧ c.stage.isEnded = false
  /-- If it was scanned a call has attached what it found. -/
  attached : found ≠ none → ∃ c ∈ v.calls, c.build = b ∧ c.stage.hasGiven = true

variable {v next : Service} {e : ServiceStep} {b : BuildRef} {info : BuildInfo}
  {found : Option (List FoundCause)}

theorem tally_split {front back : List Call} {c : Call} (h : v.calls = front ++ c :: back)
    (far : Stage → Bool) : v.tally b far = front.countP (fun c => c.build == b && far c.stage) +
      (if c.build == b && far c.stage then 1 else 0) +
        back.countP (fun c => c.build == b && far c.stage) := by
  rw [tally, h, List.countP_append, List.countP_cons]
  omega

/-- A call that comes has not read anything yet. -/
theorem tally_join {c : Call} {far : Stage → Bool} (h : (c.build == b && far c.stage) = false) :
    tally { v with calls := v.calls ++ [c] } b far = v.tally b far := by
  rw [tally, List.countP_append, List.countP_singleton, h]
  rfl

/-- When one call has become another, the others are still there. -/
theorem mem_of_put {front back : List Call} {c c' d : Call} (h : d ∈ front ++ c' :: back) :
    d = c' ∨ d ∈ front ++ c :: back := by
  rcases List.mem_append.mp h with hd | hd
  · exact .inr (List.mem_append_left _ hd)
  · rcases List.mem_cons.mp hd with rfl | hd
    · exact .inl rfl
    · exact .inr (List.mem_append_right _ (List.mem_cons_of_mem _ hd))

/-- How a step leaves the calls for a build: none that has read that the build was not scanned is
lost, and none is won where something is found. -/
structure Advances (b : BuildRef) (info : BuildInfo) (v next : Service)
    (found : Option (List FoundCause)) : Prop where
  /-- They are still such calls. -/
  racing : next.Racing b info found
  /-- None is lost. -/
  le : v.tally b Stage.hasPassed ≤ next.tally b Stage.hasPassed
  /-- Where something is found none is won. -/
  eq_of_found : found ≠ none → next.tally b Stage.hasPassed = v.tally b Stage.hasPassed

/-- A step that leaves the calls and what is known of the build. -/
theorem Racing.advances_same (h : v.Racing b info found) (hcalls : next.calls = v.calls)
    (hinfo : next.host.builds.info b = v.host.builds.info b)
    {found' : Option (List FoundCause)} (hfound : next.host.builds.found b = .ok found')
    (hsome : found'.isSome = found.isSome) (hsettings : next.host.settings = v.host.settings) :
    v.Advances b info next found' := by
  have hnone : found' = none ↔ found = none := by
    rw [← Option.isNone_iff_eq_none, ← Option.isNone_iff_eq_none, ← Option.not_isSome,
      ← Option.not_isSome, hsome]
  have htally : next.tally b Stage.hasPassed = v.tally b Stage.hasPassed := by
    unfold tally
    rw [hcalls]
  refine ⟨⟨hinfo.trans h.info_eq, hfound, ?_, ?_, ?_, ?_⟩, htally.ge, fun _ => htally⟩
  · rw [hsettings]
    exact h.unspared
  · rw [hcalls]
    exact h.completing
  · rw [hcalls]
    exact fun hf => h.fresh (hnone.mp hf)
  · rw [hcalls]
    exact fun hf => h.attached (mt hnone.mpr hf)

/-- A call comes that has not read anything yet. -/
theorem Racing.advances_join (h : v.Racing b info found) {c : Call}
    (hc : c.build = b → c.stage = .called) :
    v.Advances b info { v with calls := v.calls ++ [c] } found := by
  have htally : tally { v with calls := v.calls ++ [c] } b Stage.hasPassed =
      v.tally b Stage.hasPassed := by
    refine tally_join ?_
    by_cases hb : c.build = b
    · rw [hc hb]
      exact Bool.and_false _
    · rw [beq_false_of_ne hb, Bool.false_and]
  refine ⟨⟨h.info_eq, h.found_eq, h.unspared, ?_, ?_, ?_⟩, htally.ge, fun _ => htally⟩
  · refine List.forall_mem_append.mpr ⟨h.completing, fun d hd hb => ?_⟩
    obtain rfl := List.mem_singleton.mp hd
    rw [hc hb]
    exact .called
  · intro hfound
    refine List.forall_mem_append.mpr ⟨h.fresh hfound, fun d hd hb => ?_⟩
    obtain rfl := List.mem_singleton.mp hd
    rw [hc hb]
    exact ⟨rfl, rfl⟩
  · intro hfound
    obtain ⟨d, hd, hb, hgiven⟩ := h.attached hfound
    exact ⟨d, List.mem_append_left _ hd, hb, hgiven⟩

/-- A call for another build takes a step. -/
theorem Racing.advances_other (h : v.Racing b info found) {front back : List Call} {c c' : Call}
    (hsplit : v.calls = front ++ c :: back) (hb : c.build ≠ b) (hb' : c'.build = c.build)
    {host : Triage} (hinfo : host.builds.info b = .ok info)
    (hfound : host.builds.found b = .ok found) (hsettings : host.settings = v.host.settings) :
    v.Advances b info { v with host := host, calls := front ++ c' :: back } found := by
  have hother : c'.build ≠ b := by rw [hb']; exact hb
  have htally : tally { v with host := host, calls := front ++ c' :: back } b Stage.hasPassed =
      v.tally b Stage.hasPassed := by
    have hafter := tally_split (v := { v with host := host, calls := front ++ c' :: back })
      rfl Stage.hasPassed (b := b)
    rw [hafter, tally_split hsplit, beq_false_of_ne hb, beq_false_of_ne hother, Bool.false_and,
      Bool.false_and]
  have hmem : ∀ d ∈ front ++ c' :: back, d.build = b → d ∈ v.calls := by
    intro d hd hdb
    rw [hsplit]
    rcases mem_of_put hd with rfl | hd
    · exact absurd hdb hother
    · exact hd
  refine ⟨⟨hinfo, hfound, ?_, ?_, ?_, ?_⟩, htally.ge, fun _ => htally⟩
  · rw [hsettings]
    exact h.unspared
  · exact fun d hd hdb => h.completing d (hmem d hd hdb) hdb
  · exact fun hnone d hd hdb => h.fresh hnone d (hmem d hd hdb) hdb
  · intro hsome
    obtain ⟨d, hd, hdb, hgiven⟩ := h.attached hsome
    rw [hsplit] at hd
    refine ⟨d, ?_, hdb, hgiven⟩
    rcases mem_of_put hd with rfl | hd
    · exact absurd hdb hb
    · exact hd

/-- A call for the build takes a step. -/
theorem Racing.advances_own (h : v.Racing b info found) {front back : List Call} {c c' : Call}
    (hsplit : v.calls = front ++ c :: back) (hb : c.build = b) (hb' : c'.build = b)
    {found' : Option (List FoundCause)}
    (hpassage : Stage.Passage info c.stage found c'.stage found')
    {host : Triage} (hinfo : host.builds.info b = .ok info)
    (hfound : host.builds.found b = .ok found') (hsettings : host.settings = v.host.settings) :
    v.Advances b info { v with host := host, calls := front ++ c' :: back } found' := by
  have hc : c ∈ v.calls := by
    rw [hsplit]
    exact List.mem_append_right _ List.mem_cons_self
  have hrest : ∀ d ∈ front ++ c' :: back, d = c' ∨ d ∈ v.calls := by
    rw [hsplit]
    exact fun d hd => mem_of_put hd
  have hkept : ∀ d ∈ v.calls, d = c ∨ d ∈ front ++ c' :: back := by
    rw [hsplit]
    exact fun d hd => mem_of_put hd
  have hc' : c' ∈ front ++ c' :: back := List.mem_append_right _ List.mem_cons_self
  have hbefore := tally_split hsplit Stage.hasPassed (b := b)
  have hafter := tally_split (v := { v with host := host, calls := front ++ c' :: back })
    rfl Stage.hasPassed (b := b)
  rw [beq_iff_eq.mpr hb, Bool.true_and] at hbefore
  rw [beq_iff_eq.mpr hb', Bool.true_and] at hafter
  refine ⟨⟨hinfo, hfound, ?_, ?_, ?_, ?_⟩, ?_, ?_⟩
  · rw [hsettings]
    exact h.unspared
  · intro d hd hdb
    rcases hrest d hd with rfl | hd
    · exact hpassage.completing (h.completing c hc hb)
    · exact h.completing d hd hdb
  · rintro rfl d hd hdb
    have hnone : found = none := hpassage.none_before
    obtain ⟨hgiven, hopen⟩ := h.fresh hnone c hc hb
    rcases hrest d hd with rfl | hd
    · exact hpassage.goes_on hgiven hopen
    · exact h.fresh hnone d hd hdb
  · intro hsome
    rcases hpassage.of_some hsome with hbefore | hgiven
    · obtain ⟨d, hd, hdb, hgiven⟩ := h.attached hbefore
      rcases hkept d hd with rfl | hd
      · exact ⟨c', hc', hb', hpassage.hasGiven hgiven⟩
      · exact ⟨d, hd, hdb, hgiven⟩
    · exact ⟨c', hc', hb', hgiven⟩
  · rw [hbefore, hafter]
    have hle : (if c.stage.hasPassed = true then 1 else 0) ≤
        (if c'.stage.hasPassed = true then 1 else 0) := by
      split
      · next hpassed => rw [if_pos (hpassage.hasPassed hpassed)]
      · exact Nat.zero_le _
    omega
  · intro hsome
    rw [hbefore, hafter, hpassage.hasPassed_eq hsome]

/-- A step of a call keeps them such calls. -/
theorem Racing.act (h : v.Racing b info found) (hsound : ∀ c ∈ v.calls, c.Sound)
    (hbuild : info.build = b) {i : Nat} (hs : v.step (.act i) = some next) :
    ∃ found', v.Advances b info next found' := by
  obtain ⟨front, c, back, hsplit, rfl⟩ := exists_of_act hs
  have hc : c ∈ v.calls := by
    rw [hsplit]
    exact List.mem_append_right _ List.mem_cons_self
  by_cases hb : c.build = b
  · obtain ⟨s', t', found', hrun, hsettings, hinfo, hfound, hpassage⟩ :=
      Stage.exists_passage v.ledger.pool.cancelled (h.completing c hc hb) hbuild h.info_eq
        h.found_eq h.unspared
    have hadvance : c.advance v.ledger.pool.cancelled v.host =
        ({ c with stage := s', attached := c.attached ++ c.stage.gift?.toList }, t') := by
      rw [Call.advance, hb, hrun]
    rw [hadvance]
    refine ⟨found', h.advances_own hsplit hb ?_ ?_ hinfo hfound hsettings⟩
    exacts [hb, hpassage]
  · have hkeeps : TriageStep.Keeps (fun t => t.builds.info b = .ok info ∧
        t.builds.found b = .ok found ∧ t.settings = v.host.settings)
        (c.stage.next c.build v.ledger.pool.cancelled) := by
      refine Stage.keeps_next (fun _ _ ht => ht) (fun _ _ ht => ht) ?_ (hsound c hc).info
      rintro t builds x ⟨hinfo, hfound, hsettings⟩ hset
      refine ⟨?_, ?_, hsettings⟩
      · exact (BuildStore.info_setFound hset b).trans hinfo
      · exact (BuildStore.found_setFound_other hset (Ne.symm hb)).trans hfound
    obtain ⟨hinfo, hfound, hsettings⟩ := hkeeps v.host ⟨h.info_eq, h.found_eq, rfl⟩
    rw [← Call.host_advance] at hinfo hfound hsettings
    exact ⟨found, h.advances_other hsplit hb (Call.build_advance ..) hinfo hfound hsettings⟩

/-- Every step that leaves the build to its calls keeps them such calls. -/
theorem Racing.step (h : v.Racing b info found) (hsound : ∀ c ∈ v.calls, c.Sound)
    (hbuild : info.build = b) (hspares : v.spares b e = true) (hs : v.step e = some next) :
    ∃ found', v.Advances b info next found' := by
  cases e with
  | replace builds =>
    obtain ⟨hinfo, hsome⟩ := of_decide_eq_true hspares
    rw [h.found_eq] at hsome
    obtain rfl := Option.some.inj hs
    cases hfound : builds.found b with
    | error e => rw [hfound] at hsome; exact absurd hsome nofun
    | ok found' =>
      rw [hfound] at hsome
      refine ⟨found', h.advances_same ?_ ?_ ?_ ?_ ?_⟩
      exacts [rfl, hinfo, hfound, Except.ok.inj hsome, rfl]
  | refresh cache =>
    obtain rfl := Option.some.inj hs
    refine ⟨found, h.advances_same ?_ ?_ ?_ ?_ ?_⟩
    exacts [rfl, rfl, h.found_eq, rfl, rfl]
  | complete build =>
    obtain rfl := Option.some.inj hs
    exact ⟨found, h.advances_join fun _ => rfl⟩
  | rescan build =>
    obtain rfl := Option.some.inj hs
    exact ⟨found, h.advances_join fun hb => absurd hb (bne_iff_ne.mp hspares)⟩
  | begin task build =>
    obtain ⟨-, -, rfl⟩ := exists_of_begin hs
    exact ⟨found, h.advances_join fun hb => absurd hb (bne_iff_ne.mp hspares)⟩
  | act i => exact h.act hsound hbuild hs
  | pool e =>
    obtain ⟨ledger, -, rfl, -⟩ := exists_of_pool hs
    refine ⟨found, h.advances_same ?_ ?_ ?_ ?_ ?_⟩
    exacts [rfl, rfl, h.found_eq, rfl, rfl]
  | save =>
    obtain ⟨-, r, later, -, rfl⟩ := exists_of_save hs
    refine ⟨found, h.advances_same ?_ ?_ ?_ ?_ ?_⟩
    exacts [rfl, rfl, h.found_eq, rfl, rfl]
  | see =>
    obtain ⟨r, -, rfl⟩ := Option.map_eq_some_iff.mp hs
    refine ⟨found, h.advances_same ?_ ?_ ?_ ?_ ?_⟩
    exacts [rfl, rfl, h.found_eq, rfl, rfl]

theorem tally_mono {far far' : Stage → Bool} (h : ∀ s, far s = true → far' s = true) :
    v.tally b far ≤ v.tally b far' := by
  refine List.countP_mono_left fun c _ hc => ?_
  rw [Bool.and_eq_true] at hc ⊢
  exact ⟨hc.1, h _ hc.2⟩

/-- What is the same of all calls for a build counts as many of them. -/
theorem tally_congr {far far' : Stage → Bool}
    (h : ∀ c ∈ v.calls, c.build = b → far c.stage = far' c.stage) :
    v.tally b far = v.tally b far' := by
  refine List.countP_congr fun c hc => ?_
  by_cases hb : c.build = b
  · rw [h c hc hb]
  · rw [beq_false_of_ne hb, Bool.false_and, Bool.false_and]

/-- Who is about to scan the build has read that it was not scanned. -/
theorem tally_isScanning_le : v.tally b Stage.isScanning ≤ v.tally b Stage.hasPassed :=
  tally_mono fun s hs => by rw [Stage.hasPassed, hs, Bool.true_or]

/-- As long as the build was not scanned nobody has done more. -/
theorem Racing.tally_fresh (h : v.Racing b info none) :
    v.tally b Stage.hasPassed = v.tally b Stage.isScanning := by
  refine tally_congr fun c hc hb => ?_
  rw [Stage.hasPassed, (h.fresh rfl c hc hb).1, Bool.or_false]

theorem isScanning_le_of_apart {steps : List ServiceStep} (h : apart b v steps = true) :
    v.tally b Stage.isScanning ≤ 1 := by
  cases steps with
  | nil => exact of_decide_eq_true h
  | cons e rest =>
    rw [apart, Bool.and_eq_true] at h
    exact of_decide_eq_true h.1

/-- How some steps leave the calls for a build. -/
structure Raced (b : BuildRef) (info : BuildInfo) (v : Service) (steps : List ServiceStep)
    (next : Service) : Prop where
  /-- They are still such calls. -/
  racing : ∃ found, next.Racing b info found
  /-- None that has read that the build was not scanned is lost. -/
  le : v.tally b Stage.hasPassed ≤ next.tally b Stage.hasPassed
  /-- If no two scan the build at a time there is one at most. -/
  le_one : apart b v steps = true → v.tally b Stage.hasPassed ≤ 1 →
    next.tally b Stage.hasPassed ≤ 1
  /-- Otherwise there are two at least. -/
  two_le : apart b v steps = false → 2 ≤ next.tally b Stage.hasPassed

variable {writes : UInt64 → Prop} {successful : Bool} {cat : Catalog} {saved : List Statistics}
  {master : String}

/-- Any steps that leave the build to its calls leave them so. -/
theorem Racing.run (h : v.Racing b info found)
    (hbooks : v.Books writes successful cat saved master) (hbuild : info.build = b)
    {steps : List ServiceStep} (hspares : undisturbed b v steps = true)
    (hrun : v.run steps = some next)
    (hw : ∀ r ∈ next.handed master successful, writes r.startTime) :
    Raced b info v steps next := by
  induction steps generalizing v found with
  | nil =>
    obtain rfl := Option.some.inj hrun
    refine ⟨⟨found, h⟩, le_rfl, fun _ hle => hle, fun hapart => ?_⟩
    have hscanning : ¬ v.tally b Stage.isScanning ≤ 1 := of_decide_eq_false hapart
    have hle := v.tally_isScanning_le (b := b)
    omega
  | cons e rest ih =>
    obtain ⟨mid, hstep, hrest⟩ := Option.bind_eq_some_iff.mp hrun
    rw [undisturbed, Bool.and_eq_true, hstep, Option.all_some] at hspares
    obtain ⟨found', hadvances⟩ := h.step hbooks.sound hbuild hspares.1 hstep
    have hmid : mid.Books writes successful cat saved master :=
      hbooks.step (fun r hr => hw r (handed_of_run hrest hr)) hstep
    have hraced := ih hadvances.racing hmid hspares.2 hrest
    have happart : apart b v (e :: rest) =
        (decide (v.tally b Stage.isScanning ≤ 1) && apart b mid rest) := by
      rw [apart, hstep, Option.all_some]
    refine ⟨hraced.racing, hadvances.le.trans hraced.le, fun hapart hle => ?_, fun hapart => ?_⟩
    · rw [happart, Bool.and_eq_true] at hapart
      refine hraced.le_one hapart.2 ?_
      cases found' with
      | none =>
        rw [hadvances.racing.tally_fresh]
        exact isScanning_le_of_apart hapart.2
      | some x =>
        rw [hadvances.eq_of_found nofun]
        exact hle
    · rw [happart, Bool.and_eq_false_iff] at hapart
      rcases hapart with hscanning | hlater
      · have htwo : ¬ v.tally b Stage.isScanning ≤ 1 := of_decide_eq_false hscanning
        have hpassed := v.tally_isScanning_le (b := b)
        have hle := hadvances.le.trans hraced.le
        omega
      · exact hraced.two_le hlater

end Service

end BuildTriage
