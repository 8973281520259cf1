import BuildTriage.Proofs.KnowledgeBase.Cache.Chronicle

/-!
# A cache serves what its chronicle says

The updater of a cache is told by signals when to take a snapshot, and has carried out what it
was asked for by the next turn. Then the cache answers as the chronicle of its visits does,
and counts as it does. If nothing but changes with success has made the listings others since
the latest visit, a running cache serves those of the place where causes are kept.
-/

namespace BuildTriage

namespace KnowledgeBase

/-- The live causes are listed where they are kept. -/
theorem keptCauses_eq (k : KnowledgeBase) : keptCauses k =
    Backing.wrap (fun b => { k with backing := b }) (Backing.list k.backing) := rfl

/-- A snapshot is taken by a visit to the place where causes are kept, and put into the
cache. -/
theorem fetch_eq (k : KnowledgeBase) : fetch k =
    match Backing.visit k.backing with
    | .ok s b => .ok s (onCache (·.install s) { k with backing := b })
    | .error e b => .error e { k with backing := b } := by
  unfold Backing.visit
  cases hfirst : Backing.list k.backing with
  | error e b =>
    have hcauses : keptCauses k = .error e { k with backing := b } := by
      rw [keptCauses_eq, hfirst]
      rfl
    rw [fetch, bind_error hcauses, bind_error hfirst]
  | ok causes b =>
    have hcauses : keptCauses k = .ok causes { k with backing := b } := by
      rw [keptCauses_eq, hfirst]
      rfl
    rw [fetch, bind_ok hcauses, bind_ok hfirst, keptCategories]
    cases hsecond : Backing.list b with
    | error e b' =>
      have hagain : keptCauses { k with backing := b } = .error e { k with backing := b' } := by
        rw [keptCauses_eq, hsecond]; rfl
      rw [bind_error (bind_error hagain), bind_error hsecond]
    | ok again b' =>
      have hagain : keptCauses { k with backing := b } = .ok again { k with backing := b' } := by
        rw [keptCauses_eq, hsecond]; rfl
      rw [bind_ok hsecond]
      simp only [bind, EStateM.bind, hagain]
      rfl

end KnowledgeBase

namespace Chronicle

variable {c : Chronicle} {α : Type}

/-- The cache of a chronicle; its updater waits, if it is running. -/
def cache (c : Chronicle) : CauseCache :=
  ⟨c.served, if c.running then some ⟨.waiting, []⟩ else none, c.taken, c.failed⟩

/-- The knowledge base of a chronicle. -/
def base (c : Chronicle) : KnowledgeBase := ⟨c.backing, some c.cache⟩

/-- A visit with success. -/
theorem base_visit_ok (visitor : Visitor) {s : Snapshot} {b : Backing}
    (h : Backing.visit c.backing = .ok s b) :
    (c.visit visitor).2.base =
      KnowledgeBase.onCache (·.install s) { c.base with backing := b } := by
  have hout : outcome Backing.visit c.backing = (.ok s, b) := by rw [outcome, h]
  simp [visit, hout, base, cache, KnowledgeBase.onCache, CauseCache.install, served, taken, failed,
    Except.toOption, Except.isOk, Except.toBool]

/-- A visit of the updater that fails is counted. -/
theorem base_visit_error {e : KnowledgeBaseError} {b : Backing}
    (h : Backing.visit c.backing = .error e b) :
    (c.visit .updater).2.base = KnowledgeBase.onCache (·.fail) { c.base with backing := b } := by
  have hout : outcome Backing.visit c.backing = (.error e, b) := by rw [outcome, h]
  simp [visit, hout, base, cache, KnowledgeBase.onCache, CauseCache.fail, served, taken, failed,
    Except.toOption, Except.isOk, Except.toBool]

/-- A visit of a listing that fails leaves no trace in the cache. -/
theorem base_listing_error {e : KnowledgeBaseError} {b : Backing}
    (h : Backing.visit c.backing = .error e b) :
    (c.visit .listing).2.base = { c.base with backing := b } := by
  have hout : outcome Backing.visit c.backing = (.error e, b) := by rw [outcome, h]
  simp [visit, hout, base, cache, served, taken, failed, Except.toOption, Except.isOk,
    Except.toBool]

/-- An updater that takes a snapshot makes one visit, and waits again. -/
theorem move_fetching (h : c.running = true) :
    (c.base.setUpdater (some .begun)).move? = some (c.visit .updater).2.base := by
  have hupdater : (c.base.setUpdater (some .begun)).updater = some .begun := rfl
  have hfetched : Updater.begun.fetched? = some ⟨.waiting, []⟩ := rfl
  unfold KnowledgeBase.move?
  simp only [hupdater, hfetched, KnowledgeBase.fetch_eq]
  have hbacking : (c.base.setUpdater (some .begun)).backing = c.backing := rfl
  rw [hbacking]
  cases hvisit : Backing.visit c.backing with
  | ok s b =>
    rw [base_visit_ok _ hvisit]
    simp [base, cache, h, KnowledgeBase.setUpdater, KnowledgeBase.onCache, CauseCache.install]
  | error e b =>
    rw [base_visit_error hvisit]
    simp [base, cache, h, KnowledgeBase.setUpdater, KnowledgeBase.onCache, CauseCache.fail]

/-- A request for a snapshot has been carried out once the updater waits again. -/
theorem settle_refresh (h : c.running = true) :
    (c.base.onCache (·.signal .refresh)).settle = (c.visit .updater).2.base := by
  have hread : (c.base.onCache (·.signal .refresh)).move? =
      some (c.base.setUpdater (some ⟨.collecting, []⟩)) := by
    simp [base, cache, h, KnowledgeBase.move?, KnowledgeBase.updater, KnowledgeBase.onCache,
      KnowledgeBase.setUpdater, CauseCache.signal, Updater.send, Updater.fetched?, Updater.read?]
  have hempty : (c.base.setUpdater (some ⟨.collecting, []⟩)).move? =
      some (c.base.setUpdater (some .begun)) := rfl
  have hdistance :
      (((c.base.onCache (·.signal .refresh)).updater).map (·.distance)).getD 0 = 3 := by
    simp [base, cache, h, KnowledgeBase.updater, KnowledgeBase.onCache, CauseCache.signal,
      Updater.send, Updater.distance]
  rw [KnowledgeBase.settle, hdistance]
  simp only [KnowledgeBase.settleWithin, hread, hempty, move_fetching h]

theorem settle_stop (c : Chronicle) :
    c.base.stop = ({ c with running := false } : Chronicle).base := by
  cases h : c.running with
  | false =>
    simp [base, cache, h, KnowledgeBase.stop, KnowledgeBase.settle, KnowledgeBase.settleWithin,
      KnowledgeBase.updater, KnowledgeBase.onCache, KnowledgeBase.setUpdater, CauseCache.signal,
      served, taken, failed]
  | true =>
    simp [base, cache, h, KnowledgeBase.stop, KnowledgeBase.settle, KnowledgeBase.settleWithin,
      KnowledgeBase.updater, KnowledgeBase.onCache, KnowledgeBase.setUpdater, CauseCache.signal,
      served, taken, failed, Updater.send, Updater.distance, KnowledgeBase.move?,
      Updater.fetched?, Updater.read?]

/-- A cache that is asked for a snapshot has made a visit, if it is running. -/
theorem updateCache_eq (c : Chronicle) :
    KnowledgeBase.updateCache c.base = .ok () c.refresh.base := by
  have hrun : KnowledgeBase.updateCache c.base =
      .ok () (c.base.onCache (·.signal .refresh)).settle := rfl
  rw [hrun, refresh]
  cases h : c.running with
  | true => rw [settle_refresh h, if_pos rfl]
  | false =>
    simp [base, cache, h, KnowledgeBase.settle, KnowledgeBase.settleWithin, KnowledgeBase.updater,
      KnowledgeBase.onCache, CauseCache.signal]

/-- A cache that is started has made a visit, unless it was running. -/
theorem start_eq (c : Chronicle) :
    KnowledgeBase.start c.base = .ok () (c.turn .start).2.base := by
  have hrun : KnowledgeBase.start c.base =
      .ok () (if c.base.isRunning then c.base else (c.base.setUpdater (some .begun)).settle) := rfl
  have hrunning : c.base.isRunning = c.running := by
    cases h : c.running <;> simp [base, cache, h, KnowledgeBase.isRunning, CauseCache.running]
  rw [hrun, hrunning, turn]
  cases h : c.running with
  | true => rfl
  | false =>
    have hbegun : c.base.setUpdater (some .begun) =
        ({ c with running := true } : Chronicle).base.setUpdater (some .begun) := rfl
    have hmove := move_fetching (c := { c with running := true }) rfl
    have hdistance : (((({ c with running := true } : Chronicle).base.setUpdater
        (some .begun)).updater).map (·.distance)).getD 0 = 1 := rfl
    simp only [Bool.false_eq_true, if_false]
    rw [hbegun, KnowledgeBase.settle, hdistance]
    simp only [KnowledgeBase.settleWithin, hmove]

/-- What is asked of a knowledge base with a cache is answered by a rule on chronicles. -/
def Obeys (op : Op KnowledgeBase Answer) (rule : Chronicle → Reply × Chronicle) : Prop :=
  ∀ c, outcome op c.base = ((rule c).1, (rule c).2.base)

/-- What is asked of the place where causes are kept is answered there. -/
theorem obeys_ask (f : α → Answer) (op : Op Backing α) :
    Obeys (f <$> KnowledgeBase.onBacking op) (ask (f <$> op)) := by
  intro c
  have hbacking : c.base.backing = c.backing := rfl
  simp only [ask, outcome_map]
  unfold outcome KnowledgeBase.onBacking
  rw [hbacking]
  cases op c.backing with
  | ok a b => rfl
  | error e b => rfl

/-- A change with success is followed by a visit, if the cache is running. -/
theorem obeys_change (f : α → Answer) (op : (σ : Type) → [CauseStore σ] → Op σ α) :
    Obeys (f <$> KnowledgeBase.change op) (change (f <$> Backing.run op)) := by
  intro c
  have hkept : KnowledgeBase.onBacking (Backing.run op) c.base =
      Backing.wrap (fun b => ({ c with backing := b } : Chronicle).base)
        (Backing.run op c.backing) := rfl
  simp only [change, ask, outcome_map]
  unfold outcome KnowledgeBase.change
  cases hop : Backing.run op c.backing with
  | ok a b =>
    rw [hop] at hkept
    rw [bind_ok hkept, bind_ok (updateCache_eq _)]
    rfl
  | error e b =>
    rw [hop] at hkept
    rw [bind_error hkept]
    rfl

/-- The snapshot in the cache is the one that is served, and a new one comes of a visit. -/
theorem outcome_snapshot (c : Chronicle) :
    outcome (KnowledgeBase.snapshot c.cache) c.base =
      match c.served with
      | some s => (.ok s, c.base)
      | none => ((c.visit .listing).1, (c.visit .listing).2.base) := by
  have hsnapshot : c.cache.snapshot = c.served := rfl
  unfold KnowledgeBase.snapshot
  rw [hsnapshot]
  cases c.served with
  | some s => rfl
  | none =>
    have hbacking : c.base.backing = c.backing := rfl
    simp only [outcome, KnowledgeBase.fetch_eq, hbacking]
    cases hvisit : Backing.visit c.backing with
    | ok s b =>
      have hbrought : (c.visit .listing).1 = .ok s := by simp only [visit, outcome, hvisit]
      rw [base_visit_ok _ hvisit, hbrought]
    | error e b =>
      have hbrought : (c.visit .listing).1 = .error e := by simp only [visit, outcome, hvisit]
      rw [base_listing_error hvisit, hbrought]

/-- A listing is made of the snapshot. -/
theorem obeys_list {op : Op KnowledgeBase α} (f : α → Answer) (part : Snapshot → α)
    (hop : ∀ c : Chronicle, op c.base = (part <$> KnowledgeBase.snapshot c.cache) c.base) :
    Obeys (f <$> op) (list fun s => f (part s)) := by
  intro c
  have hsame : outcome op c.base = outcome (part <$> KnowledgeBase.snapshot c.cache) c.base := by
    simp only [outcome, hop]
  rw [outcome_map, hsame, outcome_map, outcome_snapshot, list]
  cases c.served with
  | some s => rfl
  | none =>
    generalize c.visit .listing = visited
    obtain ⟨brought, after⟩ := visited
    cases brought with
    | ok s => rfl
    | error e => rfl

/-- The causes are those of the snapshot. -/
theorem causes_eq (c : Chronicle) :
    KnowledgeBase.causes c.base = ((·.causes) <$> KnowledgeBase.snapshot c.cache) c.base := by
  rw [map_eq_pure_bind]
  rfl

/-- What is made of the causes is made of the snapshot. -/
theorem causes_bind_eq (g : List FailureCause → α) (c : Chronicle) :
    (do return g (← KnowledgeBase.causes)) c.base =
      ((fun s => g s.causes) <$> KnowledgeBase.snapshot c.cache) c.base := by
  simp only [bind, EStateM.bind, causes_eq, Functor.map, EStateM.map]
  cases KnowledgeBase.snapshot c.cache c.base with
  | ok s t => rfl
  | error e t => rfl

theorem categories_eq (c : Chronicle) :
    KnowledgeBase.categories c.base =
      ((·.categories) <$> KnowledgeBase.snapshot c.cache) c.base := by
  rw [map_eq_pure_bind]
  rfl

/-- Whatever is asked of a knowledge base with a cache is answered as a chronicle says. -/
theorem obeys_perform (r : Request) :
    Obeys (KnowledgeBase.perform r) fun c => c.turn (.request r) := by
  cases r with
  | add fresh cause => exact obeys_change _ _
  | save fresh cause => exact obeys_change _ _
  | remove id stone => exact obeys_change _ _
  | lastSeen ids time => exact obeys_change _ _
  | get id => exact obeys_ask _ _
  | causes => exact obeys_list _ (·.causes) causes_eq
  | names => exact obeys_list _ (fun s => namesOf s.causes) (causes_bind_eq namesOf)
  | shallow => exact obeys_list _ (fun s => shallowOf s.causes) (causes_bind_eq shallowOf)
  | categories => exact obeys_list _ (·.categories) categories_eq

/-- A turn of a knowledge base with a cache is one of its chronicle. -/
theorem turn_base (c : Chronicle) (t : Turn) :
    c.base.turn t = ((c.turn t).1, (c.turn t).2.base) := by
  cases t with
  | start => rw [KnowledgeBase.turn, outcome_map, outcome, start_eq]; rfl
  | stop => rw [KnowledgeBase.turn, settle_stop]; rfl
  | updateCache => rw [KnowledgeBase.turn, outcome_map, outcome, updateCache_eq]; rfl
  | request r => exact obeys_perform r c
  | outside b => rfl

theorem answers_base (c : Chronicle) (turns : List Turn) :
    c.base.answers turns = c.answers turns := by
  induction turns generalizing c with
  | nil => rfl
  | cons t rest ih => rw [KnowledgeBase.answers, answers, turn_base, ih]

theorem afterTurns_base (c : Chronicle) (turns : List Turn) :
    c.base.afterTurns turns = (c.after turns).base := by
  induction turns generalizing c with
  | nil => rfl
  | cons t rest ih =>
    have hstep : c.base.afterTurns (t :: rest) = (c.base.turn t).2.afterTurns rest := rfl
    rw [hstep, turn_base, ih]
    rfl

end Chronicle

namespace KnowledgeBase

open Chronicle

/-- A cache that serves a snapshot lists its causes and its categories. -/
theorem lists_served {c : Chronicle} {s : Snapshot} (h : c.served = some s) :
    causes c.base = .ok s.causes c.base ∧ categories c.base = .ok s.categories c.base := by
  have hsnapshot : snapshot c.cache c.base = .ok s c.base := by
    have hserved : c.cache.snapshot = some s := h
    rw [snapshot, hserved]
    rfl
  rw [Chronicle.causes_eq, Chronicle.categories_eq]
  simp only [Functor.map, EStateM.map, hsnapshot, and_self]

/-- Whatever is done with a knowledge base that has a cache before it, and whatever becomes of
the place where the causes are kept, it answers as the chronicle of its visits says. Each
snapshot is what the listings had when it was taken, and the latest one can still be read once
the cache is stopped. If only changes with success have made the listings others since the
latest visit, and this had success, a cache that is running serves the listings as they are. -/
theorem serves_latest_visit (k : KnowledgeBase) (turns : List Turn) :
    let c := (begun k.backing).after turns
    k.cached.answers turns = (begun k.backing).answers turns ∧
    k.cached.afterTurns turns = c.base ∧
    c.Truthful ∧
    (∀ s, c.served = some s → causes c.base.stop = .ok s.causes c.base.stop ∧
      categories c.base.stop = .ok s.categories c.base.stop) ∧
    ((begun k.backing).CalmSinceVisit True turns → c.running = true → c.fresh = true →
      ∃ s, c.backing.contents = some s ∧ causes c.base = .ok s.causes c.base ∧
        categories c.base = .ok s.categories c.base) := by
  have hbegun : k.cached = (begun k.backing).base := rfl
  have htruthful : (begun k.backing).Truthful := fun _ hv => absurd hv List.not_mem_nil
  have hcurrent : (begun k.backing).Current := fun hrunning => absurd hrunning Bool.false_ne_true
  intro c
  refine ⟨?_, ?_, htruthful.after turns, ?_, ?_⟩
  · rw [hbegun, answers_base]
  · rw [hbegun, afterTurns_base]
  · intro s hs
    rw [settle_stop]
    exact lists_served (c := { c with running := false }) hs
  · intro hcalm hrunning hfresh
    obtain ⟨v, hv, s, hbrought, hserved⟩ := exists_of_fresh hfresh
    have hafter : c.Current := current_after (fun _ => hcurrent) hcalm
    exact ⟨s, hafter hrunning v hv s hbrought, lists_served hserved⟩

/-- A cause that is added, one without a name that is refused, and a last occurrence that is
written while the cache is stopped. -/
def sampleTurns : List Turn :=
  [.request .causes, .start,
    .request (.add "n1" ⟨"", "Disk full", "", "", ["infra"], [], none, [], none⟩),
    .request (.add "n2" ⟨"", " ", "", "", [], [], none, [], none⟩), .stop,
    .request (.lastSeen ["n1"] 3), .start]

/-- The cause is listed with its last occurrence, which the visit of the second start brought. -/
theorem serves_latest_visit_sample :
    let c := (begun (ofFile .inMemory).backing).after sampleTurns
    (begun (ofFile .inMemory).backing).CalmSinceVisit True sampleTurns ∧
    c.running = true ∧ c.fresh = true ∧
    c.backing.contents =
      some ⟨[⟨"n1", "Disk full", "", "", ["infra"], [], some 3, [], none⟩], ["infra"]⟩ ∧
    ∃ s, c.backing.contents = some s ∧ causes c.base = .ok s.causes c.base ∧
      categories c.base = .ok s.categories c.base := by
  intro c
  have hcalm : (begun (ofFile .inMemory).backing).CalmSinceVisit True sampleTurns := by
    decide +kernel
  have hrunning : c.running = true := by decide +kernel
  have hfresh : c.fresh = true := by decide +kernel
  have hcontents : c.backing.contents =
      some ⟨[⟨"n1", "Disk full", "", "", ["infra"], [], some 3, [], none⟩], ["infra"]⟩ := by
    decide +kernel
  obtain ⟨-, -, -, -, hserves⟩ := serves_latest_visit (ofFile .inMemory) sampleTurns
  exact ⟨hcalm, hrunning, hfresh, hcontents, hserves hcalm hrunning hfresh⟩

/-- A key-value store that lists one cause, and has a field that is no cause. -/
def halfReadable : CauseHash :=
  ⟨[("a", (⟨"a", "A", "", "", [], [], none, [], none⟩ : FailureCause).stored), ("b", "x")], ["a"],
    [], ⟨[], false⟩⟩

/-- Seeing both causes fails at the second one, when the first one is written already. No
visit follows: the cache is running, its only refresh has had success, and it lists the cause
as it was before. -/
theorem behind_failed_change :
    let turns := [.start, .request (.lastSeen ["a", "b"] 5)]
    let k := (ofHash halfReadable false false).cached
    k.answers (turns ++ [.request .causes]) = [.ok .done, .error (.unreadable .malformed),
      .ok (.causes [⟨"a", "A", "", "", [], [], none, [], none⟩])] ∧
    ((k.afterTurns turns).cache.map fun c => (c.running, c.refreshes, c.failed)) =
      some (true, 1, 0) ∧
    (k.afterTurns turns).backing.contents =
      some ⟨[⟨"a", "A", "", "", [], [], some 5, [], none⟩], []⟩ := by
  decide +kernel

end KnowledgeBase

end BuildTriage
