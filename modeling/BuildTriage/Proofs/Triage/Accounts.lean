import BuildTriage.Proofs.KnowledgeBase.Reached
import BuildTriage.Proofs.Triage.Service

/-!
# What is recorded of a host's work

A task that a worker of the pool has ended is the rescan of one call, and that call has come to
its end. So once a shutdown has left no task behind, and the direct calls have come to their ends
too, all that is to be recorded has been handed over. Stopping the recorder writes what is not
written yet. Then there is one record for each scan, and each cause was last seen at the latest of
the times that count, in whatever order the records were written.
-/

namespace BuildTriage

/-- A step of a call leaves it the task that it carries out. -/
theorem Call.job_advance (withdrawn : Bool) (c : Call) (t : Triage) :
    (c.advance withdrawn t).1.job? = c.job? := by
  unfold advance
  cases c.stage.next c.build withdrawn t with
  | ok s t => rfl
  | error e t => rfl

namespace Service

variable {v next : Service} {e : ServiceStep}

/-- The tasks that the calls carry out, in the order in which these came. -/
def jobs (v : Service) : List (Nat × BuildRef) := v.calls.filterMap (·.job?)

theorem mem_jobs {t : Nat × BuildRef} : t ∈ v.jobs ↔ ∃ c ∈ v.calls, c.job? = some t :=
  List.mem_filterMap

/-- A rescan that has been carried out is that of a call. -/
theorem mem_jobs_of_hasDone {t : Nat × BuildRef} (h : v.hasDone t = true) : t ∈ v.jobs := by
  have hany : (v.calls.any (·.job? == some t)) = true := (Bool.and_eq_true_iff.mp h).1
  obtain ⟨c, hc, hjob⟩ := List.any_eq_true.mp hany
  exact mem_jobs.mpr ⟨c, hc, eq_of_beq hjob⟩

/-- The call of a rescan that has been carried out has come to its end. -/
theorem ended_of_hasDone {t : Nat × BuildRef} (h : v.hasDone t = true) {c : Call}
    (hc : c ∈ v.calls) (hjob : c.job? = some t) : c.stage.isEnded = true := by
  have hall := List.all_eq_true.mp (Bool.and_eq_true_iff.mp h).2 c hc
  rcases Bool.or_eq_true_iff.mp hall with hother | hended
  · exact absurd hjob (bne_iff_ne.mp hother)
  · exact hended

/-- The tasks that the pool has started are those of the calls of its workers. -/
structure Staffed (v : Service) : Prop where
  /-- The ledger of the pool is balanced. -/
  balanced : v.ledger.Balanced
  /-- Once a shutdown has left no task behind there is none. -/
  quiet : v.ledger.Quiet
  /-- No two calls carry out one task. -/
  distinct : v.jobs.Nodup
  /-- A task of a call is being worked on, or the call has come to its end and it to its own. -/
  attended : ∀ c ∈ v.calls, ∀ t, c.job? = some t →
    t ∈ v.ledger.pool.running ∨ c.stage.isEnded = true ∧ t ∈ v.ledger.finished
  /-- A task that has ended was carried out by a call. -/
  carried : ∀ t ∈ v.ledger.finished, t ∈ v.jobs

namespace Staffed

/-- No worker has come yet. -/
theorem opened (t : Triage) (s : RescanSettings) : (Service.opened t s).Staffed where
  balanced := Ledger.Balanced.opened s
  quiet _ hreport := absurd hreport List.not_mem_nil
  distinct := List.nodup_nil
  attended _ hc := absurd hc List.not_mem_nil
  carried _ ht := absurd ht List.not_mem_nil

/-- A call comes that carries out no task. -/
theorem join (h : v.Staffed) {c : Call} (hc : c.job? = none) :
    Staffed { v with calls := v.calls ++ [c] } := by
  have hjobs : jobs { v with calls := v.calls ++ [c] } = v.jobs := by
    unfold jobs
    rw [List.filterMap_append, List.filterMap_cons_none hc, List.filterMap_nil, List.append_nil]
  refine ⟨h.balanced, h.quiet, ?_, ?_, fun t ht => ?_⟩
  · rw [hjobs]
    exact h.distinct
  · refine List.forall_mem_append.mpr ⟨h.attended, fun d hd t ht => ?_⟩
    rw [List.mem_singleton.mp hd, hc] at ht
    exact absurd ht nofun
  · rw [hjobs]
    exact h.carried t ht

/-- A worker begins the call of its task. -/
theorem begin (h : v.Staffed) {task : Nat} {build : BuildRef}
    (hs : v.step (.begin task build) = some next) : next.Staffed := by
  obtain ⟨hrunning, hnew, rfl⟩ := exists_of_begin hs
  have hjobs : jobs { v with calls := v.calls ++ [⟨some task, build, .requested, []⟩] } =
      v.jobs ++ [(task, build)] := List.filterMap_append
  have hfresh : (task, build) ∉ v.jobs := fun hmem => by
    obtain ⟨c, hc, hjob⟩ := mem_jobs.mp hmem
    exact hnew c hc hjob
  refine ⟨h.balanced, h.quiet, ?_, ?_, fun t ht => ?_⟩
  · rw [hjobs]
    exact nodup_extend h.distinct hfresh
  · refine List.forall_mem_append.mpr ⟨h.attended, fun d hd t ht => ?_⟩
    rw [List.mem_singleton.mp hd] at ht
    exact .inl (Option.some.inj ht ▸ hrunning)
  · rw [hjobs]
    exact List.mem_append_left _ (h.carried t ht)

/-- A call takes a step. -/
theorem act (h : v.Staffed) {i : Nat} (hs : v.step (.act i) = some next) : next.Staffed := by
  obtain ⟨front, c, back, hsplit, rfl⟩ := exists_of_act hs
  have hjob := c.job_advance v.ledger.pool.cancelled v.host
  have hjobs : jobs { v with
      host := (c.advance v.ledger.pool.cancelled v.host).2
      calls := front ++ (c.advance v.ledger.pool.cancelled v.host).1 :: back } = v.jobs := by
    unfold jobs
    simp only [hsplit, List.filterMap_append, List.filterMap_cons, hjob]
  have hattended := h.attended
  rw [hsplit] at hattended
  obtain ⟨hfront, hrest⟩ := List.forall_mem_append.mp hattended
  obtain ⟨hcall, hback⟩ := List.forall_mem_cons.mp hrest
  refine ⟨h.balanced, h.quiet, ?_, ?_, fun t ht => ?_⟩
  · rw [hjobs]
    exact h.distinct
  · refine List.forall_mem_append.mpr ⟨hfront, List.forall_mem_cons.mpr ⟨fun t ht => ?_, hback⟩⟩
    rw [hjob] at ht
    rcases hcall t ht with hbusy | ⟨hended, hover⟩
    · exact .inl hbusy
    · refine .inr ⟨?_, hover⟩
      rw [Call.stage_advance_of_ended hended]
      exact hended
  · rw [hjobs]
    exact h.carried t ht

/-- Something happens to the pool. A task that ends was carried out. -/
theorem pool (h : v.Staffed) {e : PoolEvent BuildRef} (hs : v.step (.pool e) = some next) :
    next.Staffed := by
  obtain ⟨ledger, hledger, rfl, hdone⟩ := exists_of_pool hs
  have hfinished := Ledger.finished_of_step hledger
  have hbefore : ∀ t ∈ v.ledger.finished, t ∈ ledger.finished := fun t ht => by
    rw [hfinished]
    exact List.mem_append_left _ ht
  have hnow : ∀ t, v.ledger.ending? e = some t → t ∈ ledger.finished := fun t ht => by
    rw [hfinished, ht]
    exact List.mem_append_right _ (List.mem_singleton.mpr rfl)
  refine ⟨h.balanced.step hledger, h.quiet.step h.balanced hledger, h.distinct,
    fun c hc t ht => ?_, fun t ht => ?_⟩
  · rcases h.attended c hc t ht with hrunning | ⟨hended, hover⟩
    · rcases Ledger.running_of_step h.balanced hledger hrunning with hstill | hends
      · exact .inl hstill
      · exact .inr ⟨ended_of_hasDone (hdone t hends) hc ht, hnow t hends⟩
    · exact .inr ⟨hended, hbefore t hover⟩
  · rw [hfinished, List.mem_append, Option.mem_toList] at ht
    rcases ht with hover | hends
    · exact h.carried t hover
    · exact mem_jobs_of_hasDone (hdone t hends)

/-- Every step keeps the tasks with their calls. -/
theorem step (h : v.Staffed) (hs : v.step e = some next) : next.Staffed := by
  cases e with
  | replace builds =>
    rw [← Option.some.inj hs]
    exact ⟨h.balanced, h.quiet, h.distinct, h.attended, h.carried⟩
  | refresh cache =>
    rw [← Option.some.inj hs]
    exact ⟨h.balanced, h.quiet, h.distinct, h.attended, h.carried⟩
  | complete build =>
    rw [← Option.some.inj hs]
    exact h.join rfl
  | rescan build =>
    rw [← Option.some.inj hs]
    exact h.join rfl
  | begin task build => exact h.begin hs
  | act i => exact h.act hs
  | pool e => exact h.pool hs
  | save =>
    obtain ⟨-, r, later, -, rfl⟩ := exists_of_save hs
    exact ⟨h.balanced, h.quiet, h.distinct, h.attended, h.carried⟩
  | see =>
    obtain ⟨r, -, rfl⟩ := Option.map_eq_some_iff.mp hs
    exact ⟨h.balanced, h.quiet, h.distinct, h.attended, h.carried⟩

/-- Any steps keep the tasks with their calls. -/
theorem run (h : v.Staffed) {steps : List ServiceStep} (hrun : v.run steps = some next) :
    next.Staffed := by
  induction steps generalizing v with
  | nil =>
    rw [← Option.some.inj hrun]
    exact h
  | cons e rest ih =>
    obtain ⟨mid, hstep, hrest⟩ := Option.bind_eq_some_iff.mp hrun
    exact ih (h.step hstep) hrest

/-- After a shutdown that has left no task behind, the tasks that have ended are those of the
calls, and these calls have come to their ends. -/
theorem settled (h : v.Staffed) (hstop : ∃ report ∈ v.ledger.reports, report.stragglers = 0) :
    (∀ c ∈ v.calls, c.task ≠ none → c.stage.isEnded = true) ∧
      v.jobs.Perm v.ledger.finished := by
  obtain ⟨report, hreport, hnone⟩ := hstop
  have hrunning : v.ledger.pool.running = [] :=
    h.balanced.running_eq_nil (h.quiet report hreport hnone)
  have hover : ∀ c ∈ v.calls, ∀ t, c.job? = some t →
      c.stage.isEnded = true ∧ t ∈ v.ledger.finished := fun c hc t ht => by
    rcases h.attended c hc t ht with hbusy | hover
    · rw [hrunning] at hbusy
      exact absurd hbusy List.not_mem_nil
    · exact hover
  constructor
  · intro c hc htask
    obtain ⟨n, hn⟩ := Option.ne_none_iff_exists'.mp htask
    have hjob : c.job? = some (n, c.build) := by rw [Call.job?, hn, Option.map_some]
    exact (hover c hc _ hjob).1
  · refine (List.perm_ext_iff_of_nodup h.distinct h.balanced.nodup_finished).mpr fun t => ?_
    refine ⟨fun ht => ?_, h.carried t⟩
    obtain ⟨c, hc, hjob⟩ := mem_jobs.mp ht
    exact (hover c hc t hjob).2

end Staffed

/-- What a knowledge base holds after the work of a host, against what it held before. -/
structure Accounts (master : String) (successful : Bool) (before after : KnowledgeBase)
    (v : Service) : Prop where
  /-- Every call has come to its end. What it knew was known of its build, and what it found,
  and nothing else, it has attached to that build once. -/
  ended : ∀ c ∈ v.calls, ∃ verdict, c.stage = .ended verdict ∧
    (∀ info ∈ verdict.info?, info.build = c.build) ∧
    c.attached = verdict.found?.toList.map fun found => (c.build, found)
  /-- Each rescan that the pool has carried out is that of one call. -/
  rescans : v.jobs.Perm v.ledger.finished
  /-- The records are those that were there before and those of the calls, one for each call
  that is to have one. -/
  records : ∃ earlier found,
    (outcome (KnowledgeBase.statistics .all none) before).1 = .ok earlier ∧
    (outcome (KnowledgeBase.statistics .all none) after).1 = .ok found ∧
    found.Perm (earlier ++ v.handed master successful)
  /-- A cause was last seen at the latest of the time that it had before and the starts of the
  records that name it. Nothing else of it has changed. -/
  lastSeen : ∀ id, ∃ cause, (outcome (KnowledgeBase.getCause id) before).1 = .ok cause ∧
    (outcome (KnowledgeBase.getCause id) after).1 = .ok (cause.map fun c => { c with
      lastOccurred :=
        (c.lastOccurred.toList ++ Catalog.sightings id (v.handed master successful)).max? })
  /-- The same records in any order move the causes to the same times. -/
  anyOrder : ∀ order : List Statistics, order.Perm (v.handed master successful) → ∀ id,
    (outcome (KnowledgeBase.getCause id) (order.foldl .write before)).1 =
      (outcome (KnowledgeBase.getCause id) after).1

variable {writes : UInt64 → Prop} {successful : Bool} {cat : Catalog} {saved : List Statistics}
  {master : String}

/-- The books of a host to which nobody has come yet. -/
theorem books_opened {settings : ScannerSettings} {kb : KnowledgeBase}
    (h : kb.backing.Archives writes true successful saved cat) (s : RescanSettings) :
    (opened (.start settings kb master) s).Books writes successful cat saved master where
  accepting := rfl
  master_eq := rfl
  archives := by
    have hnothing : saved ++ ([] ++ (none : Option Statistics).toList) = saved :=
      List.append_nil saved
    rw [← hnothing] at h
    exact h
  handed_perm := List.Perm.nil
  sound _ hc := absurd hc List.not_mem_nil

/-- The records in the order in which they are written in the end. -/
def inOrder (v : Service) : List Statistics :=
  v.written ++ v.hand.toList ++ v.host.recorder.waiting

/-- Stopping the recorder and the cache writes all that has been handed over. -/
theorem Books.archives_stop (h : v.Books writes successful cat saved master)
    (hw : ∀ r ∈ v.handed master successful, writes r.startTime) :
    v.rest.closeRecords.kb.stop.backing.Archives writes true successful (saved ++ v.inOrder)
      (cat.recorded v.inOrder) := by
  have htimes : ∀ r ∈ v.inOrder, writes r.startTime :=
    fun r hr => hw r (h.handed_perm.mem_iff.mp hr)
  have hrest : v.rest.kb.backing.Archives writes true successful
      (saved ++ (v.written ++ v.hand.toList)) (cat.recorded (v.written ++ v.hand.toList)) := by
    have hbefore := h.archives
    unfold rest
    cases hhand : v.hand with
    | none =>
      rw [hhand, Option.toList_none, List.append_nil] at hbefore
      rw [Option.toList_none, List.append_nil]
      exact hbefore
    | some r =>
      have hr : writes r.startTime := htimes r (by simp [inOrder, hhand])
      rw [hhand] at hbefore
      rw [Catalog.recorded_append]
      exact KnowledgeBase.archives_see hbefore hr
  have hrecorder : v.rest.recorder = v.host.recorder := by
    unfold rest
    cases v.hand <;> rfl
  have hdrained := KnowledgeBase.archives_writes hrest
    fun r hr => htimes r (List.mem_append_right (v.written ++ v.hand.toList) hr)
  rw [List.append_assoc, ← Catalog.recorded_append] at hdrained
  have hkb : v.rest.closeRecords.kb = v.host.recorder.waiting.foldl .write v.rest.kb := by
    rw [← hrecorder]
    rfl
  rw [← hkb] at hdrained
  rw [KnowledgeBase.backing_stop hdrained.stands]
  exact hdrained

/-- Whatever comes to a host in whatever order, over a knowledge base that keeps statistics: if the
shutdown of the pool leaves no task behind and the direct calls have come to their ends, then
stopping the host leaves one record for each scan and for each successful build that is to be
recorded, and each cause was last seen at the latest of the times that count. -/
theorem accounts_of_run {settings : ScannerSettings} {kb : KnowledgeBase} {sizes : RescanSettings}
    {steps : List ServiceStep} {a : Analyzer} (hkb : kb.Reached)
    (hstatistics : kb.keepsStatistics = true)
    (hrun : (opened (.start settings kb master) sizes).run steps = some v)
    (htimes : ∀ r ∈ v.handed master kb.keepsSuccessful, kb.backing.Writes r.startTime)
    (hstop : ∃ report ∈ v.ledger.reports, report.stragglers = 0)
    (hcalls : ∀ c ∈ v.calls, c.task = none → c.stage.isEnded = true)
    (ha : a.triage = v.rest) :
    v.Accounts master kb.keepsSuccessful kb a.stop.2.triage.kb := by
  obtain ⟨cat, saved, hbefore⟩ := hkb.hasArchives
  rw [hstatistics] at hbefore
  have hbooks : v.Books kb.backing.Writes kb.keepsSuccessful cat saved master :=
    (books_opened hbefore sizes).run htimes hrun
  have hperm : v.inOrder.Perm (v.handed master kb.keepsSuccessful) := hbooks.handed_perm
  have hafter : a.stop.2.triage.kb.backing.Archives kb.backing.Writes true kb.keepsSuccessful
      (saved ++ v.inOrder) (cat.recorded v.inOrder) := by
    have hstopped : a.stop.2.triage.kb = a.triage.closeRecords.kb.stop := rfl
    rw [hstopped, ha]
    exact hbooks.archives_stop htimes
  obtain ⟨htasks, hjobs⟩ := ((Staffed.opened _ sizes).run hrun).settled hstop
  refine ⟨fun c hc => ?_, hjobs, ?_, fun id => ?_, fun order horder id => ?_⟩
  · have hended : c.stage.isEnded = true := by
      by_cases htask : c.task = none
      · exact hcalls c hc htask
      · exact htasks c hc htask
    obtain ⟨verdict, hverdict⟩ := Stage.exists_of_isEnded hended
    obtain ⟨hinfo, hattached⟩ := hbooks.sound c hc
    rw [hverdict] at hinfo hattached
    exact ⟨verdict, hverdict, hinfo, hattached⟩
  · refine ⟨_, _, KnowledgeBase.outcome_statistics hbefore,
      KnowledgeBase.outcome_statistics hafter, ?_⟩
    have hfound := KnowledgeBase.selected_perm (saved ++ v.inOrder)
    have hearlier := (KnowledgeBase.selected_perm saved).symm
    exact hfound.trans (hearlier.append hperm)
  · refine ⟨cat.get id, KnowledgeBase.outcome_getCause hbefore.stands id, ?_⟩
    rw [KnowledgeBase.outcome_getCause hafter.stands, Catalog.recorded_perm hperm,
      Catalog.get_recorded]
  · have hwritten := KnowledgeBase.archives_writes hbefore
      fun r hr => htimes r (horder.mem_iff.mp hr)
    rw [KnowledgeBase.outcome_getCause hwritten.stands,
      KnowledgeBase.outcome_getCause hafter.stands,
      Catalog.recorded_perm (horder.trans hperm.symm)]

/-- Tables with one cause, which was last seen at 50. -/
def sampleBase : KnowledgeBase :=
  (outcome (KnowledgeBase.perform (.add "c" ⟨"", "Full", "", "", [],
    (Indication.ofPattern "x" .singleLine).toOption.toList, some 50, [], none⟩))
    (.ofTable .empty true true)).2

/-- A failed build with the cause in its log, and a successful one. -/
def sampleBuilds : BuildStore :=
  ⟨[⟨{ BuildInfo.bare ⟨"p", 1⟩ .failure with startTime := 70 }, ["x"], none⟩,
    ⟨.bare ⟨"p", 2⟩ .success, [], none⟩]⟩

/-- Both builds complete, and the first is rescanned while the pool closes. One record is being
written in the end, and one waits. -/
def sampleWork : List ServiceStep :=
  [.replace sampleBuilds, .complete ⟨"p", 1⟩, .complete ⟨"p", 2⟩, .act 0, .act 1, .act 1,
    .act 0, .pool (.submit ⟨"p", 1⟩), .pool (.move 0 .begin), .save, .begin 0 ⟨"p", 1⟩, .act 0,
    .act 2, .see, .act 0, .act 0, .pool .close, .act 0, .act 2, .act 2, .act 2, .act 2, .act 2,
    .act 2, .save, .pool (.move 0 .finish), .pool (.giveUp 0)]

/-- The services of a host that has come so far. -/
def sampleServices (v : Service) : Analyzer := ⟨{}, v.rest, .ofSettings {}, [], .start {}⟩

/-- The accounts of the sample are right. -/
theorem accounts_of_sampleWork :
    sampleBase.Reached ∧ sampleBase.keepsStatistics = true ∧
    ∃ v, (opened (.start {} sampleBase "ci") {}).run sampleWork = some v ∧
      (v.handed "ci" sampleBase.keepsSuccessful).map (·.causeIds) = [["c"], [], ["c"]] ∧
      v.Accounts "ci" sampleBase.keepsSuccessful sampleBase
        (sampleServices v).stop.2.triage.kb := by
  have hreached : sampleBase.Reached := .perform (.table true true) _ nofun
  have hstatistics : sampleBase.keepsStatistics = true := by decide +kernel
  have hfar : ((opened (.start {} sampleBase "ci") {}).run sampleWork).isSome = true := by
    decide +kernel
  have hfacts : ∀ v ∈ (opened (.start {} sampleBase "ci") {}).run sampleWork,
      (v.handed "ci" sampleBase.keepsSuccessful).map (·.causeIds) = [["c"], [], ["c"]] ∧
      (∀ r ∈ v.handed "ci" sampleBase.keepsSuccessful, sampleBase.backing.Writes r.startTime) ∧
      (∃ report ∈ v.ledger.reports, report.stragglers = 0) ∧
      ∀ c ∈ v.calls, c.task = none → c.stage.isEnded = true := by
    decide +kernel
  obtain ⟨v, hrun⟩ := Option.isSome_iff_exists.mp hfar
  obtain ⟨hhanded, htimes, hstop, hcalls⟩ := hfacts v hrun
  exact ⟨hreached, hstatistics, v, hrun, hhanded,
    accounts_of_run hreached hstatistics hrun htimes hstop hcalls rfl⟩

end Service

end BuildTriage
