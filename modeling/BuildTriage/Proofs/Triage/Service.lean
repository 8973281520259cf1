import BuildTriage.Analyzer
import BuildTriage.Proofs.Pool.Quiet
import BuildTriage.Proofs.Triage.Calls

/-!
# A host at work

Calls come to a host at any time, and each may take its next step at any time. A call looks
into a completed build or rescans one; a rescan that was asked for is carried out by a worker
of the pool, who is at work on it until the call has come to its end. The records are written
beside all this, each in two steps. Whatever comes in whatever order, a record that a call has
handed over waits, is being written or has been written, once. The locks of the builds only
rule out some of these orders.
-/

namespace BuildTriage

/-- A call for a build. -/
structure Call where
  /-- The number of the task that it carries out, if it is one of the pool. -/
  task : Option Nat
  /-- The build. -/
  build : BuildRef
  /-- How far it has come. -/
  stage : Stage
  /-- What it has attached, and to which builds. -/
  attached : List (BuildRef × List FoundCause)
  deriving DecidableEq

namespace Call

/-- The task that the call carries out. -/
def job? (c : Call) : Option (Nat × BuildRef) := c.task.map fun n => (n, c.build)

/-- The record that the call has handed over. -/
def record? (master : String) (successful : Bool) (c : Call) : Option Statistics :=
  c.stage.record? master successful

/-- The call after its next step, and the host then. -/
def advance (withdrawn : Bool) (c : Call) (t : Triage) : Call × Triage :=
  match c.stage.next c.build withdrawn t with
  | .ok s t => ({ c with stage := s, attached := c.attached ++ c.stage.gift?.toList }, t)
  | .error e t => ({ c with stage := .ended (.unknown e) }, t)

/-- What the call knows is about its build, and what it has attached it has attached to that. -/
structure Sound (c : Call) : Prop where
  /-- What is known is known of its build. -/
  info : ∀ info ∈ c.stage.info?, info.build = c.build
  /-- What it has attached is attached to its build, once. -/
  attached : c.attached = c.stage.given?.toList.map fun found => (c.build, found)

/-- A call that begins is sound. -/
theorem sound_begun (task : Option Nat) (build : BuildRef) {stage : Stage}
    (hinfo : stage.info? = none) (hgiven : stage.given? = none) :
    Sound ⟨task, build, stage, []⟩ where
  info := by rw [hinfo]; exact nofun
  attached := by rw [hgiven]; rfl

/-- What a step does to a call and to a host on which statistics are kept. -/
structure Moves (successful : Bool) (c : Call) (t : Triage) (c' : Call) (t' : Triage) : Prop where
  /-- The call is for the same task. -/
  task : c'.task = c.task
  /-- It is for the same build. -/
  build : c'.build = c.build
  /-- A call that has come to its end stays there. -/
  ended : c.stage.isEnded = true → c'.stage = c.stage
  /-- It stays sound. -/
  sound : c.Sound → c'.Sound
  /-- The causes and the records are where they were. -/
  backing : t'.kb.backing = t.kb.backing
  /-- The record that is handed over in the step waits behind the others. -/
  recorder : ∃ handed : Option Statistics,
    t'.recorder = { t.recorder with waiting := t.recorder.waiting ++ handed.toList } ∧
    (c'.record? t.recorder.master successful).toList =
      (c.record? t.recorder.master successful).toList ++ handed.toList

variable {withdrawn successful : Bool} {t : Triage} {cat : Catalog} {saved : List Statistics}
  {writes : UInt64 → Prop}

/-- What has come to its end stays as it is. -/
theorem stage_advance_of_ended {c : Call} (h : c.stage.isEnded = true) (t : Triage) :
    (c.advance withdrawn t).1.stage = c.stage := by
  obtain ⟨verdict, hverdict⟩ := Stage.exists_of_isEnded h
  rw [advance, hverdict]
  rfl

/-- A record that has been handed over stays so. -/
theorem record_advance {c : Call} {master : String} {r : Statistics}
    (h : c.record? master successful = some r) (t : Triage) :
    (c.advance withdrawn t).1.record? master successful = some r := by
  have hended : c.stage.isEnded = true := by
    by_contra hopen
    have hnone := Stage.record_of_open (Bool.not_eq_true _ ▸ hopen) master successful
    rw [record?, hnone] at h
    exact absurd h nofun
  rw [record?, stage_advance_of_ended hended t]
  exact h

/-- What was attached to the build of a call was attached by a sound one. -/
theorem build_of_gift {c : Call} (h : c.Sound) {gift : BuildRef × List FoundCause}
    (hgift : c.stage.gift? = some gift) : gift.1 = c.build := by
  obtain ⟨task, build, stage, attached⟩ := c
  cases stage with
  | attaching info found =>
    rw [← Option.some.inj hgift]
    exact h.info info rfl
  | called | informed | requested | forgetting | forgot | listing | matching | logging | ended =>
    exact absurd hgift nofun

/-- Every step is one of those. -/
theorem moves_advance (h : t.kb.backing.Archives writes true successful saved cat)
    (haccepting : t.recorder.accepting = true) (c : Call) :
    c.Moves successful t (c.advance withdrawn t).1 (c.advance withdrawn t).2 := by
  have hended : c.stage.isEnded = true → (c.advance withdrawn t).1.stage = c.stage :=
    fun hc => stage_advance_of_ended hc t
  obtain ⟨s', t', hrun, hsteps⟩ | ⟨e, hrun, hgiven, hopen⟩ :
      (∃ s' t', c.stage.next c.build withdrawn t = .ok s' t' ∧
        Stage.Steps c.build successful c.stage t s' t') ∨
      ∃ e, c.stage.next c.build withdrawn t = .error e t ∧ c.stage.given? = none ∧
        c.stage.isEnded = false := Stage.next_cases h haccepting c.stage
  · have hadvance : c.advance withdrawn t =
        ({ c with stage := s', attached := c.attached ++ c.stage.gift?.toList }, t') := by
      rw [advance, hrun]
    rw [hadvance] at hended ⊢
    refine ⟨rfl, rfl, hended, fun hsound => ⟨fun info hinfo => ?_, ?_⟩, hsteps.backing,
      hsteps.recorder⟩
    · exact (hsteps.info info hinfo).elim (hsound.info info) id
    · rw [hsteps.given, List.map_append, ← hsound.attached]
      cases hgift : c.stage.gift? with
      | none => rfl
      | some gift =>
        have hbuild := build_of_gift hsound hgift
        rw [← hbuild]
        rfl
  · have hadvance : c.advance withdrawn t = ({ c with stage := .ended (.unknown e) }, t) := by
      rw [advance, hrun]
    rw [hadvance] at hended ⊢
    refine ⟨rfl, rfl, hended, fun hsound => ⟨nofun, ?_⟩, rfl, none, ?_, ?_⟩
    · rw [hsound.attached, hgiven]
      rfl
    · rw [Option.toList_none, List.append_nil]
    · rw [record?, record?, Stage.record_of_open hopen]
      rfl

end Call

/-- A host with the calls that have come, and those who write its records. -/
structure Service where
  /-- The host. -/
  host : Triage
  /-- The record that is being written: it has been saved, and its causes are to be moved. -/
  hand : Option Statistics
  /-- The records that have been written, in order. -/
  written : List Statistics
  /-- The pool of those who rescan. -/
  ledger : Ledger BuildRef
  /-- The calls that have come. -/
  calls : List Call

/-- What can happen to a host. -/
inductive ServiceStep where
  /-- The builds become others: one has been entered, or changed by a conversion. -/
  | replace (builds : BuildStore)
  /-- The cache before the knowledge base becomes another: its updater has made a move. -/
  | refresh (cache : Option CauseCache)
  /-- A build has completed, and a call for it comes. -/
  | complete (build : BuildRef)
  /-- A call to rescan a build comes that does not go through the pool. -/
  | rescan (build : BuildRef)
  /-- A worker who is at work on a task begins its call. -/
  | begin (task : Nat) (build : BuildRef)
  /-- The call at a place takes its next step. -/
  | act (call : Nat)
  /-- Something happens to the pool. -/
  | pool (e : PoolEvent BuildRef)
  /-- The oldest record that waits is saved. -/
  | save
  /-- The causes are moved that the record names. -/
  | see

namespace Service

/-- A host to which nobody has come yet, with a pool of some sizes. -/
def opened (t : Triage) (s : RescanSettings) : Service := ⟨t, none, [], .opened s, []⟩

/-- The records that the calls have handed over. -/
def handed (v : Service) (master : String) (successful : Bool) : List Statistics :=
  v.calls.filterMap (·.record? master successful)

/-- The rescan of a task has been carried out. -/
def hasDone (v : Service) (t : Nat × BuildRef) : Bool :=
  v.calls.any (·.job? == some t) &&
    v.calls.all fun c => c.job? != some t || c.stage.isEnded

/-- What a step does, if it can be taken. -/
def step (v : Service) : ServiceStep → Option Service
  | .replace builds => some { v with host := { v.host with builds := builds } }
  | .refresh cache => some { v with
      host := { v.host with kb := { v.host.kb with cache := cache } } }
  | .complete build => some { v with calls := v.calls ++ [⟨none, build, .called, []⟩] }
  | .rescan build => some { v with calls := v.calls ++ [⟨none, build, .forgetting, []⟩] }
  | .begin task build =>
    if (task, build) ∈ v.ledger.pool.running ∧ ∀ c ∈ v.calls, c.job? ≠ some (task, build) then
      some { v with calls := v.calls ++ [⟨some task, build, .requested, []⟩] }
    else none
  | .act i => v.calls[i]?.map fun c => { v with
      host := (c.advance v.ledger.pool.cancelled v.host).2
      calls := v.calls.set i (c.advance v.ledger.pool.cancelled v.host).1 }
  | .pool e =>
    if (v.ledger.ending? e).all v.hasDone then
      (v.ledger.step e).map fun ledger => { v with ledger := ledger }
    else none
  | .save => match v.hand, v.host.recorder.waiting with
    | none, r :: rest => some { v with
        host := { v.host with
          kb := stateAfter (KnowledgeBase.saveStatistics r) v.host.kb
          recorder := { v.host.recorder with waiting := rest } }
        hand := some r }
    | _, _ => none
  | .see => v.hand.map fun r => { v with
      host := { v.host with kb := v.host.kb.see r }
      hand := none
      written := v.written ++ [r] }

/-- What some steps do, one after the other, if they can be taken. -/
def run : Service → List ServiceStep → Option Service
  | v, [] => some v
  | v, e :: rest => do (← v.step e).run rest

/-- The host once the record is written that is being written. -/
def rest (v : Service) : Triage :=
  match v.hand with
  | some r => { v.host with kb := v.host.kb.see r }
  | none => v.host

variable {v next : Service} {e : ServiceStep} {master : String} {successful : Bool}

/-- A step of a call. -/
theorem exists_of_act {i : Nat} (h : v.step (.act i) = some next) :
    ∃ front c back, v.calls = front ++ c :: back ∧ next = { v with
      host := (c.advance v.ledger.pool.cancelled v.host).2
      calls := front ++ (c.advance v.ledger.pool.cancelled v.host).1 :: back } := by
  obtain ⟨c, hc, rfl⟩ := Option.map_eq_some_iff.mp h
  obtain ⟨hi, hget⟩ := List.getElem?_eq_some_iff.mp hc
  obtain ⟨front, back, hsplit, -, hset⟩ : ∃ front back, v.calls = front ++ v.calls[i] :: back ∧
      front.length = i ∧ v.calls.set i (c.advance v.ledger.pool.cancelled v.host).1 =
        front ++ (c.advance v.ledger.pool.cancelled v.host).1 :: back := List.exists_of_set hi
  rw [hget] at hsplit
  exact ⟨front, c, back, hsplit, by rw [hset]⟩

/-- Something that happens to the pool. -/
theorem exists_of_pool {e : PoolEvent BuildRef} (h : v.step (.pool e) = some next) :
    ∃ ledger, v.ledger.step e = some ledger ∧ next = { v with ledger := ledger } ∧
      ∀ t, v.ledger.ending? e = some t → v.hasDone t = true := by
  simp only [step] at h
  split at h
  · next hdone =>
    obtain ⟨ledger, hledger, rfl⟩ := Option.map_eq_some_iff.mp h
    exact ⟨ledger, hledger, rfl, fun t ht => by simpa [ht] using hdone⟩
  · exact absurd h nofun

/-- A worker begins the call of a task that he is at work on. -/
theorem exists_of_begin {task : Nat} {build : BuildRef}
    (h : v.step (.begin task build) = some next) :
    (task, build) ∈ v.ledger.pool.running ∧ (∀ c ∈ v.calls, c.job? ≠ some (task, build)) ∧
      next = { v with calls := v.calls ++ [⟨some task, build, .requested, []⟩] } := by
  simp only [step] at h
  split at h
  · next hfree => exact ⟨hfree.1, hfree.2, (Option.some.inj h).symm⟩
  · exact absurd h nofun

/-- The oldest record is saved. -/
theorem exists_of_save (h : v.step .save = some next) :
    v.hand = none ∧ ∃ r later, v.host.recorder.waiting = r :: later ∧ next = { v with
      host := { v.host with
        kb := stateAfter (KnowledgeBase.saveStatistics r) v.host.kb
        recorder := { v.host.recorder with waiting := later } }
      hand := some r } := by
  simp only [step] at h
  split at h
  · next r later hhand hwaiting =>
    exact ⟨hhand, r, later, hwaiting, (Option.some.inj h).symm⟩
  · exact absurd h nofun

/-- What has been handed over stays so. -/
theorem handed_subset (h : v.step e = some next) {r : Statistics}
    (hr : r ∈ v.handed master successful) : r ∈ next.handed master successful := by
  have hextend : ∀ c : Call, r ∈ (v.calls ++ [c]).filterMap fun c =>
      c.record? master successful := by
    intro c
    rw [List.filterMap_append]
    exact List.mem_append_left _ hr
  cases e with
  | replace builds =>
    rw [← Option.some.inj h]
    exact hr
  | refresh cache =>
    rw [← Option.some.inj h]
    exact hr
  | complete build =>
    rw [← Option.some.inj h]
    exact hextend _
  | rescan build =>
    rw [← Option.some.inj h]
    exact hextend _
  | begin task build =>
    obtain ⟨-, -, rfl⟩ := exists_of_begin h
    exact hextend _
  | act i =>
    obtain ⟨front, c, back, hsplit, rfl⟩ := exists_of_act h
    unfold handed at hr ⊢
    rw [hsplit] at hr
    simp only [List.mem_filterMap, List.mem_append, List.mem_cons, or_and_right, exists_or,
      exists_eq_left] at hr ⊢
    exact hr.imp_right (Or.imp_left fun hrecord => Call.record_advance hrecord v.host)
  | pool e =>
    obtain ⟨ledger, -, rfl, -⟩ := exists_of_pool h
    exact hr
  | save =>
    obtain ⟨-, r', later, -, rfl⟩ := exists_of_save h
    exact hr
  | see =>
    obtain ⟨r', -, rfl⟩ := Option.map_eq_some_iff.mp h
    exact hr

/-- What has been handed over stays so through any steps. -/
theorem handed_of_run {steps : List ServiceStep} (h : v.run steps = some next) {r : Statistics}
    (hr : r ∈ v.handed master successful) : r ∈ next.handed master successful := by
  induction steps generalizing v with
  | nil =>
    rw [← Option.some.inj h]
    exact hr
  | cons e rest ih =>
    obtain ⟨mid, hstep, hrest⟩ := Option.bind_eq_some_iff.mp h
    exact ih hrest (handed_subset hstep hr)

/-- The records that the calls have handed over wait, are being written or have been written,
each once; and those that have been written are kept, in the order in which they were taken. -/
structure Books (writes : UInt64 → Prop) (successful : Bool) (cat : Catalog)
    (saved : List Statistics) (master : String) (v : Service) : Prop where
  /-- Records are taken. -/
  accepting : v.host.recorder.accepting = true
  /-- The recorder names the same controller for a build that names none. -/
  master_eq : v.host.recorder.master = master
  /-- The records that have been saved are kept beside the earlier ones, and those that have
  been written have moved their causes. -/
  archives : v.host.kb.backing.Archives writes true successful
    (saved ++ (v.written ++ v.hand.toList)) (cat.recorded v.written)
  /-- No record is lost, and none is written twice. -/
  handed_perm : (v.written ++ v.hand.toList ++ v.host.recorder.waiting).Perm
    (v.handed master successful)
  /-- The calls are sound. -/
  sound : ∀ c ∈ v.calls, c.Sound

variable {writes : UInt64 → Prop} {cat : Catalog} {saved : List Statistics}

/-- A call that comes has handed over nothing yet. -/
theorem Books.join (h : v.Books writes successful cat saved master) {c : Call} (hc : c.Sound)
    (hrecord : c.record? master successful = none) :
    Books writes successful cat saved master { v with calls := v.calls ++ [c] } where
  accepting := h.accepting
  master_eq := h.master_eq
  archives := h.archives
  handed_perm := by
    have hsame : (v.calls ++ [c]).filterMap (fun c => c.record? master successful) =
        v.calls.filterMap fun c => c.record? master successful := by
      rw [List.filterMap_append, List.filterMap_cons_none hrecord, List.filterMap_nil,
        List.append_nil]
    unfold handed
    rw [hsame]
    exact h.handed_perm
  sound := List.forall_mem_append.mpr ⟨h.sound, by simpa using hc⟩

/-- A step of a call hands over at most one record, which waits behind the others. -/
theorem Books.act (h : v.Books writes successful cat saved master) {i : Nat}
    (hs : v.step (.act i) = some next) : next.Books writes successful cat saved master := by
  obtain ⟨front, c, back, hsplit, rfl⟩ := exists_of_act hs
  have hmoves : c.Moves successful v.host (c.advance v.ledger.pool.cancelled v.host).1
      (c.advance v.ledger.pool.cancelled v.host).2 := Call.moves_advance h.archives h.accepting c
  generalize c.advance v.ledger.pool.cancelled v.host = advanced at hmoves
  obtain ⟨c', host⟩ := advanced
  obtain ⟨handed, hrecorder, hrecord⟩ := hmoves.recorder
  rw [h.master_eq] at hrecord
  have hsound := h.sound
  rw [hsplit] at hsound
  refine ⟨?_, ?_, ?_, ?_, ?_⟩
  · rw [hrecorder]
    exact h.accepting
  · rw [hrecorder]
    exact h.master_eq
  · rw [hmoves.backing]
    exact h.archives
  · have hperm := h.handed_perm
    have hone : ∀ c : Call, (front ++ c :: back).filterMap (fun c => c.record? master successful) =
        front.filterMap (fun c => c.record? master successful) ++
          ((c.record? master successful).toList ++
            back.filterMap fun c => c.record? master successful) := by
      intro c
      rw [List.filterMap_append, List.filterMap_cons]
      cases c.record? master successful <;> rfl
    unfold Service.handed at hperm ⊢
    rw [hsplit, hone] at hperm
    rw [hone, hrecord, hrecorder]
    classical
    rw [List.perm_iff_count] at hperm ⊢
    intro r
    have hr := hperm r
    simp only [List.count_append] at hr ⊢
    omega
  · simp only [List.forall_mem_append, List.forall_mem_cons] at hsound ⊢
    exact ⟨hsound.1, hmoves.sound hsound.2.1, hsound.2.2⟩

/-- A record that is saved no longer waits. -/
theorem Books.save (h : v.Books writes successful cat saved master)
    (hw : ∀ r ∈ v.handed master successful, writes r.startTime)
    (hs : v.step .save = some next) : next.Books writes successful cat saved master := by
  obtain ⟨hhand, r, later, hwaiting, rfl⟩ := exists_of_save hs
  have hperm := h.handed_perm
  have harchives := h.archives
  rw [hhand, Option.toList_none, List.append_nil] at hperm harchives
  rw [hwaiting] at hperm
  have hr : writes r.startTime :=
    hw r (hperm.mem_iff.mp (List.mem_append_right _ List.mem_cons_self))
  refine ⟨h.accepting, h.master_eq, ?_, ?_, h.sound⟩
  · rw [Option.toList_some, ← List.append_assoc]
    exact KnowledgeBase.archives_saveStatistics harchives hr
  · rw [Option.toList_some, List.append_assoc]
    exact hperm

/-- A record whose causes have been moved has been written. -/
theorem Books.see (h : v.Books writes successful cat saved master)
    (hw : ∀ r ∈ v.handed master successful, writes r.startTime)
    (hs : v.step .see = some next) : next.Books writes successful cat saved master := by
  obtain ⟨r, hhand, rfl⟩ := Option.map_eq_some_iff.mp hs
  have hperm := h.handed_perm
  have harchives := h.archives
  rw [hhand, Option.toList_some] at hperm harchives
  have hr : writes r.startTime := hw r (hperm.mem_iff.mp (by simp))
  refine ⟨h.accepting, h.master_eq, ?_, ?_, h.sound⟩
  · rw [Option.toList_none, List.append_nil, Catalog.recorded_append]
    exact KnowledgeBase.archives_see harchives hr
  · rw [Option.toList_none, List.append_nil]
    exact hperm

/-- Every step keeps the books. -/
theorem Books.step (h : v.Books writes successful cat saved master)
    (hw : ∀ r ∈ next.handed master successful, writes r.startTime)
    (hs : v.step e = some next) : next.Books writes successful cat saved master := by
  have hbefore : ∀ r ∈ v.handed master successful, writes r.startTime :=
    fun r hr => hw r (handed_subset hs hr)
  cases e with
  | replace builds =>
    rw [← Option.some.inj hs]
    exact ⟨h.accepting, h.master_eq, h.archives, h.handed_perm, h.sound⟩
  | refresh cache =>
    rw [← Option.some.inj hs]
    exact ⟨h.accepting, h.master_eq, h.archives, h.handed_perm, h.sound⟩
  | complete build =>
    rw [← Option.some.inj hs]
    exact h.join (Call.sound_begun none build rfl rfl) rfl
  | rescan build =>
    rw [← Option.some.inj hs]
    exact h.join (Call.sound_begun none build rfl rfl) rfl
  | begin task build =>
    obtain ⟨-, -, rfl⟩ := exists_of_begin hs
    exact h.join (Call.sound_begun (some task) build rfl rfl) rfl
  | act i => exact h.act hs
  | pool e =>
    obtain ⟨ledger, -, rfl, -⟩ := exists_of_pool hs
    exact ⟨h.accepting, h.master_eq, h.archives, h.handed_perm, h.sound⟩
  | save => exact h.save hbefore hs
  | see => exact h.see hbefore hs

/-- Any steps keep the books. -/
theorem Books.run (h : v.Books writes successful cat saved master) {steps : List ServiceStep}
    (hw : ∀ r ∈ next.handed master successful, writes r.startTime)
    (hrun : v.run steps = some next) : next.Books writes successful cat saved master := by
  induction steps generalizing v with
  | nil =>
    rw [← Option.some.inj hrun]
    exact h
  | cons e rest ih =>
    obtain ⟨mid, hstep, hrest⟩ := Option.bind_eq_some_iff.mp hrun
    exact ih (h.step (fun r hr => hw r (handed_of_run hrest hr)) hstep) hrest

end Service

end BuildTriage
