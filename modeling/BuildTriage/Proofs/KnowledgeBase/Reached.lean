import BuildTriage.Proofs.KnowledgeBase.Documents
import BuildTriage.Proofs.KnowledgeBase.Recording

/-!
# Knowledge bases over documents that can be reached

A knowledge base over tables or over a key-value store begins without causes and records. It is
asked and changed, records are written, a cache is put before it and runs, and it is opened
again, perhaps under other settings. Whatever is done, it has the causes of a catalog and some
records, as long as tables are only given times that they can write.
-/

namespace BuildTriage

variable {α σ : Type} {cat other : Catalog} {saved : List Statistics} {writes : UInt64 → Prop}
  {enabled successful : Bool} {out : Except KnowledgeBaseError α}

namespace DocumentBase

variable {stands : σ → Catalog → Prop} {kept : List Statistics → σ → Prop}
  {b : DocumentBase σ}

/-- The causes and the records are in the store. -/
theorem rests_archives : Rests (fun s cat => stands s cat ∧ kept saved s)
    (Archives stands kept enabled successful saved) where
  store hs := ⟨hs.stands, hs.kept⟩
  onStore hs hop := hs.onStore hop

variable [DocumentStore σ]

/-- A knowledge base that has records beside the causes follows the catalog. -/
theorem Archives.follows (hfiles : Files σ stands kept writes) :
    Follows (DocumentBase σ) (Archives stands kept enabled successful saved) :=
  DocumentBase.follows (hfiles.keeps.aside (hfiles.aside saved)) rests_archives

/-- A cause under an id in use is not added. -/
theorem Archives.add_refused (hfiles : Files σ stands kept writes)
    (h : Archives stands kept enabled successful saved b cat) {fresh : String}
    {cause : FailureCause} (hid : (Catalog.entry fresh cause).id ∈ cat.ids) :
    ∃ e, add fresh cause b = .error e b := by
  by_cases hn : Text.allBlank cause.name = true
  · exact ⟨_, bind_error (checked_error hn b)⟩
  · obtain ⟨e, he⟩ := hfiles.refused _ h.stands hid
    exact ⟨e, add_of_refused hn he⟩

end DocumentBase

namespace Backing

variable {b : Backing}

/-- The times that a place can write: in tables they are below 2^63. -/
def Writes : Backing → UInt64 → Prop
  | .table _, time => time.toNat < 2 ^ 63
  | .file _, _ | .hash _, _ => True

instance : (b : Backing) → (time : UInt64) → Decidable (b.Writes time)
  | .table _, time => inferInstanceAs (Decidable (time.toNat < 2 ^ 63))
  | .file _, _ | .hash _, _ => inferInstanceAs (Decidable True)

/-- What a place has it has with all times that it can write. -/
theorem Archives.own (h : b.Archives writes enabled successful saved cat) :
    b.Archives b.Writes enabled successful saved cat := by
  cases b with
  | file b => exact h.elim
  | table b => exact ⟨fun _ ht => ht, h.2⟩
  | hash b => exact h

/-- What every store that follows a catalog gives, a place gives that has records too. -/
theorem Archives.gives_run {op : (σ : Type) → [CauseStore σ] → Op σ α}
    (hop : ∀ (σ : Type) [CauseStore σ] (stands : σ → Catalog → Prop), Follows σ stands →
      ∀ s, stands s cat → Gives stands (op σ) s out other)
    (h : b.Archives writes enabled successful saved cat) :
    Gives (Backing.Archives writes enabled successful saved) (run op) b out other :=
  h.gives fun _ _ _ _ hfiles b hs => hop _ _ (DocumentBase.Archives.follows hfiles) b hs

/-- A cause under an id in use is not added, and not saved as a new one. -/
theorem Archives.add_refused (h : b.Archives writes enabled successful saved cat)
    {fresh : String} {cause : FailureCause} (hid : (Catalog.entry fresh cause).id ∈ cat.ids) :
    (∃ e, run (fun _ => CauseStore.add fresh cause) b = .error e b) ∧
    (cause.id = "" → ∃ e, run (fun _ => CauseStore.save fresh cause) b = .error e b) := by
  cases b with
  | file b => exact h.elim
  | table b =>
    obtain ⟨e, he⟩ := h.2.add_refused (CauseTable.files h.1) hid
    refine ⟨⟨e, ?_⟩, fun hnew => ⟨e, ?_⟩⟩
    · exact congrArg (wrap Backing.table) he
    · have hsave := congrFun (DocumentBase.save_of_isNew hnew fresh) b
      exact congrArg (wrap Backing.table) (hsave.trans he)
  | hash b =>
    obtain ⟨e, he⟩ := DocumentBase.Archives.add_refused (CauseHash.files writes) h hid
    refine ⟨⟨e, ?_⟩, fun hnew => ⟨e, ?_⟩⟩
    · exact congrArg (wrap Backing.hash) he
    · have hsave := congrFun (DocumentBase.save_of_isNew hnew fresh) b
      exact congrArg (wrap Backing.hash) (hsave.trans he)

end Backing

namespace KnowledgeBase

variable {k : KnowledgeBase}

/-- There are a catalog and some records that the knowledge base has. -/
def HasArchives (k : KnowledgeBase) : Prop :=
  ∃ cat saved, k.backing.Archives k.backing.Writes k.keepsStatistics k.keepsSuccessful saved cat

/-- What the place has, with whatever settings, the knowledge base has. -/
theorem hasArchives (h : k.backing.Archives writes enabled successful saved cat) :
    k.HasArchives := by
  have hstatistics : k.keepsStatistics = enabled := h.keepsStatistics
  have hsuccessful : k.keepsSuccessful = successful := h.keepsSuccessful
  exact ⟨cat, saved, by rw [hstatistics, hsuccessful]; exact h.own⟩

/-- What is done without touching the place leaves it what it has. -/
theorem HasArchives.of_backing {next : KnowledgeBase} (h : k.HasArchives)
    (hsame : next.backing = k.backing) : next.HasArchives := by
  obtain ⟨cat, saved, h⟩ := h
  exact hasArchives (hsame ▸ h)

/-- A change that every store makes as a catalog does. -/
theorem archives_change {op : (σ : Type) → [CauseStore σ] → Op σ α}
    (hop : ∀ (σ : Type) [CauseStore σ] (stands : σ → Catalog → Prop), Follows σ stands →
      ∀ s, stands s cat → Gives stands (op σ) s out other)
    (h : k.backing.Archives writes enabled successful saved cat) :
    (outcome (change op) k).2.backing.Archives writes enabled successful saved other := by
  have hgives := h.gives_run hop
  cases out with
  | ok a =>
    obtain ⟨b, hrun, hb⟩ := hgives
    obtain ⟨next, hchange, hnext⟩ := change_ok hrun hb.stands
    rw [outcome, hchange]
    exact hnext ▸ hb
  | error e =>
    obtain ⟨b, hrun, hb⟩ := hgives
    rw [outcome, change_error hrun]
    exact hb

/-- A change that is refused leaves everything as it is. -/
theorem outcome_change_refused {op : (σ : Type) → [CauseStore σ] → Op σ α}
    (h : ∃ e, Backing.run op k.backing = .error e k.backing) :
    (outcome (change op) k).2 = k := by
  obtain ⟨e, hrun⟩ := h
  rw [outcome, change_error hrun]

/-- What only reads leaves the place what it has. -/
theorem HasArchives.of_read (h : k.HasArchives) {op : Op KnowledgeBase α}
    (hop : ∃ a next, op k = .ok a next ∧ next.backing = k.backing) :
    (outcome op k).2.HasArchives := by
  obtain ⟨a, next, hrun, hsame⟩ := hop
  rw [outcome, hrun]
  exact h.of_backing hsame

/-- Whatever is asked for or changed, the knowledge base has a catalog and records then. -/
theorem HasArchives.perform (h : k.HasArchives) (request : Request)
    (ht : ∀ ids time, request = .lastSeen ids time → k.backing.Writes time) :
    (outcome (KnowledgeBase.perform request) k).2.HasArchives := by
  have hk := h
  obtain ⟨cat, saved, h⟩ := h
  have hcauses : ∀ {β : Type} (f : List FailureCause → β), ∃ b next,
      (causes >>= fun found => pure (f found) : Op KnowledgeBase β) k = .ok b next ∧
        next.backing = k.backing := fun f => by
    obtain ⟨found, next, hrun, hsame⟩ := exists_causes h.stands
    exact ⟨f found, next, bind_ok hrun, hsame⟩
  cases request with
  | add fresh cause =>
    rw [KnowledgeBase.perform, outcome_map]
    by_cases hid : (Catalog.entry fresh cause).id ∈ cat.ids
    · rw [add, outcome_change_refused (h.add_refused hid).1]
      exact hasArchives h
    · exact hasArchives (archives_change (fun _ _ _ hf _ hs => hf.add fresh cause hs hid) h)
  | save fresh cause =>
    rw [KnowledgeBase.perform, outcome_map]
    by_cases hid : cause.id = "" ∧ fresh ∈ cat.ids
    · have hentry : (Catalog.entry fresh cause).id ∈ cat.ids := by
        rw [Catalog.entry, if_pos hid.1]
        exact hid.2
      rw [save, outcome_change_refused ((h.add_refused hentry).2 hid.1)]
      exact hasArchives h
    · exact hasArchives (archives_change
        (fun _ _ _ hf _ hs => hf.save fresh cause hs (not_and.mp hid)) h)
  | remove id stone =>
    rw [KnowledgeBase.perform, outcome_map]
    exact hasArchives (archives_change (fun _ _ _ hf _ hs => hf.remove id stone hs) h)
  | lastSeen ids time =>
    rw [KnowledgeBase.perform, outcome_map]
    have hgives : Gives (Backing.Archives k.backing.Writes k.keepsStatistics k.keepsSuccessful
        saved) (Backing.run fun _ => CauseStore.lastSeen ids time) k.backing (.ok ())
        (cat.lastSeen ids time) :=
      h.gives fun _ _ _ _ hfiles _ hs => hs.lastSeen hfiles ids (ht ids time rfl)
    obtain ⟨b, hrun, hb⟩ := hgives
    obtain ⟨next, hchange, hnext⟩ := change_ok hrun hb.stands
    rw [lastSeen, outcome, hchange]
    exact hasArchives (k := next) (hnext ▸ hb)
  | get id =>
    rw [KnowledgeBase.perform, outcome_map]
    obtain ⟨b, hrun, hb⟩ := h.gives_run fun _ _ _ hf _ hs => hf.get id hs
    have hget : getCause id k = .ok (cat.get id) { k with backing := b } := by
      rw [getCause, onBacking, hrun]
      rfl
    rw [outcome, hget]
    exact hasArchives (k := { k with backing := b }) hb
  | causes =>
    rw [KnowledgeBase.perform, outcome_map]
    exact hk.of_read (exists_causes h.stands)
  | names =>
    rw [KnowledgeBase.perform, outcome_map]
    exact hk.of_read (hcauses namesOf)
  | shallow =>
    rw [KnowledgeBase.perform, outcome_map]
    exact hk.of_read (hcauses shallowOf)
  | categories =>
    rw [KnowledgeBase.perform, outcome_map]
    exact hk.of_read (exists_categories h.stands)

/-- The knowledge base that is opened again under some settings, without a cache. -/
def reopened (statistics successful : Bool) (k : KnowledgeBase) : KnowledgeBase :=
  match k.backing with
  | .file b => ofFile b
  | .table b => ofTable b.store statistics successful
  | .hash b => ofHash b.store statistics successful

/-- The knowledge bases over documents that can be reached. -/
inductive Reached : KnowledgeBase → Prop where
  /-- Tables have no rows at first. -/
  | table (statistics successful : Bool) : Reached (ofTable .empty statistics successful)
  /-- A key-value store is empty at first, and its link does not fail. -/
  | hash (statistics successful : Bool) : Reached (ofHash .empty statistics successful)
  /-- It is opened again. -/
  | reopened {k : KnowledgeBase} (h : Reached k) (statistics successful : Bool) :
    Reached (k.reopened statistics successful)
  /-- A cache is put before it. -/
  | cached {k : KnowledgeBase} (h : Reached k) : Reached k.cached
  /-- The cache is started. -/
  | start {k : KnowledgeBase} (h : Reached k) : Reached (outcome start k).2
  /-- The cache is stopped. -/
  | stop {k : KnowledgeBase} (h : Reached k) : Reached k.stop
  /-- A request is made, whether it succeeds or not; causes are seen at times that can be
  written. -/
  | perform {k : KnowledgeBase} (h : Reached k) (request : Request)
    (ht : ∀ ids time, request = .lastSeen ids time → k.backing.Writes time) :
    Reached (outcome (perform request) k).2
  /-- A record is written, with a time that can be written. -/
  | write {k : KnowledgeBase} (h : Reached k) (r : Statistics)
    (hr : k.backing.Writes r.startTime) : Reached (k.write r)

/-- A knowledge base that can be reached has a catalog and records. -/
theorem Reached.hasArchives (h : k.Reached) : k.HasArchives := by
  induction h with
  | table statistics successful =>
    have hnew : (Backing.table ⟨.empty, statistics, successful⟩).Archives
        (fun time => time.toNat < 2 ^ 63) statistics successful [] .empty :=
      ⟨fun _ ht => ht, rfl, rfl, .nil, rfl, nofun⟩
    exact KnowledgeBase.hasArchives (k := ofTable .empty statistics successful) hnew
  | hash statistics successful =>
    have hnew : (Backing.hash ⟨.empty, statistics, successful⟩).Archives (fun _ => True)
        statistics successful [] .empty :=
      ⟨rfl, rfl, ⟨rfl, rfl, fun _ => rfl⟩, rfl⟩
    exact KnowledgeBase.hasArchives (k := ofHash .empty statistics successful) hnew
  | @reopened k _ statistics successful ih =>
    obtain ⟨cat, saved, h⟩ := ih
    obtain ⟨b, cache⟩ := k
    cases b with
    | file b => exact h.elim
    | table b =>
      have hagain : (Backing.table ⟨b.store, statistics, successful⟩).Archives
          (fun time => time.toNat < 2 ^ 63) statistics successful saved cat :=
        ⟨fun _ ht => ht, rfl, rfl, h.2.stands, h.2.kept⟩
      exact KnowledgeBase.hasArchives (k := ofTable b.store statistics successful) hagain
    | hash b =>
      have hagain : (Backing.hash ⟨b.store, statistics, successful⟩).Archives (fun _ => True)
          statistics successful saved cat := ⟨rfl, rfl, h.stands, h.kept⟩
      exact KnowledgeBase.hasArchives (k := ofHash b.store statistics successful) hagain
  | cached _ ih => exact ih.of_backing rfl
  | @start k _ ih =>
    have hstart : outcome KnowledgeBase.start k = (.ok (), if k.isRunning then k else
        (k.setUpdater (some .begun)).settle) := rfl
    rw [hstart]
    split
    · exact ih
    · obtain ⟨cat, saved, h⟩ := ih
      exact HasArchives.of_backing ⟨cat, saved, h⟩
        (backing_settle (k := k.setUpdater (some .begun)) h.stands)
  | @stop k _ ih =>
    obtain ⟨cat, saved, h⟩ := ih
    exact HasArchives.of_backing ⟨cat, saved, h⟩ (backing_stop h.stands)
  | perform _ request ht ih => exact ih.perform request ht
  | write _ r hr ih =>
    obtain ⟨cat, saved, h⟩ := ih
    exact KnowledgeBase.hasArchives (archives_write h hr)

end KnowledgeBase

end BuildTriage
