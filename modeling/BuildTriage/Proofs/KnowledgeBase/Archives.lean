import BuildTriage.Proofs.KnowledgeBase.Cache.Contents
import BuildTriage.Proofs.KnowledgeBase.Ids.Stores
import BuildTriage.Proofs.KnowledgeBase.StatisticsQuery

/-!
# Records beside the causes

A document store keeps records in a place of their own. No operation on the causes touches them,
and a record that is added stands beside the others. So a knowledge base over a document store
has the causes of a catalog and, beside them, the records that were saved.
-/

namespace BuildTriage

variable {σ α : Type} {cat : Catalog} {saved : List Statistics}

/-- What an operation gives stands beside what it leaves. -/
theorem Gives.and {stands : σ → Catalog → Prop} {inv : σ → Prop} {op : Op σ α} {s : σ}
    {post : α → σ → Prop} {out : Except KnowledgeBaseError α}
    (h : Gives stands op s out cat) (hleaves : Leaves inv op s post) :
    Gives (fun s cat => stands s cat ∧ inv s) op s out cat := by
  cases out with
  | ok a =>
    obtain ⟨t, hrun, hs⟩ := h
    exact ⟨t, hrun, hs, (hleaves.ok a t hrun).1⟩
  | error e =>
    obtain ⟨t, hrun, hs⟩ := h
    exact ⟨t, hrun, hs, hleaves.error e t hrun⟩

/-- What only reads leaves everything but the link. -/
theorem Reads.leaves {mend : σ → σ} {inv : σ → Prop} {op : Op σ α} {s : σ} (h : Reads mend op s)
    (hinv : ∀ t, mend t = mend s → inv t) : Leaves inv op s fun _ _ => True where
  ok a t hrun := ⟨hinv t (h.ok a t hrun).2, trivial⟩
  error e t hrun := hinv t (h.error e t hrun)

/-- The operations on the causes of a document store leave something else of it as it is. -/
structure Aside (σ : Type) [DocumentStore σ] (inv : σ → Prop) : Prop where
  /-- A cause is read. -/
  get : ∀ {s} (id : String), inv s → Leaves inv (DocumentStore.get id) s fun _ _ => True
  /-- The live causes are read. -/
  find : ∀ {s}, inv s → Leaves inv (DocumentStore.find .live) s fun _ _ => True
  /-- A cause is inserted. -/
  insert : ∀ {s} (c : FailureCause), inv s →
    Leaves inv (DocumentStore.insert c) s fun _ _ => True
  /-- A cause is replaced. -/
  update : ∀ {s} (c : FailureCause), inv s →
    Leaves inv (DocumentStore.update c) s fun _ _ => True
  /-- A tombstone is put on a cause. -/
  tombstone : ∀ {s} (id : String) (stone : Tombstone), inv s →
    Leaves inv (DocumentStore.tombstone id stone) s fun _ _ => True
  /-- A cause is seen. -/
  touch : ∀ {s} (id : String) (time : UInt64), inv s →
    Leaves inv (DocumentStore.touch id time) s fun _ _ => True

/-- A store that keeps a catalog keeps it beside what its operations leave as it is. -/
theorem Keeps.aside [DocumentStore σ] {stands : σ → Catalog → Prop} {inv : σ → Prop}
    (h : Keeps σ stands) (haside : Aside σ inv) :
    Keeps σ fun s cat => stands s cat ∧ inv s where
  get id hs := (h.get id hs.1).and (haside.get id hs.2)
  find hs := (h.find hs.1).and (haside.find hs.2)
  insert c hs hid := (h.insert c hs.1 hid).and (haside.insert c hs.2)
  update c hs hid := (h.update c hs.1 hid).and (haside.update c hs.2)
  update_unknown c hs hid := (h.update_unknown c hs.1 hid).and (haside.update c hs.2)
  tombstone id stone hs := (h.tombstone id stone hs.1).and (haside.tombstone id stone hs.2)
  touch id time hs ht :=
    (h.touch id time hs.1 ht).imp fun _ hg => hg.and (haside.touch id time hs.2)

/-- A document store keeps records beside the causes of a catalog, with the times that it can
write. -/
structure Files (σ : Type) [DocumentStore σ] (stands : σ → Catalog → Prop)
    (kept : List Statistics → σ → Prop) (writes : UInt64 → Prop) : Prop where
  /-- The causes are kept. -/
  keeps : Keeps σ stands
  /-- The records are left as they are. -/
  aside : ∀ saved, Aside σ (kept saved)
  /-- A cause under an id in use is refused. -/
  refused : ∀ {s cat} (c : FailureCause), stands s cat → c.id ∈ cat.ids →
    ∃ e, DocumentStore.insert c s = .error e s
  /-- A record is kept beside the others. -/
  append : ∀ {s cat saved} (r : Statistics), stands s cat → kept saved s → writes r.startTime →
    Gives (fun s cat => stands s cat ∧ kept (saved ++ [r]) s) (DocumentStore.appendStatistics r)
      s (.ok ()) cat
  /-- A cause is seen. -/
  touch : ∀ {s cat} (id : String) {time : UInt64}, stands s cat → writes time →
    ∃ moved, Gives stands (DocumentStore.touch id time) s (.ok moved) (cat.lastSeen [id] time)
  /-- All records are found. -/
  find : ∀ {s cat saved}, stands s cat → kept saved s →
    DocumentStore.findStatistics .all none s = .ok (StatisticsFilter.all.selected none saved) s

namespace CauseTable

/-- The second table has the rows of some records, whose starts are not negative there. -/
def Kept (saved : List Statistics) (t : CauseTable) : Prop :=
  t.records = saved.map Statistics.row ∧ ∀ s ∈ saved, s.startTime.toNat < 2 ^ 63

/-- Changing a row of the first table leaves the records as they are. -/
theorem leaves_changeRow_kept {t : CauseTable} (h : Kept saved t) (id : String)
    (f : CauseRow → CauseRow) : Leaves (Kept saved) (changeRow id f) t fun _ _ => True :=
  leaves_modify h trivial

/-- Applying a function of texts leaves the records as they are. -/
theorem leaves_applied_kept {t : CauseTable} (h : Kept saved t) (given : Option α) :
    Leaves (Kept saved) (applied given) t fun _ _ => True := by
  cases given with
  | some a => exact leaves_pure h trivial
  | none => exact leaves_throw _ h

section Kept

variable {t : CauseTable}

theorem leaves_insert_kept (c : FailureCause) (h : Kept saved t) :
    Leaves (Kept saved) (insert c) t fun _ _ => True := by
  unfold insert
  refine Leaves.get_bind ?_
  split
  · have hrefuse : Leaves (Kept saved) (refuse .duplicateRow : Op CauseTable Unit) t
        fun _ _ => True := leaves_throw _ h
    exact hrefuse.bind fun _ _ ht _ => leaves_modify ht trivial
  · exact leaves_modify h trivial

theorem leaves_update_kept (c : FailureCause) (h : Kept saved t) :
    Leaves (Kept saved) (update c) t fun _ _ => True := by
  unfold update
  refine Leaves.get_bind ?_
  split
  · exact leaves_pure h trivial
  · exact (leaves_changeRow_kept h _ _).answer

theorem leaves_tombstone_kept (key : String) (stone : Tombstone) (h : Kept saved t) :
    Leaves (Kept saved) (tombstone .json key stone) t fun _ _ => True := by
  unfold tombstone
  refine Leaves.get_bind ?_
  cases t.row? key with
  | none => exact leaves_pure h trivial
  | some r =>
    refine (leaves_applied_kept h _).bind fun text t ht _ => ?_
    refine (leaves_changeRow_kept ht key _).bind fun _ t ht _ => ?_
    have hread : Reads id (FailureCause.ofStored text) t := reads_ofStored _
    exact (hread.leaves (by rintro _ rfl; exact ht)).answer

theorem leaves_touch_kept (id : String) (time : UInt64) (h : Kept saved t) :
    Leaves (Kept saved) (touch .json id time) t fun _ _ => True := by
  unfold touch
  refine Leaves.get_bind ?_
  cases t.row? id with
  | none => exact leaves_pure h trivial
  | some r =>
    refine (leaves_applied_kept h _).bind fun earlier t ht _ => ?_
    cases earlier with
    | false => exact leaves_pure ht trivial
    | true =>
      refine (leaves_applied_kept ht _).bind fun text t ht _ => ?_
      exact (leaves_changeRow_kept ht id _).answer

/-- No operation on the causes touches the second table. -/
theorem aside (saved : List Statistics) : Aside CauseTable (Kept saved) where
  get id h := (reads_get id).leaves (by rintro _ rfl; exact h)
  find h := reads_find.leaves (by rintro _ rfl; exact h)
  insert := leaves_insert_kept
  update := leaves_update_kept
  tombstone := leaves_tombstone_kept
  touch := leaves_touch_kept

end Kept

theorem files {writes : UInt64 → Prop} (h : ∀ time, writes time → time.toNat < 2 ^ 63) :
    Files CauseTable Stands Kept writes where
  keeps := keeps
  aside := aside
  refused _ hs hid := ⟨_, insert_known hs hid⟩
  append r hs hk hr := by
    refine ⟨_, rfl, hs, ?_, ?_⟩
    · simp only [hk.1, List.map_append, List.map_singleton]
    · simp only [List.mem_append, List.mem_singleton]
      rintro s (hs | rfl)
      · exact hk.2 s hs
      · exact h _ hr
  touch id _ hs ht := gives_touch id _ hs (h _ ht)
  find _ hk := findStatistics_ok hk.1 ⟨nofun, nofun⟩ hk.2 nofun

end CauseTable

namespace CauseHash

/-- The list of records has the texts of some, the latest first. -/
def Kept (saved : List Statistics) (s : CauseHash) : Prop :=
  s.records = saved.reverse.map fun r => r.encode.compact

/-- A change of a field leaves the records as they are. -/
theorem leaves_fieldUpdate_kept {s : CauseHash} (h : Kept saved s) (id : String)
    (f : Option String → Edit α) : Leaves (Kept saved) (fieldUpdate id f) s fun _ _ => True :=
  (leaves_fieldUpdate (fun _ => h) fun _ _ _ _ => h).mono fun _ _ _ _ => trivial

/-- The store over another link has the same records. -/
theorem Kept.of_mended {s t : CauseHash} (h : Kept saved s) (hlink : t.mended = s.mended) :
    Kept saved t :=
  (congrArg CauseHash.records hlink).trans h

theorem leaves_insert_kept {s : CauseHash} (c : FailureCause) (h : Kept saved s) :
    Leaves (Kept saved) (insert c) s fun _ _ => True := by
  exact (leaves_insertion c (fun _ => h) (fun _ _ => h) fun _ _ => h).mono
    fun _ _ _ _ => trivial

/-- No operation on the causes touches the list of records. -/
theorem aside (saved : List Statistics) : Aside CauseHash (Kept saved) where
  get id h := (reads_get id).leaves fun _ => h.of_mended
  find h := reads_find.leaves fun _ => h.of_mended
  insert := leaves_insert_kept
  update c h := (leaves_fieldUpdate_kept h c.id _).answer
  tombstone id _ h := leaves_fieldUpdate_kept h id _
  touch id _ h := (leaves_fieldUpdate_kept h id _).answer

theorem files (writes : UInt64 → Prop) : Files CauseHash Stands Kept writes where
  keeps := keeps
  aside := aside
  refused _ hs hid := ⟨_, insert_known hs hid⟩
  append r hs hk _ := by
    refine ⟨_, command_ok hs.link_up _, ⟨hs.link_up, hs.ids_eq, hs.lookup_eq⟩, ?_⟩
    unfold Kept at hk ⊢
    simp only [hk, List.reverse_append, List.reverse_singleton, List.singleton_append,
      List.map_cons]
  touch id _ hs _ := gives_touch id _ hs
  find hs hk := findStatistics_ok hk hs.link_up .all none

end CauseHash

namespace DocumentBase

/-- A knowledge base has the causes of a catalog and some records. -/
structure Archives (stands : σ → Catalog → Prop) (kept : List Statistics → σ → Prop)
    (enabled successful : Bool) (saved : List Statistics) (b : DocumentBase σ)
    (cat : Catalog) : Prop where
  /-- It says whether statistics are kept. -/
  statistics_eq : b.keepsStatistics = enabled
  /-- It says whether successful builds are recorded too. -/
  successful_eq : b.keepsSuccessful = successful
  /-- The causes are those of the catalog. -/
  stands : stands b.store cat
  /-- The records are there. -/
  kept : kept saved b.store

variable {stands : σ → Catalog → Prop} {kept : List Statistics → σ → Prop}
  {writes : UInt64 → Prop} {enabled successful : Bool} {b : DocumentBase σ}

/-- What an operation of the store leads to. -/
theorem Archives.onStore {op : Op σ α} {out : Except KnowledgeBaseError α} {other : Catalog}
    {records : List Statistics} (h : Archives stands kept enabled successful saved b cat)
    (hop : Gives (fun s cat => stands s cat ∧ kept records s) op b.store out other) :
    Gives (Archives stands kept enabled successful records) (onStore op) b out other :=
  hop.wrap (onStore_eq op b) fun _ hs => ⟨h.statistics_eq, h.successful_eq, hs.1, hs.2⟩

variable [DocumentStore σ]

/-- A record is saved beside the others, if statistics are kept. -/
theorem Archives.saveStatistics (hfiles : Files σ stands kept writes)
    (h : Archives stands kept enabled successful saved b cat) {r : Statistics}
    (hr : writes r.startTime) :
    Gives (Archives stands kept enabled successful (saved ++ if enabled then [r] else []))
      (CauseStore.saveStatistics r) b (.ok ()) cat := by
  cases enabled with
  | true =>
    obtain ⟨t, hrun, ht⟩ := h.onStore (hfiles.append r h.stands h.kept hr)
    refine ⟨t, ?_, ht⟩
    exact ((bind_ok (get_ok b)).trans (if_pos h.statistics_eq ▸ rfl)).trans hrun
  | false =>
    have hoff : ¬b.keepsStatistics = true := by rw [h.statistics_eq]; exact Bool.false_ne_true
    refine ⟨b, (bind_ok (get_ok b)).trans (if_neg hoff ▸ rfl), ?_⟩
    simpa using h

/-- Causes are seen. -/
theorem Archives.lastSeen (hfiles : Files σ stands kept writes)
    (h : Archives stands kept enabled successful saved b cat) (ids : List String) {time : UInt64}
    (ht : writes time) :
    Gives (Archives stands kept enabled successful saved) (CauseStore.lastSeen ids time) b
      (.ok ()) (cat.lastSeen ids time) :=
  gives_lastSeen (fun id hs => (hfiles.touch id hs.stands ht).imp fun _ hg =>
    hs.onStore (hg.and ((hfiles.aside _).touch id time hs.kept))) ids h

end DocumentBase

end BuildTriage
