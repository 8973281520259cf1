import BuildTriage.KnowledgeBase.Outside
import BuildTriage.Proofs.KnowledgeBase.HashStore
import BuildTriage.Proofs.KnowledgeBase.TableStore

/-!
# What the listings have, and that reading leaves it

The listings of the place where causes are kept are those that it gives over a link that
does not fail. Reading over a link that may fail gives these, or fails; in either case
nothing but the link is another one afterwards.
-/

namespace BuildTriage

variable {σ τ α β : Type}

/-- An operation only reads: over a mended link it gives the same and changes nothing, and it
leaves nothing but the link changed. -/
structure Reads (mend : σ → σ) (op : Op σ α) (s : σ) : Prop where
  /-- Where it succeeds. -/
  ok : ∀ a t, op s = .ok a t → op (mend s) = .ok a (mend s) ∧ mend t = mend s
  /-- Where it fails. -/
  error : ∀ e t, op s = .error e t → mend t = mend s

section Reads

variable {mend : σ → σ} {op : Op σ α} {s : σ}

/-- An operation that is known to succeed only reads, if it answers the same once the link is
mended. -/
theorem reads_of_ok {a : α} {t : σ} (hrun : op s = .ok a t)
    (hmended : op (mend s) = .ok a (mend s)) (ht : mend t = mend s) : Reads mend op s where
  ok := by rw [hrun]; rintro _ _ ⟨⟩; exact ⟨hmended, ht⟩
  error := by rw [hrun]; exact nofun

/-- An operation that is known to fail only reads, if it changes at most the link. -/
theorem reads_of_error {e : KnowledgeBaseError} {t : σ} (hrun : op s = .error e t)
    (ht : mend t = mend s) : Reads mend op s where
  ok := by rw [hrun]; exact nofun
  error := by rw [hrun]; rintro _ _ ⟨⟩; exact ht

theorem reads_pure (a : α) : Reads mend (pure a) s := reads_of_ok rfl rfl rfl

theorem reads_throw (e : KnowledgeBaseError) : Reads mend (throw e : Op σ α) s :=
  reads_of_error rfl rfl

/-- Where there is no link to mend, the state is read as it is. -/
theorem Reads.get_bind {f : σ → Op σ α} (h : Reads id (f s) s) : Reads id (get >>= f) s :=
  ⟨h.ok, h.error⟩

theorem Reads.bind {f : α → Op σ β} (h : Reads mend op s) (hf : ∀ a t, Reads mend (f a) t) :
    Reads mend (op >>= f) s := by
  cases hop : op s with
  | ok a t =>
    obtain ⟨hmended, ht⟩ := h.ok a t hop
    have hnext := hf a t
    constructor
    · intro b u hrun
      rw [bind_ok hop] at hrun
      obtain ⟨hsame, hu⟩ := hnext.ok b u hrun
      rw [ht] at hsame hu
      exact ⟨by rw [bind_ok hmended, hsame], hu⟩
    · intro e u hrun
      rw [bind_ok hop] at hrun
      rw [hnext.error e u hrun, ht]
  | error e t => exact reads_of_error (bind_error hop) (h.error e t hop)

/-- An operation whose answer is mapped. -/
theorem Reads.map (f : α → β) (h : Reads mend op s) : Reads mend (f <$> op) s := by
  rw [map_eq_pure_bind]
  exact h.bind fun a _ => reads_pure (f a)

theorem reads_mapM {read : β → Op σ α} (h : ∀ b s, Reads mend (read b) s) (bs : List β) :
    Reads mend (bs.mapM read) s := by
  induction bs generalizing s with
  | nil => exact reads_pure []
  | cons b rest ih =>
    rw [List.mapM_cons]
    exact (h b s).bind fun a _ => ih.bind fun as _ => reads_pure (a :: as)

/-- A text is read as a cause. -/
theorem reads_ofStored (text : String) : Reads mend (FailureCause.ofStored text) s := by
  unfold FailureCause.ofStored
  split
  · exact reads_pure _
  · exact reads_throw _

/-- An operation on a part of a larger state. -/
theorem Reads.wrap {wider : τ → τ} {large : Op τ α} {f : σ → τ} (h : Reads mend op s)
    (hop : ∀ s, large (f s) = Backing.wrap f (op s)) (hmend : ∀ s, wider (f s) = f (mend s)) :
    Reads wider large (f s) := by
  cases hrun : op s with
  | ok a t =>
    obtain ⟨hmended, ht⟩ := h.ok a t hrun
    have hlarge : large (f s) = .ok a (f t) := by rw [hop, hrun]; rfl
    have hlarge' : large (wider (f s)) = .ok a (wider (f s)) := by rw [hmend, hop, hmended]; rfl
    exact reads_of_ok hlarge hlarge' (by rw [hmend, hmend, ht])
  | error e t =>
    have hlarge : large (f s) = .error e (f t) := by rw [hop, hrun]; rfl
    exact reads_of_error hlarge (by rw [hmend, hmend, h.error e t hrun])

end Reads

namespace CauseFile

variable {s : CauseFile}

theorem reads_causes : Reads id (CauseStore.causes : Op CauseFile _) s :=
  Reads.get_bind (reads_pure _)

theorem reads_get (key : String) : Reads id (CauseStore.get key : Op CauseFile _) s :=
  Reads.get_bind (reads_pure _)

end CauseFile

namespace CauseTable

variable {s : CauseTable}

/-- The live causes of the rows are read. -/
theorem reads_find : Reads id (findCauses .json .live) s := by
  have hrun := filterM_live s.rows s
  have hfilter : Reads id (s.rows.filterM (selectsRow .json .live)) s := reads_of_ok hrun hrun rfl
  refine Reads.get_bind (hfilter.bind fun rows _ => ?_)
  exact reads_mapM (fun r _ => reads_ofStored r.text) rows

/-- The cause of a row is read. -/
theorem reads_get (key : String) : Reads id (getCause key) s := by
  refine Reads.get_bind ?_
  split
  · exact reads_pure none
  · exact (reads_ofStored _).bind fun c _ => reads_pure (some c)

end CauseTable

namespace CauseHash

variable {s : CauseHash}

/-- The store over a link that does not fail. -/
def mended (s : CauseHash) : CauseHash := { s with link := ⟨[], false⟩ }

/-- A command that only reads. -/
theorem reads_command {g : CauseHash → α} (hg : ∀ link, g { s with link := link } = g s) :
    Reads mended (command fun s => (g s, s)) s := by
  have hmended : command (fun s => (g s, s)) s.mended = .ok (g s) s.mended := by
    rw [command_ok rfl, mended, hg]
  obtain ⟨link, hfails | hdone⟩ := command_cases (fun s => (g s, s)) s
  · exact reads_of_error hfails rfl
  · rw [hg] at hdone
    exact reads_of_ok hdone hmended rfl

theorem reads_textsOf (ids : List String) : Reads mended (textsOf ids) s := by
  induction ids generalizing s with
  | nil => exact reads_pure []
  | cons key rest ih =>
    exact (reads_command fun _ => rfl).bind fun _ _ => ih.bind fun _ _ => reads_pure _

/-- The causes of the listed ids that a query selects are read. -/
theorem reads_find {q : CauseQuery} : Reads mended (findCauses q) s := by
  refine (reads_command fun _ => rfl).bind fun ids _ => ?_
  refine (reads_textsOf ids).bind fun texts _ => ?_
  exact (reads_mapM (fun text _ => reads_ofStored text) texts).bind fun _ _ => reads_pure _

/-- The cause of a field is read. -/
theorem reads_get (key : String) : Reads mended (getCause key) s := by
  refine (reads_command fun _ => rfl).bind fun text _ => ?_
  cases text with
  | none => exact reads_pure none
  | some text => exact (reads_ofStored text).bind fun c _ => reads_pure (some c)

end CauseHash

/-- An operation of the store of a knowledge base. -/
theorem DocumentBase.reads_onStore {mend : σ → σ} {op : Op σ α} {b : DocumentBase σ}
    (h : Reads mend op b.store) :
    Reads (fun b => { b with store := mend b.store }) (onStore op) b := by
  let place (s : σ) : DocumentBase σ := { b with store := s }
  have hmend : ∀ s, { place s with store := mend (place s).store } = place (mend s) :=
    fun _ => rfl
  exact h.wrap (fun s => onStore_eq op (place s)) hmend

namespace Backing

/-- The place where causes are kept, over a link that does not fail. -/
def mended : Backing → Backing
  | .file b => .file b
  | .table b => .table b
  | .hash b => .hash { b with store := b.store.mended }

variable {b : Backing}

/-- Reading a file, tables or a key-value store reads the place where causes are kept. -/
theorem reads_run {op : (σ : Type) → [CauseStore σ] → Op σ α}
    (hfile : ∀ s, Reads id (op CauseFile) s)
    (htable : ∀ b, Reads (fun b => { b with store := id b.store })
      (op (DocumentBase CauseTable)) b)
    (hhash : ∀ b, Reads (fun b => { b with store := b.store.mended })
      (op (DocumentBase CauseHash)) b) :
    Reads mended (run op) b := by
  cases b with
  | file s => exact (hfile s).wrap (fun _ => rfl) fun _ => rfl
  | table b => exact (htable b).wrap (fun _ => rfl) fun _ => rfl
  | hash b => exact (hhash b).wrap (fun _ => rfl) fun _ => rfl

/-- The live causes. -/
def list : Op Backing (List FailureCause) := run fun _ => CauseStore.causes

/-- The cause of an id. -/
def get (key : String) : Op Backing (Option FailureCause) := run fun _ => CauseStore.get key

theorem reads_list : Reads mended list b :=
  reads_run (fun _ => CauseFile.reads_causes)
    (fun _ => DocumentBase.reads_onStore CauseTable.reads_find)
    fun _ => DocumentBase.reads_onStore CauseHash.reads_find

theorem reads_get (key : String) : Reads mended (get key) b :=
  reads_run (fun _ => CauseFile.reads_get key)
    (fun _ => DocumentBase.reads_onStore (CauseTable.reads_get key))
    fun _ => DocumentBase.reads_onStore (CauseHash.reads_get key)

/-- What the listings have: the live causes, and their categories. -/
def contents (b : Backing) : Option Snapshot :=
  match list b.mended with
  | .ok causes _ => some ⟨causes, categoriesOf causes⟩
  | .error _ _ => none

/-- The listings do not depend on the link. -/
theorem contents_congr {b b' : Backing} (h : b.mended = b'.mended) : b.contents = b'.contents := by
  unfold contents
  rw [h]

/-- What only reads leaves the listings as they are. -/
theorem contents_outcome {op : Op Backing α} (h : Reads mended op b) :
    (outcome op b).2.contents = b.contents := by
  unfold outcome
  cases hrun : op b with
  | ok a t => exact contents_congr (h.ok a t hrun).2
  | error e t => exact contents_congr (h.error e t hrun)

/-- A listing that succeeds gives the causes that the listings have. -/
theorem list_ok {causes : List FailureCause} {t : Backing} (h : list b = .ok causes t) :
    b.contents = some ⟨causes, categoriesOf causes⟩ := by
  unfold contents
  rw [(reads_list.ok causes t h).1]

/-- Takes a snapshot: the causes are listed, and once more for their categories. -/
def visit : Op Backing Snapshot := do
  let causes ← list
  return ⟨causes, categoriesOf (← list)⟩

theorem reads_visit : Reads mended visit b :=
  reads_list.bind fun _ _ => reads_list.bind fun _ _ => reads_pure _

/-- A snapshot that is taken is what the listings have. -/
theorem visit_ok {s : Snapshot} {t : Backing} (h : visit b = .ok s t) :
    b.contents = some s := by
  unfold visit at h
  cases hfirst : list b with
  | error e u => rw [bind_error hfirst] at h; cases h
  | ok causes u =>
    rw [bind_ok hfirst] at h
    cases hsecond : list u with
    | error e v => rw [bind_error hsecond] at h; cases h
    | ok again v =>
      rw [bind_ok hsecond] at h
      cases h
      have hsame : u.contents = b.contents := contents_congr (reads_list.ok _ _ hfirst).2
      rw [list_ok hsecond, list_ok hfirst] at hsame
      rw [list_ok hfirst, (Snapshot.mk.inj (Option.some.inj hsame)).1]

end Backing

end BuildTriage
