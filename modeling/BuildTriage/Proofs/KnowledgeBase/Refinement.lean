import BuildTriage.Proofs.KnowledgeBase.FileStore
import BuildTriage.Proofs.KnowledgeBase.HashStore
import BuildTriage.Proofs.KnowledgeBase.Listing
import BuildTriage.Proofs.KnowledgeBase.TableStore

/-!
# Knowledge bases answer as a catalog

The causes in a file, in tables and in a key-value store follow a catalog. So a knowledge
base over any of them gives to each request the reply of the catalog, through any run of
requests.
-/

namespace BuildTriage

/-- The causes that are kept are those of the catalog. -/
def Backing.Stands : Backing → Catalog → Prop
  | .file b => CauseFile.Stands b
  | .table b => DocumentBase.Stands CauseTable.Stands b
  | .hash b => DocumentBase.Stands CauseHash.Stands b

/-- What every store that follows a catalog gives, a place where causes are kept gives. -/
theorem Backing.gives_run {α : Type} {op : (σ : Type) → [CauseStore σ] → Op σ α}
    {out : Except KnowledgeBaseError α} {cat other : Catalog}
    (h : ∀ (σ : Type) [CauseStore σ] (stands : σ → Catalog → Prop), Follows σ stands →
      ∀ s, stands s cat → Gives stands (op σ) s out other)
    {b : Backing} (hs : b.Stands cat) : Gives Backing.Stands (Backing.run op) b out other := by
  cases b with
  | file b =>
    have hop := h CauseFile CauseFile.Stands CauseFile.follows b hs
    exact hop.wrap rfl fun _ hk => hk
  | table b =>
    have hfollows := DocumentBase.follows CauseTable.keeps (DocumentBase.rests_stands _)
    have hop := h (DocumentBase CauseTable) _ hfollows b hs
    exact hop.wrap rfl fun _ hk => hk
  | hash b =>
    have hfollows := DocumentBase.follows CauseHash.keeps (DocumentBase.rests_stands _)
    have hop := h (DocumentBase CauseHash) _ hfollows b hs
    exact hop.wrap rfl fun _ hk => hk

namespace KnowledgeBase

/-- There is no cache, and the causes that are kept are those of the catalog. -/
def Stands (k : KnowledgeBase) (cat : Catalog) : Prop :=
  k.cache = none ∧ k.backing.Stands cat

variable {α : Type} {k : KnowledgeBase} {cat other : Catalog}

/-- A refresh without a cache leaves the causes as they are. -/
theorem updateCache_ok (hs : Stands k cat) : ∃ t, updateCache k = .ok () t ∧ Stands t cat := by
  obtain ⟨backing, cache⟩ := k
  obtain ⟨hcache, hk⟩ := hs
  simp only at hcache
  subst hcache
  exact ⟨⟨backing, none⟩, rfl, rfl, hk⟩

/-- An operation on the place where causes are kept. -/
theorem gives_onBacking {op : (σ : Type) → [CauseStore σ] → Op σ α}
    {out : Except KnowledgeBaseError α}
    (h : ∀ (σ : Type) [CauseStore σ] (stands : σ → Catalog → Prop), Follows σ stands →
      ∀ s, stands s cat → Gives stands (op σ) s out other)
    (hs : Stands k cat) : Gives Stands (onBacking (Backing.run op)) k out other :=
  (Backing.gives_run h hs.2).wrap rfl fun _ hk => ⟨hs.1, hk⟩

/-- A change of the causes that every store makes as the catalog does. -/
theorem gives_change {op : (σ : Type) → [CauseStore σ] → Op σ α}
    {out : Except KnowledgeBaseError α}
    (h : ∀ (σ : Type) [CauseStore σ] (stands : σ → Catalog → Prop), Follows σ stands →
      ∀ s, stands s cat → Gives stands (op σ) s out other)
    (hs : Stands k cat) : Gives Stands (change op) k out other := by
  have hop := gives_onBacking h hs
  cases out with
  | ok a =>
    obtain ⟨t, ht, hk⟩ := hop
    obtain ⟨t', hu, hk'⟩ := updateCache_ok hk
    refine ⟨t', ?_, hk'⟩
    rw [change, bind_ok ht, bind_ok hu]
    rfl
  | error e =>
    obtain ⟨t, ht, hk⟩ := hop
    exact ⟨t, bind_error ht, hk⟩

/-- The live causes are listed where they are kept. -/
theorem gives_causes (hs : Stands k cat) : Gives Stands causes k (.ok cat.live) cat := by
  obtain ⟨t, ht, hk⟩ := gives_onBacking (fun _ _ _ hf _ h => hf.causes h) hs
  refine ⟨t, ?_, hk⟩
  rw [causes, bind_ok (get_ok k), hs.1]
  exact ht

/-- The categories are listed where the causes are kept. -/
theorem gives_categories (hs : Stands k cat) :
    Gives Stands categories k (.ok cat.categories) cat := by
  obtain ⟨t, ht, hk⟩ := gives_onBacking (fun _ _ _ hf _ h => hf.causes h) hs
  refine ⟨t, ?_, hk⟩
  rw [categories, bind_ok (get_ok k), hs.1]
  simp only
  rw [keptCategories, keptCauses, bind_ok ht, Catalog.categories_eq]
  rfl

/-- The reply to a request is that of the catalog, and the causes that are kept then are
those of the changed catalog. -/
theorem gives_perform (request : Request) (hs : Stands k cat) (h : cat.Accepts request) :
    Gives Stands (perform request) k (cat.perform request).1 (cat.perform request).2 := by
  cases request with
  | add fresh cause =>
    have hadd := gives_change (fun _ _ _ hf _ hk => hf.add fresh cause hk h) hs
    have hmap := hadd.map Answer.cause
    by_cases hn : Text.allBlank cause.name = true
    · simp only [hn, if_true, Catalog.perform] at hmap ⊢
      exact hmap
    · simp only [hn, Catalog.perform] at hmap ⊢
      exact hmap
  | save fresh cause =>
    have hsave := gives_change (fun _ _ _ hf _ hk => hf.save fresh cause hk h) hs
    have hmap := hsave.map Answer.cause
    by_cases hn : Text.allBlank cause.name = true
    · simp only [hn, if_true, Catalog.perform] at hmap ⊢
      exact hmap
    · by_cases hid : cause.id = ""
      · simp only [hn, hid, if_true, Catalog.perform] at hmap ⊢
        exact hmap
      · simp only [hn, hid, if_false, Catalog.perform, Catalog.entry_of_id fresh cause hid]
          at hmap ⊢
        exact hmap
  | remove id stone => exact (gives_change (fun _ _ _ hf _ hk => hf.remove id stone hk) hs).map _
  | lastSeen ids time =>
    exact (gives_change (fun _ _ _ hf _ hk => hf.lastSeen ids time hk h) hs).map _
  | get id => exact (gives_onBacking (fun _ _ _ hf _ hk => hf.get id hk) hs).map _
  | causes => exact (gives_causes hs).map _
  | names => exact ((gives_causes hs).map namesOf).map _
  | shallow =>
    have hshallow := ((gives_causes hs).map shallowOf).map Answer.shallow
    simp only [Except.map, Catalog.shallow_eq] at hshallow
    exact hshallow
  | categories => exact (gives_categories hs).map _

/-- Through any run of requests, the replies are those of the catalog. -/
theorem replies_of_stands (requests : List Request) (hs : Stands k cat)
    (h : cat.AdmitsAll requests) : k.replies requests = cat.replies requests := by
  induction requests generalizing k cat with
  | nil => rfl
  | cons request rest ih =>
    obtain ⟨hfirst, hrest⟩ := h
    have hstep := gives_perform request hs hfirst.accepts
    rw [replies, Catalog.replies]
    cases hreply : (cat.perform request).1 with
    | ok a =>
      rw [hreply] at hstep
      obtain ⟨t, ht, hk⟩ := hstep
      simp only [ht, ih hk hrest]
    | error e =>
      rw [hreply] at hstep
      obtain ⟨t, ht, hk⟩ := hstep
      simp only [ht, ih hk hrest]

/-- Through any run of requests that adds no cause under an id in use, with times below
2^63, knowledge bases that begin without causes give the replies of the catalog that begins
without them: in memory or on a file whose writes do not fail, over tables, and over a
key-value store whose link does not fail. -/
theorem replies_eq_catalog (requests : List Request) (disk : Option CauseDisk)
    (statistics successful : Bool) (h : Catalog.empty.AdmitsAll requests)
    (hdisk : ∀ d, disk = some d → d.Writable) :
    (ofFile ⟨[], disk⟩).replies requests = Catalog.empty.replies requests ∧
    (ofTable .empty statistics successful).replies requests = Catalog.empty.replies requests ∧
    (ofHash .empty statistics successful).replies requests = Catalog.empty.replies requests := by
  have hfile : (ofFile ⟨[], disk⟩).Stands .empty := ⟨rfl, rfl, hdisk⟩
  have htable : (ofTable .empty statistics successful).Stands .empty := ⟨rfl, .nil⟩
  have hhash : (ofHash .empty statistics successful).Stands .empty :=
    ⟨rfl, ⟨rfl, rfl, fun _ => rfl⟩⟩
  exact ⟨replies_of_stands requests hfile h, replies_of_stands requests htable h,
    replies_of_stands requests hhash h⟩

/-- A cause without an id that is added, seen and removed, and one that is saved beside it. -/
def sampleRequests : List Request :=
  [.add "n1" ⟨"", "Disk full", "", "", ["infra"], [], none, [], none⟩,
    .save "n2" ⟨"kept", "abort", "", "", ["Infra", "infra"], [], some 4, [], none⟩,
    .lastSeen ["kept", "n1"] 3, .shallow, .categories, .remove "n1" ⟨"admin", 7⟩,
    .get "n1", .save "n3" ⟨"", " ", "", "", [], [], none, [], none⟩, .causes]

/-- The replies to the sample are those of the catalog. -/
theorem replies_sampleRequests :
    Catalog.empty.AdmitsAll sampleRequests ∧
    (ofFile .inMemory).replies sampleRequests = Catalog.empty.replies sampleRequests ∧
    (ofTable .empty true false).replies sampleRequests = Catalog.empty.replies sampleRequests ∧
    (ofHash .empty true false).replies sampleRequests = Catalog.empty.replies sampleRequests := by
  have hadmits : Catalog.empty.AdmitsAll sampleRequests := by decide +kernel
  exact ⟨hadmits, replies_eq_catalog sampleRequests none true false hadmits nofun⟩

end KnowledgeBase

end BuildTriage
