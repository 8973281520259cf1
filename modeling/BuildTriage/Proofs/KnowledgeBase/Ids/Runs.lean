import BuildTriage.Proofs.KnowledgeBase.Ids.Stores

/-!
# The entries of a knowledge base have distinct ids

Through any run of changes, whether they succeed or fail half-way, no two entries of a
knowledge base get the same id. Tables and key-value stores see to that themselves. A file
keeps whatever it was opened with, and what is added to it under an id in use: it begins with
distinct ids here, and is only asked to add a cause under an id that is not there.
-/

namespace BuildTriage

variable {α : Type}

namespace Backing

/-- The ids of the entries, removed ones too. -/
def ids : Backing → List String
  | .file b => b.causes.map (·.id)
  | .table b => b.store.ids
  | .hash b => b.store.keys

/-- A cause may be added under an id: on a file it must not be in use. -/
def Spares : Backing → String → Prop
  | .file b, id => b.Spares id
  | .table _, _ | .hash _, _ => True

instance (b : Backing) (id : String) : Decidable (b.Spares id) :=
  match b with
  | .file b => inferInstanceAs (Decidable (id ∉ b.causes.map (·.id)))
  | .table _ | .hash _ => inferInstanceAs (Decidable True)

/-- The causes are kept in memory or on a file. -/
def OnFile : Backing → Prop
  | .file _ => True
  | .table _ | .hash _ => False

/-- The ids of the entries are distinct, and stay so. -/
def Distinct : Backing → Prop
  | .file b => b.Distinct
  | .table b => DocumentBase.Holds CauseTable.Distinct b
  | .hash b => DocumentBase.Holds CauseHash.Distinct b

/-- No listing names a cause of an id. -/
def Unlisted (id : String) (b : Backing) : Prop :=
  ∀ causes t, run (fun _ => CauseStore.causes) b = .ok causes t → ∀ c ∈ causes, c.id ≠ id

/-- A store as a place where causes are kept. -/
structure Places {σ : Type} [CauseStore σ] (ids : σ → List String) (spares : σ → String → Prop)
    (into : σ → Backing) : Prop where
  /-- The ids are those of the store. -/
  ids_eq : ∀ s, (into s).ids = ids s
  /-- What is spared is spared by the store. -/
  spares : ∀ s id, (into s).Spares id → spares s id
  /-- Operations are those of the store. -/
  run_eq : ∀ {β : Type} (op : (σ : Type) → [CauseStore σ] → Op σ β) (s : σ),
    run op (into s) = wrap into (op σ s)

/-- What every store that keeps ids distinct leaves, a place where causes are kept leaves. -/
theorem leaves_run {op : (σ : Type) → [CauseStore σ] → Op σ α} {post : α → Backing → Prop}
    {b : Backing} (hb : b.Distinct)
    (h : ∀ {σ : Type} [CauseStore σ] {inv : σ → Prop} {ids : σ → List String}
      {spares : σ → String → Prop} (into : σ → Backing), KeepsDistinct σ inv ids spares →
      Places ids spares into → ∀ s, into s = b → inv s →
        Leaves inv (op σ) s fun a t => post a (into t)) :
    Leaves Distinct (run op) b post := by
  cases b with
  | file b =>
    have hop := h .file CauseFile.keepsDistinct
      ⟨fun _ => rfl, fun _ _ h => h, fun _ _ => rfl⟩ b rfl hb
    exact hop.wrap rfl (fun _ h => h) fun _ _ _ h => h
  | table b =>
    have hop := h .table (DocumentBase.keepsDistinct CauseTable.storesDistinct)
      ⟨fun _ => rfl, fun _ _ h => h, fun _ _ => rfl⟩ b rfl hb
    exact hop.wrap rfl (fun _ h => h) fun _ _ _ h => h
  | hash b =>
    have hop := h .hash (DocumentBase.keepsDistinct CauseHash.storesDistinct)
      ⟨fun _ => rfl, fun _ _ h => h, fun _ _ => rfl⟩ b rfl hb
    exact hop.wrap rfl (fun _ h => h) fun _ _ _ h => h

/-- The ids of the entries are distinct. -/
theorem Distinct.nodup {b : Backing} (hb : b.Distinct) : b.ids.Nodup := by
  cases b with
  | file b => exact CauseFile.keepsDistinct.distinct hb
  | table b => exact CauseTable.storesDistinct.distinct hb
  | hash b => exact CauseHash.storesDistinct.distinct hb

variable {b : Backing}

theorem leaves_causes (hb : b.Distinct) :
    Leaves Distinct (run fun _ => CauseStore.causes) b fun cs _ => (cs.map (·.id)).Nodup :=
  leaves_run hb fun _ hkeeps _ _ _ hs => hkeeps.causes hs

theorem leaves_add (fresh : String) (cause : FailureCause) (hb : b.Distinct)
    (hid : b.Spares (cause.identified fresh).id) :
    Leaves Distinct (run fun _ => CauseStore.add fresh cause) b
      fun _ t => (cause.identified fresh).id ∈ t.ids := by
  refine leaves_run hb ?_
  rintro σ _ inv ids spares into hkeeps hplaces s rfl hs
  simp only [hplaces.ids_eq]
  exact hkeeps.add fresh cause hs (hplaces.spares s _ hid)

theorem leaves_save (fresh : String) (cause : FailureCause) (hb : b.Distinct)
    (hid : cause.isNew = true → b.Spares fresh) :
    Leaves Distinct (run fun _ => CauseStore.save fresh cause) b
      fun _ t => (cause.identified fresh).id ∈ t.ids := by
  refine leaves_run hb ?_
  rintro σ _ inv ids spares into hkeeps hplaces s rfl hs
  simp only [hplaces.ids_eq]
  exact hkeeps.save fresh cause hs fun hnew => hplaces.spares s _ (hid hnew)

theorem leaves_remove (id : String) (stone : Tombstone) (hb : b.Distinct) :
    Leaves Distinct (run fun _ => CauseStore.remove id stone) b
      fun found t => found.isSome = true → t.Unlisted id := by
  refine leaves_run hb ?_
  rintro σ _ inv ids spares into hkeeps hplaces s rfl hs
  refine (hkeeps.remove id stone hs).mono fun found t _ hgone hfound causes u hlist => ?_
  rw [hplaces.run_eq] at hlist
  cases hrun : (CauseStore.causes : Op σ _) t with
  | ok cs v => rw [hrun] at hlist; cases hlist; exact hgone hfound _ _ hrun
  | error e v => rw [hrun] at hlist; exact absurd hlist nofun

theorem leaves_lastSeen (seen : List String) (time : UInt64) (hb : b.Distinct) :
    Leaves Distinct (run fun _ => CauseStore.lastSeen seen time) b fun _ _ => True :=
  leaves_run hb fun _ hkeeps _ _ _ hs => hkeeps.lastSeen seen time hs

/-- A property that every change keeps, as long as it adds causes only under ids that are
spared. -/
structure Lasting (inv : Backing → Prop) : Prop where
  /-- A cause is added. -/
  add : ∀ {b} (fresh : String) (cause : FailureCause), inv b →
    b.Spares (cause.identified fresh).id →
    Leaves inv (run fun _ => CauseStore.add fresh cause) b fun _ _ => True
  /-- A cause is saved. -/
  save : ∀ {b} (fresh : String) (cause : FailureCause), inv b →
    (cause.isNew = true → b.Spares fresh) →
    Leaves inv (run fun _ => CauseStore.save fresh cause) b fun _ _ => True
  /-- A cause is removed. -/
  remove : ∀ {b} (id : String) (stone : Tombstone), inv b →
    Leaves inv (run fun _ => CauseStore.remove id stone) b fun _ _ => True
  /-- Causes are seen. -/
  lastSeen : ∀ {b} (seen : List String) (time : UInt64), inv b →
    Leaves inv (run fun _ => CauseStore.lastSeen seen time) b fun _ _ => True

/-- Distinct ids stay distinct. -/
theorem lasting_distinct : Lasting Distinct where
  add fresh cause hb hid := (leaves_add fresh cause hb hid).mono fun _ _ _ _ => trivial
  save fresh cause hb hid := (leaves_save fresh cause hb hid).mono fun _ _ _ _ => trivial
  remove id stone hb := (leaves_remove id stone hb).mono fun _ _ _ _ => trivial
  lastSeen seen time hb := leaves_lastSeen seen time hb

/-- Over tables and key-value stores every id is spared. -/
theorem spares_of_not_onFile (hb : ¬b.OnFile) (id : String) : b.Spares id := by
  cases b with
  | file b => exact absurd trivial hb
  | table b => trivial
  | hash b => trivial

/-- No operation moves the causes to a file. -/
theorem leaves_not_onFile {op : (σ : Type) → [CauseStore σ] → Op σ α} (hb : ¬b.OnFile) :
    Leaves (fun b => ¬b.OnFile) (run op) b fun _ _ => True := by
  have hany : ∀ {σ : Type} (op : Op σ α) (s : σ),
      Leaves (fun _ => True) op s fun _ _ => True := fun _ _ =>
    ⟨fun _ _ _ => ⟨trivial, trivial⟩, fun _ _ _ => trivial⟩
  cases b with
  | file b => exact absurd trivial hb
  | table b => exact (hany _ b).wrap rfl (fun _ _ h => h) fun _ _ _ _ => trivial
  | hash b => exact (hany _ b).wrap rfl (fun _ _ h => h) fun _ _ _ _ => trivial

/-- Causes that are kept in tables or in a key-value store stay there. -/
theorem lasting_not_onFile : Lasting fun b => ¬b.OnFile where
  add _ _ hb _ := leaves_not_onFile hb
  save _ _ hb _ := leaves_not_onFile hb
  remove _ _ hb := leaves_not_onFile hb
  lastSeen _ _ hb := leaves_not_onFile hb

end Backing

namespace KnowledgeBase

/-- There is no cache, and the place where the causes are kept has a property. -/
def Plain (inv : Backing → Prop) (k : KnowledgeBase) : Prop := k.cache = none ∧ inv k.backing

/-- No listing names a cause of an id. -/
structure Unlisted (id : String) (k : KnowledgeBase) : Prop where
  /-- The listing of the causes. -/
  causes : ∀ cs t, causes k = .ok cs t → ∀ c ∈ cs, c.id ≠ id
  /-- The listing of their names. -/
  names : ∀ ns t, names k = .ok ns t → ∀ n ∈ ns, n.id ≠ id
  /-- The listing by name. -/
  shallow : ∀ ss t, shallow k = .ok ss t → ∀ s ∈ ss, s.id ≠ id

variable {k : KnowledgeBase} {inv : Backing → Prop}

/-- Without a cache a refresh changes nothing. -/
theorem leaves_updateCache (hk : Plain inv k) :
    Leaves (Plain inv) updateCache k fun _ t => t = k := by
  obtain ⟨backing, cache⟩ := k
  obtain ⟨hcache, hb⟩ := hk
  simp only at hcache
  subst hcache
  exact leaves_modify ⟨rfl, hb⟩ rfl

/-- An operation on the place where causes are kept. -/
theorem leaves_onBacking {op : Op Backing α} {post : α → Backing → Prop} (hk : Plain inv k)
    (h : Leaves inv op k.backing post) :
    Leaves (Plain inv) (onBacking op) k fun a t => t.cache = none ∧ post a t.backing :=
  h.wrap rfl (fun _ hb => ⟨hk.1, hb⟩) fun _ _ _ hp => ⟨hk.1, hp⟩

/-- A change of the causes. -/
theorem leaves_change {op : (σ : Type) → [CauseStore σ] → Op σ α} {post : α → Backing → Prop}
    (hk : Plain inv k) (h : Leaves inv (Backing.run op) k.backing post) :
    Leaves (Plain inv) (change op) k fun a t => t.cache = none ∧ post a t.backing := by
  refine (leaves_onBacking hk h).bind fun a t ht hpost => ?_
  refine (leaves_updateCache ht).bind ?_
  rintro _ _ hu rfl
  exact leaves_pure hu hpost

/-- Without a cache the causes are listed where they are kept. -/
theorem causes_eq (hcache : k.cache = none) : causes k = keptCauses k := by
  obtain ⟨backing, cache⟩ := k
  simp only at hcache
  subst hcache
  rfl

/-- What the listing of the causes does not name, no listing names. -/
theorem unlisted_of_backing {id : String} (hcache : k.cache = none)
    (h : k.backing.Unlisted id) : k.Unlisted id := by
  have hcauses : ∀ cs t, causes k = .ok cs t → ∀ c ∈ cs, c.id ≠ id := by
    intro cs t hlist
    rw [causes_eq hcache, keptCauses, onBacking] at hlist
    cases hrun : Backing.run (fun _ => CauseStore.causes) k.backing with
    | ok cs b => rw [hrun] at hlist; cases hlist; exact h _ _ hrun
    | error e b => rw [hrun] at hlist; exact absurd hlist nofun
  have hleaves : Leaves (fun _ => True) causes k fun cs _ => ∀ c ∈ cs, c.id ≠ id :=
    ⟨fun cs t hlist => ⟨trivial, hcauses cs t hlist⟩, fun _ _ _ => trivial⟩
  have hnames : Leaves (fun _ => True) names k fun ns _ => ∀ n ∈ ns, n.id ≠ id := by
    refine hleaves.bind fun cs t ht hcs => leaves_pure ht fun n hn => ?_
    obtain ⟨c, hc, rfl⟩ := List.mem_map.mp hn
    exact hcs c hc
  have hshallow : Leaves (fun _ => True) shallow k fun ss _ => ∀ s ∈ ss, s.id ≠ id := by
    refine hleaves.bind fun cs t ht hcs => leaves_pure ht fun s hs => ?_
    obtain ⟨keyed, hkeyed, rfl⟩ := List.mem_map.mp hs
    obtain ⟨c, hc, rfl⟩ := List.mem_map.mp (List.mem_mergeSort.mp hkeyed)
    exact hcs c hc
  exact ⟨hcauses, fun ns t h => (hnames.ok ns t h).2, fun ss t h => (hshallow.ok ss t h).2⟩

/-- A change of the entries. -/
inductive Change where
  /-- A cause is added, under the fresh id if it is new. -/
  | add (fresh : String) (cause : FailureCause)
  /-- The cause of its id is replaced, or it is added. -/
  | save (fresh : String) (cause : FailureCause)
  /-- A tombstone is put on a cause. -/
  | remove (id : String) (stone : Tombstone)
  /-- Causes are seen. -/
  | lastSeen (ids : List String) (time : UInt64)
  /-- The live causes of another knowledge base are copied. -/
  | convert (fresh : Nat → String) (live : List FailureCause)

/-- Makes a change. -/
def make : Change → Op KnowledgeBase Unit
  | .add fresh cause => do let _ ← add fresh cause
  | .save fresh cause => do let _ ← save fresh cause
  | .remove id stone => do let _ ← remove id stone
  | .lastSeen ids time => lastSeen ids time
  | .convert fresh live => do let _ ← convertFrom fresh live

/-- The knowledge base after a change, whether it succeeds or fails. -/
def next (k : KnowledgeBase) (change : Change) : KnowledgeBase :=
  match make change k with
  | .ok _ t | .error _ t => t

/-- The knowledge base after some changes, made one after the other. -/
def after (k : KnowledgeBase) (changes : List Change) : KnowledgeBase := changes.foldl next k

/-- Causes that are saved one after the other get ids that the knowledge base spares, as far
as they are new. -/
def SparesAll (fresh : Nat → String) : List FailureCause → KnowledgeBase → Prop
  | [], _ => True
  | c :: rest, k => (c.isNew = true → k.backing.Spares (fresh rest.length)) ∧
    match save (fresh rest.length) c k with
    | .ok _ t => SparesAll fresh rest t
    | .error _ _ => True

/-- A change adds a cause only under an id that the knowledge base spares. -/
def Fits (k : KnowledgeBase) : Change → Prop
  | .add fresh cause => k.backing.Spares (cause.identified fresh).id
  | .save fresh cause => cause.isNew = true → k.backing.Spares fresh
  | .convert fresh live => SparesAll fresh live k
  | .remove _ _ | .lastSeen _ _ => True

instance decidableSparesAll (fresh : Nat → String) :
    (live : List FailureCause) → (k : KnowledgeBase) → Decidable (SparesAll fresh live k)
  | [], _ => inferInstanceAs (Decidable True)
  | c :: rest, k =>
    have : Decidable (match save (fresh rest.length) c k with
        | .ok _ t => SparesAll fresh rest t
        | .error _ _ => True) :=
      match save (fresh rest.length) c k with
      | .ok _ t => decidableSparesAll fresh rest t
      | .error _ _ => inferInstanceAs (Decidable True)
    inferInstanceAs (Decidable ((c.isNew = true → k.backing.Spares (fresh rest.length)) ∧ _))

instance (k : KnowledgeBase) : (change : Change) → Decidable (k.Fits change)
  | .add fresh cause =>
    inferInstanceAs (Decidable (k.backing.Spares (cause.identified fresh).id))
  | .save fresh cause => inferInstanceAs (Decidable (cause.isNew = true → k.backing.Spares fresh))
  | .convert fresh live => inferInstanceAs (Decidable (SparesAll fresh live k))
  | .remove _ _ | .lastSeen _ _ => inferInstanceAs (Decidable True)

/-- Each of some changes fits when its turn comes. -/
def FitsAll : List Change → KnowledgeBase → Prop
  | [], _ => True
  | change :: rest, k => k.Fits change ∧ FitsAll rest (k.next change)

instance decidableFitsAll :
    (changes : List Change) → (k : KnowledgeBase) → Decidable (FitsAll changes k)
  | [], _ => inferInstanceAs (Decidable True)
  | change :: rest, k =>
    have := decidableFitsAll rest (k.next change)
    inferInstanceAs (Decidable (k.Fits change ∧ FitsAll rest (k.next change)))

/-- The ways in which a knowledge base begins. -/
inductive Begins : KnowledgeBase → Prop where
  /-- In memory, without causes. -/
  | inMemory : Begins (ofFile .inMemory)
  /-- On a file, whose writes may fail, with causes of distinct ids. -/
  | file {disk : CauseDisk} {f : CauseFile} (hopen : CauseFile.openDisk disk = .ok f)
      (hids : f.Distinct) : Begins (ofFile f)
  /-- Over tables without rows. -/
  | table (statistics successful : Bool) : Begins (ofTable .empty statistics successful)
  /-- Over an empty key-value store, whose commands may fail. -/
  | hash (link : Link) (statistics successful : Bool) :
      Begins (ofHash { CauseHash.empty with link := link } statistics successful)

/-- A knowledge base begins with distinct ids. -/
theorem Begins.distinct (hk : Begins k) : Plain Backing.Distinct k := by
  cases hk with
  | inMemory => exact ⟨rfl, List.nodup_nil⟩
  | file _ hids => exact ⟨rfl, hids⟩
  | table => exact ⟨rfl, List.nodup_nil, nofun⟩
  | hash => exact ⟨rfl, List.nodup_nil, nofun, List.nodup_nil, nofun⟩

/-- Causes are saved one after the other. -/
theorem leaves_saveAll (hinv : Backing.Lasting inv) {fresh : Nat → String}
    {live : List FailureCause} (hk : Plain inv k) (hfits : SparesAll fresh live k) :
    Leaves (Plain inv) (saveAll fresh live) k fun _ _ => True := by
  induction live generalizing k with
  | nil => exact leaves_pure hk trivial
  | cons c rest ih =>
    obtain ⟨hnew, hrest⟩ := hfits
    have hsave := leaves_change hk (hinv.save _ c hk.2 hnew)
    have hnext : Leaves (Plain inv) (save (fresh rest.length) c) k
        fun _ t => SparesAll fresh rest t := by
      refine ⟨fun a t hrun => ⟨(hsave.ok a t hrun).1, ?_⟩, hsave.error⟩
      rw [hrun] at hrest
      exact hrest
    exact hnext.bind fun _ t ht hspares => ih ht hspares

/-- One change keeps a lasting property. -/
theorem leaves_make (hinv : Backing.Lasting inv) (change : Change) (hk : Plain inv k)
    (hfits : k.Fits change) : Leaves (Plain inv) (make change) k fun _ _ => True := by
  cases change with
  | add fresh cause =>
    exact (leaves_change hk (hinv.add fresh cause hk.2 hfits)).answer
  | save fresh cause =>
    exact (leaves_change hk (hinv.save fresh cause hk.2 hfits)).answer
  | remove id stone =>
    exact (leaves_change hk (hinv.remove id stone hk.2)).answer
  | lastSeen ids time =>
    exact (leaves_change hk (hinv.lastSeen ids time hk.2)).mono fun _ _ _ _ => trivial
  | convert fresh live =>
    have hcopy : Leaves (Plain inv) (convertFrom fresh live) k fun _ _ => True :=
      (leaves_saveAll hinv hk hfits).answer
    exact hcopy.answer

theorem Plain.next (hinv : Backing.Lasting inv) {change : Change} (hk : Plain inv k)
    (hfits : k.Fits change) : Plain inv (k.next change) := by
  have hmake := leaves_make hinv change hk hfits
  unfold KnowledgeBase.next
  cases hrun : make change k with
  | ok a t => exact (hmake.ok a t hrun).1
  | error e t => exact hmake.error e t hrun

/-- Any run of fitting changes keeps a lasting property. -/
theorem Plain.after (hinv : Backing.Lasting inv) {changes : List Change} (hk : Plain inv k)
    (hfits : FitsAll changes k) : Plain inv (k.after changes) := by
  induction changes generalizing k with
  | nil => exact hk
  | cons change rest ih => exact ih (hk.next hinv hfits.1) hfits.2

/-- Over tables and key-value stores all causes of a conversion may be saved. -/
theorem sparesAll_of_not_onFile (fresh : Nat → String) (live : List FailureCause)
    (hk : Plain (fun b => ¬b.OnFile) k) : SparesAll fresh live k := by
  induction live generalizing k with
  | nil => trivial
  | cons c rest ih =>
    have hsave := leaves_change hk (Backing.lasting_not_onFile.save (fresh rest.length) c hk.2
      fun _ => Backing.spares_of_not_onFile hk.2 _)
    refine ⟨fun _ => Backing.spares_of_not_onFile hk.2 _, ?_⟩
    split
    · next t hrun => exact ih (hsave.ok _ t hrun).1
    · trivial

/-- Over tables and key-value stores every change fits. -/
theorem fits_of_not_onFile (change : Change) (hk : Plain (fun b => ¬b.OnFile) k) :
    k.Fits change := by
  cases change with
  | add fresh cause => exact Backing.spares_of_not_onFile hk.2 _
  | save fresh cause => exact fun _ => Backing.spares_of_not_onFile hk.2 _
  | convert fresh live => exact sparesAll_of_not_onFile fresh live hk
  | remove id stone => trivial
  | lastSeen ids time => trivial

/-- Over tables and key-value stores any run of changes fits. -/
theorem fitsAll_of_not_onFile (changes : List Change) (hk : Plain (fun b => ¬b.OnFile) k) :
    FitsAll changes k := by
  induction changes generalizing k with
  | nil => trivial
  | cons change rest ih =>
    have hfits := fits_of_not_onFile change hk
    exact ⟨hfits, ih (hk.next Backing.lasting_not_onFile hfits)⟩

/-- Through any run of changes a knowledge base keeps the ids of its entries distinct. So
none that it lists have the same id, exactly one has the id of a cause that was saved, and
none that it lists has the id of a cause that was removed. This holds whatever fails: in
memory and on a file, if it begins with distinct ids and no change adds a cause under an id in
use, and over tables and key-value stores, whatever is added. -/
theorem entries_distinct (hk : Begins k) (changes : List Change)
    (hfits : k.backing.OnFile → FitsAll changes k) :
    (k.after changes).backing.ids.Nodup ∧
    (∀ cs t, causes (k.after changes) = .ok cs t → (cs.map (·.id)).Nodup) ∧
    (∀ fresh cause saved t, cause.isNew = false →
      save fresh cause (k.after changes) = .ok saved t → t.backing.ids.count cause.id = 1) ∧
    ∀ id stone found t, remove id stone (k.after changes) = .ok (some found) t →
      t.Unlisted id := by
  have hall : FitsAll changes k := by
    by_cases hfile : k.backing.OnFile
    · exact hfits hfile
    · exact fitsAll_of_not_onFile changes ⟨hk.distinct.1, hfile⟩
  have hafter := hk.distinct.after Backing.lasting_distinct hall
  refine ⟨hafter.2.nodup, fun cs t hlist => ?_, fun fresh cause saved t hold hsave => ?_,
    fun id stone found t hremove => ?_⟩
  · rw [causes_eq hafter.1] at hlist
    exact ((leaves_onBacking hafter (Backing.leaves_causes hafter.2)).ok cs t hlist).2.2
  · have hid : cause.identified fresh = cause := if_neg (by rw [hold]; decide)
    have hspares : cause.isNew = true → (k.after changes).backing.Spares fresh := by
      rw [hold]; exact nofun
    have hleaves := leaves_change hafter (Backing.leaves_save fresh cause hafter.2 hspares)
    obtain ⟨ht, -, hin⟩ := hleaves.ok saved t hsave
    rw [hid] at hin
    exact List.count_eq_one_of_mem ht.2.nodup hin
  · have hleaves := leaves_change hafter (Backing.leaves_remove id stone hafter.2)
    obtain ⟨-, hcache, hgone⟩ := hleaves.ok (some found) t hremove
    exact unlisted_of_backing hcache (hgone rfl)

/-- A cause that is added, one that is saved under its own id, and copies of both, the first
of which replaces the second cause. -/
def sampleChanges : List Change :=
  [.add "n1" ⟨"", "Disk full", "", "", ["infra"], [], none, [], none⟩,
    .save "n2" ⟨"kept", "abort", "", "", [], [], some 4, [], none⟩,
    .convert (fun n => if n = 0 then "n3" else "n4")
      [⟨"kept", "stop", "", "", [], [], none, [], none⟩,
        ⟨"", "Disk full", "", "", ["infra"], [], none, [], none⟩],
    .lastSeen ["kept", "n1"] 3]

/-- In memory, the copy of the first cause gets an id of its own, and the first one is removed
alone. -/
theorem entries_distinct_sample :
    FitsAll sampleChanges (ofFile .inMemory) ∧
    ((ofFile .inMemory).after sampleChanges).backing.ids = ["n1", "kept", "n3"] ∧
    ∃ found t, remove "n1" ⟨"admin", 7⟩ ((ofFile .inMemory).after sampleChanges) =
      .ok (some found) t ∧ t.Unlisted "n1" := by
  have hfits : FitsAll sampleChanges (ofFile .inMemory) := by decide +kernel
  have hids : ((ofFile .inMemory).after sampleChanges).backing.ids = ["n1", "kept", "n3"] := by
    decide +kernel
  obtain ⟨-, -, -, hremoved⟩ := entries_distinct .inMemory sampleChanges fun _ => hfits
  exact ⟨hfits, hids, _, _, rfl, hremoved "n1" ⟨"admin", 7⟩ _ _ rfl⟩

/-- A cause of a catalog in which all have one id. -/
def twin (name : String) : FailureCause := ⟨"x", name, "", "", [], [], none, [], none⟩

/-- The text of a catalog with two causes of one id. -/
def twins : String :=
  "[\x7b\"id\":\"x\",\"name\":\"a\"\x7d,\x7b\"id\":\"x\",\"name\":\"b\"\x7d]"

/-- A file opens with two causes of one id, and lists one of them after a removal. -/
theorem names_twin : ∃ f,
    CauseFile.openDisk (.ofText "causes.json" (some twins)) = .ok f ∧
    (ofFile f).backing.ids = ["x", "x"] ∧
    (ofFile f).replies [.remove "x" ⟨"u", 0⟩, .names] =
      [.ok (.found (some ((twin "a").bury ⟨"u", 0⟩))), .ok (.names [⟨"x", "b"⟩])] := by
  have hopen : CauseFile.openDisk (.ofText "causes.json" (some twins)) =
      .ok ⟨[twin "a", twin "b"], some (.ofText "causes.json" (some twins))⟩ := by decide +kernel
  exact ⟨_, hopen, rfl, by decide +kernel⟩

end KnowledgeBase

end BuildTriage
