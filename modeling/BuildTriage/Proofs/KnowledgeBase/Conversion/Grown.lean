import BuildTriage.Proofs.KnowledgeBase.Conversion.Catalogued
import BuildTriage.Proofs.KnowledgeBase.Documents

/-!
# What knowledge bases list that have grown by changes

A knowledge base begins without causes, or on a file whose causes have distinct ids, and is
changed, whether the changes succeed or fail half-way. Then it lists causes of distinct ids. In
tables and in a key-value store all that is stored has an id and a name as well, since nothing
else is accepted there.
-/

namespace BuildTriage

open Json

variable {σ α : Type}

/-- A cause has an id and a name that is not blank. -/
def FailureCause.Complete (c : FailureCause) : Prop := c.id ≠ "" ∧ ¬Text.allBlank c.name = true

/-- A cause that is checked has a name. -/
theorem leaves_checked_name {inv : σ → Prop} {s : σ} (c : FailureCause) (hs : inv s) :
    Leaves inv (c.checked : Op σ Unit) s fun _ t => t = s ∧ ¬Text.allBlank c.name = true := by
  by_cases hn : Text.allBlank c.name = true
  · exact leaves_of_error (checked_error hn s) hs
  · exact leaves_of_ok (checked_ok hn s) hs ⟨rfl, hn⟩

/-- Two properties that an operation leaves. -/
theorem Leaves.both {inv inv' : σ → Prop} {op : Op σ α} {s : σ} {post post' : α → σ → Prop}
    (h : Leaves inv op s post) (h' : Leaves inv' op s post') :
    Leaves (fun s => inv s ∧ inv' s) op s fun _ _ => True where
  ok a t hrun := ⟨⟨(h.ok a t hrun).1, (h'.ok a t hrun).1⟩, trivial⟩
  error e t hrun := ⟨h.error e t hrun, h'.error e t hrun⟩

/-- What gives what a catalog says leaves a catalog with some property. -/
theorem Gives.leaves {stands : σ → Catalog → Prop} {op : Op σ α} {s : σ}
    {out : Except KnowledgeBaseError α} {cat : Catalog} {p : Catalog → Prop}
    (h : Gives stands op s out cat) (hp : p cat) :
    Leaves (fun s => ∃ cat, stands s cat ∧ p cat) op s fun _ _ => True := by
  cases out with
  | ok a =>
    obtain ⟨t, hrun, ht⟩ := h
    exact leaves_of_ok hrun ⟨cat, ht, hp⟩ trivial
  | error e =>
    obtain ⟨t, hrun, ht⟩ := h
    exact leaves_of_error hrun ⟨cat, ht, hp⟩

/-- The changes of a document store keep a property, as long as they enter complete causes and
see causes at times below 2^63. -/
structure Enters (σ : Type) [DocumentStore σ] (inv : σ → Prop) : Prop where
  /-- A cause is inserted. -/
  insert : ∀ {s} (c : FailureCause), c.Complete → inv s →
    Leaves inv (DocumentStore.insert c) s fun _ _ => True
  /-- A cause is replaced. -/
  update : ∀ {s} (c : FailureCause), c.Complete → inv s →
    Leaves inv (DocumentStore.update c) s fun _ _ => True
  /-- A tombstone is put on a cause. -/
  tombstone : ∀ {s} (id : String) (stone : Tombstone), inv s →
    Leaves inv (DocumentStore.tombstone id stone) s fun _ _ => True
  /-- A cause is seen. -/
  touch : ∀ {s} (id : String) (time : UInt64), time.toNat < 2 ^ 63 → inv s →
    Leaves inv (DocumentStore.touch id time) s fun _ _ => True
  /-- A record is appended. -/
  append : ∀ {s} (r : Statistics), inv s →
    Leaves inv (DocumentStore.appendStatistics r) s fun _ _ => True

namespace Catalog

variable {cat : Catalog}

/-- All causes of a catalog are complete. -/
def Complete (cat : Catalog) : Prop := ∀ c ∈ cat.causes, c.Complete

theorem Complete.add (h : cat.Complete) {c : FailureCause} (hc : c.Complete)
    (hid : c.id ∉ cat.ids) : (cat.add c).Complete := by
  intro d hd
  obtain rfl | ⟨hold, -⟩ := mem_add hid hd
  · exact hc
  · exact h d hold

theorem Complete.save (h : cat.Complete) {c : FailureCause} (hc : c.Complete) :
    (cat.save c).Complete := by
  intro d hd
  obtain rfl | ⟨hold, -⟩ := mem_save hd
  · exact hc
  · exact h d hold

theorem Complete.remove (h : cat.Complete) (id : String) (stone : Tombstone) :
    (cat.remove id stone).Complete := by
  intro d hd
  obtain ⟨c, hc, rfl⟩ := List.mem_map.mp hd
  unfold burial
  split
  · exact h c hc
  · exact h c hc

theorem Complete.lastSeen (h : cat.Complete) (ids : List String) (time : UInt64) :
    (cat.lastSeen ids time).Complete := by
  intro d hd
  obtain ⟨c, hc, rfl⟩ := List.mem_map.mp hd
  unfold sighting
  split
  · exact h c hc
  · exact h c hc

end Catalog

namespace CauseTable

/-- The rows keep a catalog of complete causes. -/
def Grounded (t : CauseTable) : Prop := ∃ cat, Stands t cat ∧ cat.Complete

theorem enters : Enters CauseTable Grounded where
  insert {t} c hc ht := by
    obtain ⟨cat, hs, hcomplete⟩ := ht
    by_cases hid : c.id ∈ cat.ids
    · have hrun : DocumentStore.insert c t = .error (.query .sqlite .duplicateRow) t :=
        insert_known hs hid
      exact leaves_of_error hrun ⟨cat, hs, hcomplete⟩
    · exact (gives_insert c hs hid).leaves (hcomplete.add hc hid)
  update c hc ht := by
    obtain ⟨cat, hs, hcomplete⟩ := ht
    by_cases hid : c.id ∈ cat.ids
    · exact (gives_update c hs hid).leaves (hcomplete.save hc)
    · exact (gives_update_unknown c hs hid).leaves hcomplete
  tombstone id stone ht := by
    obtain ⟨cat, hs, hcomplete⟩ := ht
    exact (gives_tombstone id stone hs).leaves (hcomplete.remove id stone)
  touch id time htime ht := by
    obtain ⟨cat, hs, hcomplete⟩ := ht
    obtain ⟨moved, hgives⟩ := gives_touch id time hs htime
    exact hgives.leaves (hcomplete.lastSeen [id] time)
  append r ht := leaves_modify ht trivial

end CauseTable

namespace CauseHash

variable {s : CauseHash}

/-- The texts are those of complete causes. -/
def Filled (s : CauseHash) : Prop :=
  ∀ field ∈ s.texts, ∃ c : FailureCause, field.2 = c.stored ∧ c.Complete

/-- A field that is there once one is set is that one, or was there before. -/
theorem mem_setField {id text : String} {texts : List (String × String)}
    {field : String × String} (h : field ∈ setField id text texts) :
    field = (id, text) ∨ field ∈ texts := by
  induction texts with
  | nil => exact .inl (List.mem_singleton.mp h)
  | cons other rest ih =>
    obtain ⟨k, t⟩ := other
    unfold setField at h
    split at h
    · next hk =>
      obtain rfl | hrest := List.mem_cons.mp h
      · exact .inl (by rw [hk])
      · exact .inr (List.mem_cons_of_mem _ hrest)
    · obtain rfl | hrest := List.mem_cons.mp h
      · exact .inr List.mem_cons_self
      · exact (ih hrest).imp_right (List.mem_cons_of_mem _)

/-- Setting a field to a complete cause. -/
theorem Filled.set (h : Filled s) (id : String) {c : FailureCause} (hc : c.Complete) :
    ∀ field ∈ setField id c.stored s.texts,
      ∃ c : FailureCause, field.2 = c.stored ∧ c.Complete := by
  intro field hfield
  obtain rfl | hold := mem_setField hfield
  · exact ⟨c, rfl, hc⟩
  · exact h field hold

theorem filled_insert (c : FailureCause) (hc : c.Complete) (hs : Filled s) :
    Leaves Filled (insert c) s fun _ _ => True := by
  have hset : Filled { s with texts := setField c.id c.stored s.texts } := hs.set c.id hc
  exact (leaves_insertion c (fun _ => hs) (fun _ _ => hset) fun _ _ => hset).mono
    fun _ _ _ _ => trivial

/-- A change of a field that writes only texts of complete causes. -/
theorem filled_fieldUpdate {id : String} {f : Option String → Edit α} (hs : Filled s)
    (hf : ∀ text a, f (s.texts.lookup id) = .write text a →
      ∃ c : FailureCause, text = c.stored ∧ c.Complete) :
    Leaves Filled (fieldUpdate id f) s fun _ _ => True := by
  refine (leaves_fieldUpdate (fun _ => hs) fun text a hedit link => ?_).mono fun _ _ _ _ => trivial
  obtain ⟨c, rfl, hc⟩ := hf text a hedit
  exact hs.set id hc

/-- A change of a stored cause that keeps its id and its name. -/
theorem filled_editCause {id : String} {f : FailureCause → Option FailureCause} (hs : Filled s)
    (hf : ∀ c c', f c = some c' → c'.id = c.id ∧ c'.name = c.name) :
    Leaves Filled (fieldUpdate id (editCause f)) s fun _ _ => True := by
  refine filled_fieldUpdate hs fun text c' hedit => ?_
  obtain ⟨rfl, old, c, hfield, hread, hc⟩ := exists_of_editCause hedit
  obtain ⟨d, hold, hd⟩ := hs _ (mem_of_lookup hfield)
  obtain rfl : old = d.stored := hold
  rw [FailureCause.decodeText_stored, Except.ok.injEq] at hread
  obtain ⟨hid, hname⟩ := hf c c' hc
  rw [← hread] at hid hname
  exact ⟨c', rfl, by rw [FailureCause.Complete, hid, hname]; exact hd⟩

theorem filled_update (c : FailureCause) (hc : c.Complete) (hs : Filled s) :
    Leaves Filled (update c) s fun _ _ => True := by
  refine (filled_fieldUpdate hs fun text a hedit => ?_).answer
  split at hedit
  · obtain ⟨rfl, -⟩ := Edit.write.inj hedit
    exact ⟨c, rfl, hc⟩
  · cases hedit

/-- Being seen keeps the name of a cause. -/
theorem name_touch (c : FailureCause) (time : UInt64) : (c.touch time).name = c.name := by
  unfold FailureCause.touch
  split
  · split
    · rfl
    · rfl
  · rfl

theorem filled_touch (id : String) (time : UInt64) (hs : Filled s) :
    Leaves Filled (touch id time) s fun _ _ => True := by
  refine (filled_editCause hs fun c c' h => ?_).answer
  split at h
  · obtain rfl := Option.some.inj h
    exact ⟨CauseFile.id_touch c time, name_touch c time⟩
  · cases h

/-- The ids are distinct, and the texts are those of complete causes. -/
def Grounded (s : CauseHash) : Prop := Distinct s ∧ Filled s

theorem enters : Enters CauseHash Grounded where
  insert c hc hs := (leaves_insert c hs.1).both (filled_insert c hc hs.2)
  update c hc hs := (leaves_update c hs.1).both (filled_update c hc hs.2)
  tombstone id stone hs := by
    refine (leaves_tombstone id stone hs.1).both (filled_editCause hs.2 ?_)
    rintro c _ ⟨⟩
    exact ⟨rfl, rfl⟩
  touch id time _ hs := (leaves_touch id time hs.1).both (filled_touch id time hs.2)
  append _ hs := leaves_command (fun link => ⟨hs.1.relink link, hs.2⟩)
    fun _ => ⟨⟨hs.1.congr rfl rfl, hs.2⟩, trivial⟩

end CauseHash

namespace DocumentBase

variable [DocumentStore σ] {inv : σ → Prop} {b : DocumentBase σ}

/-- A cause has an id once it is identified, if the fresh one is an id. -/
theorem identified_ne {fresh : String} {c : FailureCause} (h : c.isNew = true → fresh ≠ "") :
    (c.identified fresh).id ≠ "" := by
  unfold FailureCause.identified
  split
  · next hnew => exact h hnew
  · next hold => simpa [FailureCause.isNew] using hold

theorem enters_add (h : Enters σ inv) (fresh : String) (c : FailureCause)
    (hfresh : c.isNew = true → fresh ≠ "") (hb : Holds inv b) :
    Leaves (Holds inv) (add fresh c) b fun _ _ => True := by
  refine (leaves_checked_name c hb).bind ?_
  rintro _ _ hb ⟨rfl, hname⟩
  have hcomplete : (c.identified fresh).Complete := by
    refine ⟨identified_ne hfresh, ?_⟩
    unfold FailureCause.identified
    split <;> exact hname
  exact (leaves_onStore (h.insert _ hcomplete hb)).answer

theorem enters_save (h : Enters σ inv) (fresh : String) (c : FailureCause)
    (hfresh : c.isNew = true → fresh ≠ "") (hb : Holds inv b) :
    Leaves (Holds inv) (save fresh c) b fun _ _ => True := by
  unfold save
  by_cases hnew : c.isNew = true
  · rw [if_pos hnew]
    exact enters_add h fresh c hfresh hb
  · rw [if_neg hnew]
    refine (leaves_checked_name c hb).bind ?_
    rintro _ _ hb ⟨rfl, hname⟩
    have hcomplete : c.Complete := ⟨by simpa [FailureCause.isNew] using hnew, hname⟩
    refine (leaves_onStore (h.update c hcomplete hb)).bind fun replaced t ht _ => ?_
    cases replaced with
    | true => exact leaves_pure ht trivial
    | false =>
      exact (leaves_onStore (h.insert c hcomplete ht)).answer

theorem enters_lastSeen (h : Enters σ inv) (ids : List String) {time : UInt64}
    (htime : time.toNat < 2 ^ 63) (hb : Holds inv b) :
    Leaves (Holds inv) (lastSeen ids time) b fun _ _ => True := by
  induction ids generalizing b with
  | nil => exact leaves_pure hb trivial
  | cons id rest ih =>
    exact (leaves_onStore (h.touch id time htime hb)).bind fun _ _ ht _ => ih ht

end DocumentBase

namespace CauseHash

/-- The causes whose ids are listed are complete. -/
theorem exists_complete {s : CauseHash} (hs : Grounded s) :
    ∃ all, Lists s all ∧ (all.map (·.id)).Nodup ∧ ∀ c ∈ all, c.Complete := by
  obtain ⟨hdistinct, hfilled⟩ := hs
  obtain ⟨all, hlists⟩ := exists_lists hdistinct
  refine ⟨all, hlists, hlists.ids_eq ▸ hdistinct.listed_nodup, fun c hc => ?_⟩
  obtain ⟨d, hd, hcomplete⟩ := hfilled _ (mem_of_lookup (hlists.lookup_eq c hc))
  obtain rfl : c = d := stored_injective hd
  exact hcomplete

end CauseHash

namespace Backing

/-- The causes of a file have distinct ids, and those of tables or of a key-value store are
complete as well. -/
def Grounded : Backing → Prop
  | .file b => b.Distinct
  | .table b => DocumentBase.Holds CauseTable.Grounded b
  | .hash b => DocumentBase.Holds CauseHash.Grounded b

variable {b : Backing}

/-- What leaves each kind of place grounded leaves a place so. -/
theorem grounded_run {op : (σ : Type) → [CauseStore σ] → Op σ α} (hb : b.Grounded)
    (hfile : ∀ s, b = .file s → s.Distinct →
      Leaves CauseFile.Distinct (op CauseFile) s fun _ _ => True)
    (hdocument : ∀ {σ : Type} [DocumentStore σ] {inv : σ → Prop} (b : DocumentBase σ),
      Enters σ inv → DocumentBase.Holds inv b →
      Leaves (DocumentBase.Holds inv) (op (DocumentBase σ)) b fun _ _ => True) :
    Leaves Grounded (run op) b fun _ _ => True := by
  cases b with
  | file s => exact (hfile s rfl hb).wrap rfl (fun _ h => h) fun _ _ _ _ => trivial
  | table b =>
    exact (hdocument b CauseTable.enters hb).wrap rfl (fun _ h => h) fun _ _ _ _ => trivial
  | hash b =>
    exact (hdocument b CauseHash.enters hb).wrap rfl (fun _ h => h) fun _ _ _ _ => trivial

theorem grounded_add (fresh : String) (c : FailureCause) (hb : b.Grounded)
    (hid : b.Spares (c.identified fresh).id) (hfresh : c.isNew = true → fresh ≠ "") :
    Leaves Grounded (run fun _ => CauseStore.add fresh c) b fun _ _ => True := by
  refine grounded_run hb ?_ fun b h hb => DocumentBase.enters_add h fresh c hfresh hb
  rintro s rfl hs
  exact (CauseFile.leaves_add fresh c hs hid).mono fun _ _ _ _ => trivial

theorem grounded_save (fresh : String) (c : FailureCause) (hb : b.Grounded)
    (hid : c.isNew = true → b.Spares fresh) (hfresh : c.isNew = true → fresh ≠ "") :
    Leaves Grounded (run fun _ => CauseStore.save fresh c) b fun _ _ => True := by
  refine grounded_run hb ?_ fun b h hb => DocumentBase.enters_save h fresh c hfresh hb
  rintro s rfl hs
  exact (CauseFile.leaves_save fresh c hs hid).mono fun _ _ _ _ => trivial

theorem grounded_remove (id : String) (stone : Tombstone) (hb : b.Grounded) :
    Leaves Grounded (run fun _ => CauseStore.remove id stone) b fun _ _ => True := by
  refine grounded_run hb ?_ fun b h hb => DocumentBase.leaves_onStore (h.tombstone id stone hb)
  rintro s - hs
  exact (CauseFile.leaves_remove id stone hs).mono fun _ _ _ _ => trivial

theorem grounded_lastSeen (ids : List String) {time : UInt64} (htime : time.toNat < 2 ^ 63)
    (hb : b.Grounded) :
    Leaves Grounded (run fun _ => CauseStore.lastSeen ids time) b fun _ _ => True := by
  refine grounded_run hb ?_ fun b h hb => DocumentBase.enters_lastSeen h ids htime hb
  rintro s - hs
  exact CauseFile.leaves_lastSeen ids time hs

theorem grounded_saveStatistics (r : Statistics) (hb : b.Grounded) :
    Leaves Grounded (run fun _ => CauseStore.saveStatistics r) b fun _ _ => True := by
  refine grounded_run hb (fun s _ hs => leaves_pure hs trivial) fun b h hb => ?_
  refine Leaves.get_bind ?_
  split
  · exact DocumentBase.leaves_onStore (h.append r hb)
  · exact leaves_pure hb trivial

/-- A place that is grounded lists its causes, which are complete unless they are in a file. -/
theorem Grounded.shows (hb : b.Grounded) :
    ∃ all, b.Shows all ∧ (¬b.OnFile → ∀ c ∈ all, c.Complete) := by
  cases b with
  | file s => exact ⟨s.causes, ⟨hb, rfl⟩, fun h => absurd trivial h⟩
  | table b =>
    obtain ⟨cat, hs, hcomplete⟩ := hb
    exact ⟨cat.causes, ⟨cat.distinct, hs⟩, fun _ => hcomplete⟩
  | hash b =>
    obtain ⟨all, hlists, hnodup, hcomplete⟩ := CauseHash.exists_complete hb
    exact ⟨all, ⟨hnodup, hlists⟩, fun _ => hcomplete⟩

end Backing

namespace KnowledgeBase

variable {k : KnowledgeBase}

/-- Fresh ids are not empty, and causes are seen at times below 2^63. -/
def Change.Regular : Change → Prop
  | .add fresh cause | .save fresh cause => cause.isNew = true → fresh ≠ ""
  | .remove _ _ => True
  | .lastSeen _ time => time.toNat < 2 ^ 63
  | .convert fresh _ => ∀ n, fresh n ≠ ""

/-- The knowledge bases without a cache that can be reached by changes. -/
inductive Grown : KnowledgeBase → Prop where
  /-- It has just begun. -/
  | begins {k : KnowledgeBase} (h : Begins k) : Grown k
  /-- A change is made, whether it succeeds or fails; on a file it adds causes only under ids
  that are not in use. -/
  | change {k : KnowledgeBase} (h : Grown k) (change : Change) (hfits : k.Fits change)
    (hregular : change.Regular) : Grown (k.next change)
  /-- A record is written, if records are kept. -/
  | record {k : KnowledgeBase} (h : Grown k) (r : Statistics) :
    Grown (outcome (saveStatistics r) k).2
  /-- The server of a key-value store is cut off, or connected again. -/
  | connect {k : KnowledgeBase} (h : Grown k) (down : Bool) : Grown (k.setOffline down)

theorem grounded_saveAll {fresh : Nat → String} {live : List FailureCause}
    (hk : Plain Backing.Grounded k) (hfits : SparesAll fresh live k)
    (hregular : ∀ n, fresh n ≠ "") :
    Leaves (Plain Backing.Grounded) (saveAll fresh live) k fun _ _ => True := by
  induction live generalizing k with
  | nil => exact leaves_pure hk trivial
  | cons c rest ih =>
    obtain ⟨hnew, hrest⟩ := hfits
    have hsave := leaves_change hk
      (Backing.grounded_save (fresh rest.length) c hk.2 hnew fun _ => hregular _)
    have hnext : Leaves (Plain Backing.Grounded) (save (fresh rest.length) c) k
        fun _ t => SparesAll fresh rest t := by
      refine ⟨fun a t hrun => ⟨(hsave.ok a t hrun).1, ?_⟩, hsave.error⟩
      rw [hrun] at hrest
      exact hrest
    exact hnext.bind fun _ t ht hspares => ih ht hspares

/-- A regular change leaves a knowledge base grounded. -/
theorem grounded_make (change : Change) (hk : Plain Backing.Grounded k) (hfits : k.Fits change)
    (hregular : change.Regular) :
    Leaves (Plain Backing.Grounded) (make change) k fun _ _ => True := by
  cases change with
  | add fresh cause =>
    exact (leaves_change hk (Backing.grounded_add fresh cause hk.2 hfits hregular)).answer
  | save fresh cause =>
    exact (leaves_change hk (Backing.grounded_save fresh cause hk.2 hfits hregular)).answer
  | remove id stone =>
    exact (leaves_change hk (Backing.grounded_remove id stone hk.2)).answer
  | lastSeen ids time =>
    exact (leaves_change hk (Backing.grounded_lastSeen ids hregular hk.2)).mono
      fun _ _ _ _ => trivial
  | convert fresh live =>
    have hcopy : Leaves (Plain Backing.Grounded) (convertFrom fresh live) k fun _ _ => True :=
      (grounded_saveAll hk hfits hregular).answer
    exact hcopy.answer

/-- A knowledge base that has grown by changes is grounded, and has no cache. -/
theorem Grown.grounded (h : Grown k) : Plain Backing.Grounded k := by
  induction h with
  | begins hk =>
    cases hk with
    | inMemory => exact ⟨rfl, List.nodup_nil⟩
    | file _ hids => exact ⟨rfl, hids⟩
    | table => exact ⟨rfl, .empty, .nil, nofun⟩
    | hash => exact ⟨rfl, ⟨List.nodup_nil, nofun, List.nodup_nil, nofun⟩, nofun⟩
  | @change k _ change hfits hregular ih =>
    have hmake := grounded_make change ih hfits hregular
    unfold next
    cases hrun : make change k with
    | ok a t => exact (hmake.ok a t hrun).1
    | error e t => exact hmake.error e t hrun
  | record _ r ih => exact (leaves_onBacking ih (Backing.grounded_saveStatistics r ih.2)).outcome
  | @connect k _ down ih =>
    obtain ⟨backing, cache⟩ := k
    cases backing with
    | file s => exact ih
    | table b => exact ih
    | hash b => exact ⟨ih.1, ih.2.1.relink _, ih.2.2⟩

end KnowledgeBase

end BuildTriage
