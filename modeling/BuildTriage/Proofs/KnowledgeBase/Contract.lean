import BuildTriage.Proofs.KnowledgeBase.Catalog
import BuildTriage.Proofs.Words

/-!
# Stores that follow a catalog

A store follows a catalog when each of its operations, in a state that stands for a
catalog, gives what the catalog says and ends in a state that stands for the changed
catalog. A knowledge base over a document store follows the catalog if the few primitives
of the document store do.
-/

namespace BuildTriage

variable {σ τ α β : Type}

/-- An operation has an outcome, and ends in a state that stands for a catalog. -/
def Gives (stands : σ → Catalog → Prop) (op : Op σ α) (s : σ)
    (out : Except KnowledgeBaseError α) (cat : Catalog) : Prop :=
  match out with
  | .ok a => ∃ t, op s = .ok a t ∧ stands t cat
  | .error e => ∃ t, op s = .error e t ∧ stands t cat

/-- What an operation gives is mapped with it. -/
theorem Gives.map {stands : σ → Catalog → Prop} {op : Op σ α} {s : σ}
    {out : Except KnowledgeBaseError α} {cat : Catalog} (h : Gives stands op s out cat)
    (f : α → β) : Gives stands (f <$> op) s (out.map f) cat := by
  cases out with
  | ok a =>
    obtain ⟨t, ht, hs⟩ := h
    exact ⟨t, by simp only [Functor.map, EStateM.map, ht], hs⟩
  | error e =>
    obtain ⟨t, ht, hs⟩ := h
    exact ⟨t, by simp only [Functor.map, EStateM.map, ht], hs⟩

/-- What an operation gives is carried over to a larger state with its outcome. -/
theorem Gives.wrap {stands : σ → Catalog → Prop} {wider : τ → Catalog → Prop} {op : Op σ α}
    {large : Op τ α} {s : σ} {t : τ} {f : σ → τ} {out : Except KnowledgeBaseError α}
    {cat : Catalog} (h : Gives stands op s out cat) (hop : large t = Backing.wrap f (op s))
    (hwider : ∀ s, stands s cat → wider (f s) cat) : Gives wider large t out cat := by
  cases out with
  | ok a =>
    obtain ⟨s', hs', hk⟩ := h
    exact ⟨f s', by rw [hop, hs', Backing.wrap], hwider s' hk⟩
  | error e =>
    obtain ⟨s', hs', hk⟩ := h
    exact ⟨f s', by rw [hop, hs', Backing.wrap], hwider s' hk⟩

/-- After an operation that succeeds, the next one goes on from where it ended. -/
theorem bind_ok {x : Op σ α} {f : α → Op σ β} {s t : σ} {a : α} (h : x s = .ok a t) :
    (x >>= f) s = f a t := by
  simp only [bind, EStateM.bind, h]

/-- After an operation that fails, nothing is done. -/
theorem bind_error {x : Op σ α} {f : α → Op σ β} {s t : σ} {e : KnowledgeBaseError}
    (h : x s = .error e t) : (x >>= f) s = .error e t := by
  simp only [bind, EStateM.bind, h]

/-- Reading the state leaves it as it is. -/
theorem get_ok (s : σ) : (get : Op σ σ) s = .ok s s := rfl

/-- What an operation gives, and what it leaves. -/
def outcome (op : Op σ α) (s : σ) : Except KnowledgeBaseError α × σ :=
  match op s with
  | .ok a t => (.ok a, t)
  | .error e t => (.error e, t)

/-- What an operation gives is its outcome. -/
theorem Gives.outcome {stands : σ → Catalog → Prop} {op : Op σ α} {s : σ}
    {out : Except KnowledgeBaseError α} {cat : Catalog} (h : Gives stands op s out cat) :
    (outcome op s).1 = out ∧ stands (outcome op s).2 cat := by
  unfold BuildTriage.outcome
  cases out with
  | ok a =>
    obtain ⟨t, ht, hs⟩ := h
    rw [ht]
    exact ⟨rfl, hs⟩
  | error e =>
    obtain ⟨t, ht, hs⟩ := h
    rw [ht]
    exact ⟨rfl, hs⟩

theorem outcome_map (f : α → β) (op : Op σ α) (s : σ) :
    outcome (f <$> op) s = ((outcome op s).1.map f, (outcome op s).2) := by
  simp only [outcome, Functor.map, EStateM.map]
  cases op s with
  | ok a t => rfl
  | error e t => rfl

/-- What an operation gives with success is its answer. -/
theorem outcome_ok {op : Op σ α} {s : σ} {a : α} (h : (outcome op s).1 = .ok a) :
    ∃ t, op s = .ok a t := by
  unfold outcome at h
  cases hrun : op s with
  | ok b t => rw [hrun] at h; cases h; exact ⟨t, rfl⟩
  | error e t => rw [hrun] at h; cases h

/-- Reading back, one by one, what was written for some values gives the values. -/
theorem mapM_ok {read : α → Op σ β} {write : β → α} {s : σ}
    (h : ∀ b, read (write b) s = .ok b s) (bs : List β) :
    (bs.map write).mapM read s = .ok bs s := by
  induction bs with
  | nil => rfl
  | cons b rest ih =>
    rw [List.map_cons, List.mapM_cons, bind_ok (h b), bind_ok ih]
    rfl

/-- A cause with a name is valid. -/
theorem checked_ok {cause : FailureCause} (h : ¬Text.allBlank cause.name = true) (s : σ) :
    (cause.checked : Op σ Unit) s = .ok () s := by
  simp only [FailureCause.checked, FailureCause.validate, h]
  rfl

/-- A cause with a blank name is refused. -/
theorem checked_error {cause : FailureCause} (h : Text.allBlank cause.name = true) (s : σ) :
    (cause.checked : Op σ Unit) s = .error (.cause .emptyName) s := by
  simp only [FailureCause.checked, FailureCause.validate, h, if_true]
  rfl

/-- The operations of a store do and answer what the catalog says. -/
structure Follows (σ : Type) [CauseStore σ] (stands : σ → Catalog → Prop) : Prop where
  /-- A cause is found by its id. -/
  get : ∀ {s cat} (id : String), stands s cat →
    Gives stands (CauseStore.get id) s (.ok (cat.get id)) cat
  /-- The live causes are listed. -/
  causes : ∀ {s cat}, stands s cat → Gives stands CauseStore.causes s (.ok cat.live) cat
  /-- A cause is added or refused. -/
  add : ∀ {s cat} (fresh : String) (cause : FailureCause), stands s cat →
    cat.Accepts (.add fresh cause) →
    Gives stands (CauseStore.add fresh cause) s
      (if Text.allBlank cause.name then .error (.cause .emptyName)
        else .ok (Catalog.entry fresh cause))
      (cat.perform (.add fresh cause)).2
  /-- A cause is saved or refused. -/
  save : ∀ {s cat} (fresh : String) (cause : FailureCause), stands s cat →
    cat.Accepts (.save fresh cause) →
    Gives stands (CauseStore.save fresh cause) s
      (if Text.allBlank cause.name then .error (.cause .emptyName)
        else .ok (Catalog.entry fresh cause))
      (cat.perform (.save fresh cause)).2
  /-- A cause is removed. -/
  remove : ∀ {s cat} (id : String) (stone : Tombstone), stands s cat →
    Gives stands (CauseStore.remove id stone) s (.ok ((cat.remove id stone).get id))
      (cat.remove id stone)
  /-- Some causes are seen. -/
  lastSeen : ∀ {s cat} (ids : List String) (time : UInt64), stands s cat → time.toNat < 2 ^ 63 →
    Gives stands (CauseStore.lastSeen ids time) s (.ok ()) (cat.lastSeen ids time)

/-- The primitives of a document store do and answer what the catalog says. -/
structure Keeps (σ : Type) [DocumentStore σ] (stands : σ → Catalog → Prop) : Prop where
  /-- A cause is found by its id. -/
  get : ∀ {s cat} (id : String), stands s cat →
    Gives stands (DocumentStore.get id) s (.ok (cat.get id)) cat
  /-- The live causes are found. -/
  find : ∀ {s cat}, stands s cat → Gives stands (DocumentStore.find .live) s (.ok cat.live) cat
  /-- A cause is inserted under an id that is not in use. -/
  insert : ∀ {s cat} (c : FailureCause), stands s cat → c.id ∉ cat.ids →
    Gives stands (DocumentStore.insert c) s (.ok ()) (cat.add c)
  /-- A cause of a known id is replaced. -/
  update : ∀ {s cat} (c : FailureCause), stands s cat → c.id ∈ cat.ids →
    Gives stands (DocumentStore.update c) s (.ok true) (cat.save c)
  /-- Nothing is replaced under an unknown id. -/
  update_unknown : ∀ {s cat} (c : FailureCause), stands s cat → c.id ∉ cat.ids →
    Gives stands (DocumentStore.update c) s (.ok false) cat
  /-- A tombstone is put on a cause. -/
  tombstone : ∀ {s cat} (id : String) (stone : Tombstone), stands s cat →
    Gives stands (DocumentStore.tombstone id stone) s (.ok ((cat.remove id stone).get id))
      (cat.remove id stone)
  /-- A cause is seen. -/
  touch : ∀ {s cat} (id : String) (time : UInt64), stands s cat → time.toNat < 2 ^ 63 →
    ∃ moved, Gives stands (DocumentStore.touch id time) s (.ok moved) (cat.lastSeen [id] time)

namespace Catalog

theorem ext_causes {cat other : Catalog} (h : cat.causes = other.causes) : cat = other := by
  obtain ⟨causes, _⟩ := cat
  obtain ⟨others, _⟩ := other
  simp only at h
  subst h
  rfl

theorem entry_eq (fresh : String) (cause : FailureCause) :
    cause.identified fresh = entry fresh cause := by
  unfold entry FailureCause.identified FailureCause.isNew
  by_cases h : cause.id = ""
  · simp [h]
  · simp [h]

theorem isNew_eq_true {cause : FailureCause} (h : cause.id = "") : cause.isNew = true := by
  simp [FailureCause.isNew, h]

theorem isNew_eq_false {cause : FailureCause} (h : cause.id ≠ "") : cause.isNew = false := by
  simp [FailureCause.isNew, h]

theorem entry_of_id (fresh : String) (cause : FailureCause) (h : cause.id ≠ "") :
    entry fresh cause = cause := if_neg h

theorem max_comm (a b : UInt64) : max a b = max b a :=
  UInt64.toNat_inj.mp (by rw [toNat_max, toNat_max, Nat.max_comm])

instance : Std.Associative (max : UInt64 → UInt64 → UInt64) where
  assoc a b c := UInt64.toNat_inj.mp (by simp only [toNat_max, Nat.max_assoc])

instance : Std.Commutative (max : UInt64 → UInt64 → UInt64) where
  comm := max_comm

theorem max_idem (a b : UInt64) : max (max a b) b = max a b :=
  UInt64.toNat_inj.mp (by simp only [toNat_max, Nat.max_assoc, Nat.max_self])

/-- Seeing no cause changes nothing. -/
theorem lastSeen_nil (cat : Catalog) (time : UInt64) : cat.lastSeen [] time = cat := by
  apply ext_causes
  have h : sighting [] time = id := by
    funext c
    simp [sighting]
  simp only [lastSeen, adjust, h, List.map_id]

/-- Seeing some causes is seeing the first one and then the others. -/
theorem lastSeen_cons (cat : Catalog) (id : String) (ids : List String) (time : UInt64) :
    cat.lastSeen (id :: ids) time = (cat.lastSeen [id] time).lastSeen ids time := by
  apply ext_causes
  have hself : max time time = time := by rw [max_eq, if_pos (UInt64.le_refl time)]
  have h : ∀ c, sighting ids time (sighting [id] time c) = sighting (id :: ids) time c := by
    intro c
    by_cases hid : c.id = id
    · by_cases hids : c.id ∈ ids
      · cases hl : c.lastOccurred with
        | none => simp [sighting, hid ▸ hids, hid, hl, hself]
        | some last => simp [sighting, hid ▸ hids, hid, hl, max_idem]
      · simp [sighting, hid ▸ hids, hid]
    · simp [sighting, hid]
  simp only [lastSeen, adjust, List.map_map]
  exact List.map_congr_left fun c _ => (h c).symm

/-- Being seen at a time moves the last occurrence forward. -/
theorem sighting_eq (ids : List String) (time : UInt64) (c : FailureCause) :
    sighting ids time c = if c.id ∈ ids then c.touch time else c := by
  unfold sighting FailureCause.touch
  cases hl : c.lastOccurred with
  | none => rfl
  | some last =>
    by_cases hle : time ≤ last
    · have hmax : max last time = last := by
        rw [max_eq]
        split
        · next h => exact UInt64.le_antisymm hle h
        · rfl
      simp only [hle, if_true, hmax, ← hl]
    · have hmax : max last time = time := by
        rw [max_eq, if_pos (UInt64.le_of_lt (UInt64.not_le.mp hle))]
      simp only [hle, if_false, hmax]

/-- A cause whose last occurrence is not moved stays as it is. -/
theorem touch_of_not_touches {c : FailureCause} {time : UInt64} (h : c.touches time = false) :
    c.touch time = c := by
  unfold FailureCause.touches at h
  unfold FailureCause.touch
  cases hl : c.lastOccurred with
  | none =>
    rw [hl] at h
    exact absurd h.symm Bool.false_ne_true
  | some last =>
    rw [hl] at h
    have hle : time ≤ last := UInt64.not_lt.mp (of_decide_eq_false h)
    simp only [hle, if_true]

/-- A cause whose last occurrence is moved was last seen at the given time. -/
theorem touch_of_touches {c : FailureCause} {time : UInt64} (h : c.touches time = true) :
    c.touch time = { c with lastOccurred := some time } := by
  unfold FailureCause.touches at h
  unfold FailureCause.touch
  cases hl : c.lastOccurred with
  | none => rfl
  | some last =>
    rw [hl] at h
    have hlt : ¬time ≤ last := UInt64.not_le.mpr (of_decide_eq_true h)
    simp only [hlt, if_false]

/-- A removed cause is found with its tombstone. -/
theorem get_remove (cat : Catalog) (id : String) (stone : Tombstone) :
    (cat.remove id stone).get id = (cat.get id).map (·.bury stone) := by
  have hkeep : ∀ c, (burial id stone c).id = c.id := by
    intro c
    unfold burial
    split <;> rfl
  simp only [get, remove, adjust, List.find?_map, Function.comp_def, hkeep]
  cases hf : cat.causes.find? fun c => decide (c.id = id) with
  | none => rfl
  | some c =>
    have hid := List.find?_some hf
    simp only [decide_eq_true_eq] at hid
    simp only [Option.map_some, burial, hid, if_true, FailureCause.bury]

/-- A cause is found by an id exactly when the id is in use. -/
theorem get_isSome_iff (cat : Catalog) (id : String) : (cat.get id).isSome ↔ id ∈ cat.ids := by
  simp only [get, ids, List.find?_isSome, decide_eq_true_eq, List.mem_map]

/-- A cause of the catalog is found by its id. -/
theorem get_of_mem {cat : Catalog} {c : FailureCause} (h : c ∈ cat.causes) :
    cat.get c.id = some c := by
  have hsome := (get_isSome_iff cat c.id).mpr (List.mem_map.mpr ⟨c, h, rfl⟩)
  obtain ⟨d, hd⟩ := Option.isSome_iff_exists.mp hsome
  have hid := List.find?_some hd
  simp only [decide_eq_true_eq] at hid
  rw [hd, List.inj_on_of_nodup_map cat.distinct (List.mem_of_find?_eq_some hd) h hid]

/-- Nothing changes if what is changed has an unknown id. -/
theorem map_unknown {cat : Catalog} {id : String} (h : cat.get id = none)
    (f : FailureCause → FailureCause) :
    (cat.causes.map fun c => if c.id = id then f c else c) = cat.causes := by
  conv_rhs => rw [← List.map_id cat.causes]
  refine List.map_congr_left fun c hc => ?_
  have hne : c.id ≠ id := by
    intro hid
    have hsome := (get_isSome_iff cat id).mpr (List.mem_map.mpr ⟨c, hc, hid⟩)
    rw [h] at hsome
    exact absurd hsome (by decide)
  rw [if_neg hne, id_eq]

/-- Removing an unknown cause changes nothing. -/
theorem remove_unknown {cat : Catalog} {id : String} (h : cat.get id = none) (stone : Tombstone) :
    cat.remove id stone = cat := ext_causes (map_unknown h _)

/-- Seeing one cause moves its last occurrence forward. -/
theorem lastSeen_one (cat : Catalog) (id : String) (time : UInt64) :
    (cat.lastSeen [id] time).causes =
      cat.causes.map fun c => if c.id = id then c.touch time else c := by
  refine List.map_congr_left fun c _ => ?_
  simp only [sighting_eq, List.mem_singleton]

/-- Seeing causes that are not moved changes nothing. -/
theorem lastSeen_still {cat : Catalog} {ids : List String} {time : UInt64}
    (h : ∀ c ∈ cat.causes, c.id ∈ ids → c.touches time = false) : cat.lastSeen ids time = cat := by
  apply ext_causes
  have hmap : cat.causes.map (sighting ids time) = cat.causes.map id := by
    refine List.map_congr_left fun c hc => ?_
    rw [sighting_eq]
    by_cases hid : c.id ∈ ids
    · rw [if_pos hid, touch_of_not_touches (h c hc hid)]
      rfl
    · rw [if_neg hid]
      rfl
  rw [List.map_id] at hmap
  exact hmap

/-- Seeing a cause that is not moved changes nothing. -/
theorem lastSeen_one_still {cat : Catalog} {c : FailureCause} {id : String} {time : UInt64}
    (hc : cat.get id = some c) (hm : c.touches time = false) : cat.lastSeen [id] time = cat := by
  refine lastSeen_still fun d hd hid => ?_
  have hget := get_of_mem hd
  rw [List.mem_singleton.mp hid, hc] at hget
  rw [← Option.some.inj hget]
  exact hm

/-- The live causes are those that have not been removed. -/
theorem live_eq (cat : Catalog) : liveCauses cat.causes = cat.live := by
  unfold liveCauses live
  congr 1
  funext c
  cases h : c.removed <;> simp [FailureCause.isRemoved, h]

end Catalog

/-- Saving adds a new cause, refuses one with a blank name, and else has to do what the
catalog does with a cause that has an id. -/
theorem gives_save {stands : σ → Catalog → Prop} {save : Op σ FailureCause}
    (add : Op σ FailureCause) {s : σ} {cat : Catalog} {fresh : String} {cause : FailureCause}
    (hs : stands s cat)
    (hnew : cause.id = "" → save = add ∧
      Gives stands add s
        (if Text.allBlank cause.name then .error (.cause .emptyName)
          else .ok (Catalog.entry fresh cause))
        (cat.perform (.add fresh cause)).2)
    (hblank : cause.id ≠ "" → Text.allBlank cause.name = true →
      save s = .error (.cause .emptyName) s)
    (hknown : cause.id ≠ "" → ¬Text.allBlank cause.name = true →
      Gives stands save s (.ok cause) (cat.save cause)) :
    Gives stands save s
      (if Text.allBlank cause.name then .error (.cause .emptyName)
        else .ok (Catalog.entry fresh cause))
      (cat.perform (.save fresh cause)).2 := by
  by_cases hid : cause.id = ""
  · obtain ⟨hsame, hadd⟩ := hnew hid
    rw [hsame]
    simp only [Catalog.perform, hid, if_true] at hadd ⊢
    exact hadd
  · by_cases hn : Text.allBlank cause.name = true
    · simp only [hn, if_true, Catalog.perform]
      exact ⟨s, hblank hid hn, hs⟩
    · have hsave := hknown hid hn
      simp only [hn, Catalog.perform, hid, Catalog.entry_of_id fresh cause hid]
      exact hsave

/-- The id that a new cause gets is not in use. -/
theorem Catalog.Accepts.entry_fresh {cat : Catalog} {fresh : String} {cause : FailureCause}
    (h : cat.Accepts (.save fresh cause)) (hid : cause.id = "") :
    (Catalog.entry fresh cause).id ∉ cat.ids := by
  simp only [Catalog.entry, hid, if_true]
  exact h hid

namespace DocumentBase

variable {stands : σ → Catalog → Prop}

/-- An operation of the store is one on a part of the knowledge base. -/
theorem onStore_eq (op : Op σ α) (b : DocumentBase σ) :
    onStore op b = Backing.wrap (fun t => { b with store := t }) (op b.store) := by
  unfold onStore
  cases op b.store <;> rfl

/-- The state of the store stands for the catalog. -/
def Stands (stands : σ → Catalog → Prop) (b : DocumentBase σ) (cat : Catalog) : Prop :=
  stands b.store cat

theorem gives_onStore {op : Op σ α} {b : DocumentBase σ} {out : Except KnowledgeBaseError α}
    {cat : Catalog} (h : Gives stands op b.store out cat) :
    Gives (Stands stands) (onStore op) b out cat :=
  h.wrap (onStore_eq op b) fun _ hs => hs

/-- What stands for a catalog is the store of a knowledge base, and nothing else of it counts. -/
structure Rests (stands : σ → Catalog → Prop) (inv : DocumentBase σ → Catalog → Prop) : Prop where
  /-- The store stands for the catalog. -/
  store : ∀ {b cat}, inv b cat → stands b.store cat
  /-- It does so after an operation of the store. -/
  onStore : ∀ {α : Type} {op : Op σ α} {b : DocumentBase σ} {cat other : Catalog}
    {out : Except KnowledgeBaseError α}, inv b cat → Gives stands op b.store out other →
    Gives inv (onStore op) b out other

theorem rests_stands (stands : σ → Catalog → Prop) : Rests stands (Stands stands) where
  store hs := hs
  onStore _ hop := gives_onStore hop

variable [DocumentStore σ] {inv : DocumentBase σ → Catalog → Prop}

/-- A cause that is valid and whose id is not in use is added. -/
theorem gives_add (h : Keeps σ stands) (hr : Rests stands inv) {b : DocumentBase σ}
    {cat : Catalog} (fresh : String) (cause : FailureCause) (hs : inv b cat)
    (hid : (Catalog.entry fresh cause).id ∉ cat.ids) :
    Gives inv (add fresh cause) b
      (if Text.allBlank cause.name then .error (.cause .emptyName)
        else .ok (Catalog.entry fresh cause))
      (cat.perform (.add fresh cause)).2 := by
  by_cases hn : Text.allBlank cause.name = true
  · simp only [hn, if_true, Catalog.perform]
    exact ⟨b, bind_error (checked_error hn b), hs⟩
  · simp only [hn, Catalog.perform]
    obtain ⟨t, hi, hk⟩ := hr.onStore hs (h.insert _ (hr.store hs) hid)
    refine ⟨t, ?_, hk⟩
    rw [add, bind_ok (checked_ok hn b), Catalog.entry_eq, bind_ok hi]
    rfl

/-- A cause that the store refuses to insert is not added. -/
theorem add_of_refused {b : DocumentBase σ} {fresh : String} {cause : FailureCause}
    {e : KnowledgeBaseError} (hn : ¬Text.allBlank cause.name = true)
    (h : DocumentStore.insert (Catalog.entry fresh cause) b.store = .error e b.store) :
    add fresh cause b = .error e b := by
  have hinsert : onStore (DocumentStore.insert (Catalog.entry fresh cause)) b = .error e b := by
    rw [onStore_eq, h]
    rfl
  rw [add, bind_ok (checked_ok hn b), Catalog.entry_eq, bind_error hinsert]

/-- A cause without an id is saved as a new one. -/
theorem save_of_isNew {cause : FailureCause} (hid : cause.id = "") (fresh : String) :
    (save fresh cause : Op (DocumentBase σ) FailureCause) = add fresh cause := by
  simp only [save, Catalog.isNew_eq_true hid, if_true]

/-- A cause with an id is saved in the place of the one of that id, or at the end. -/
theorem gives_save_known (h : Keeps σ stands) (hr : Rests stands inv) {b : DocumentBase σ}
    {cat : Catalog} (fresh : String) (cause : FailureCause) (hs : inv b cat)
    (hid : cause.id ≠ "") (hn : ¬Text.allBlank cause.name = true) :
    Gives inv (save fresh cause) b (.ok cause) (cat.save cause) := by
  have hnew := Catalog.isNew_eq_false hid
  by_cases hc : cause.id ∈ cat.ids
  · obtain ⟨t, hu, hk⟩ := hr.onStore hs (h.update cause (hr.store hs) hc)
    refine ⟨t, ?_, hk⟩
    simp only [save, hnew, Bool.false_eq_true, if_false]
    rw [bind_ok (checked_ok hn b), bind_ok hu]
    rfl
  · obtain ⟨t, hu, hk⟩ := hr.onStore hs (h.update_unknown cause (hr.store hs) hc)
    obtain ⟨t', hi, hk'⟩ := hr.onStore hk (h.insert cause (hr.store hk) hc)
    have hsame : cat.save cause = cat.add cause := by
      simp only [Catalog.save, Catalog.add, hc, dite_false]
    refine ⟨t', ?_, hsame ▸ hk'⟩
    simp only [save, hnew, Bool.false_eq_true, if_false]
    rw [bind_ok (checked_ok hn b), bind_ok hu]
    simp only [Bool.false_eq_true, if_false]
    rw [bind_ok hi]
    rfl

/-- Seeing the causes of some ids one after the other, if seeing one does what the catalog
does. -/
theorem gives_lastSeen {time : UInt64}
    (h : ∀ {b cat} (id : String), inv b cat → ∃ moved,
      Gives inv (onStore (DocumentStore.touch id time)) b (.ok moved) (cat.lastSeen [id] time))
    (ids : List String) {b : DocumentBase σ} {cat : Catalog} (hs : inv b cat) :
    Gives inv (lastSeen ids time) b (.ok ()) (cat.lastSeen ids time) := by
  induction ids generalizing b cat with
  | nil =>
    rw [Catalog.lastSeen_nil]
    exact ⟨b, rfl, hs⟩
  | cons id rest ih =>
    obtain ⟨moved, t, hm, hk⟩ := h id hs
    obtain ⟨t', hr, hk'⟩ := ih hk
    rw [Catalog.lastSeen_cons]
    exact ⟨t', by rw [lastSeen, bind_ok hm, hr], hk'⟩

/-- A knowledge base over a document store that keeps a catalog follows the catalog. -/
theorem follows (h : Keeps σ stands) (hr : Rests stands inv) : Follows (DocumentBase σ) inv where
  get id hs := hr.onStore hs (h.get id (hr.store hs))
  causes hs := hr.onStore hs (h.find (hr.store hs))
  add fresh cause hs hfit := gives_add h hr fresh cause hs hfit
  save {b cat} fresh cause hs hfit := by
    refine gives_save (add fresh cause) hs (fun hid => ⟨save_of_isNew hid fresh, ?_⟩)
      (fun hid hn => ?_) fun hid hn => ?_
    · exact gives_add h hr fresh cause hs (hfit.entry_fresh hid)
    · show save fresh cause b = _
      simp only [save, Catalog.isNew_eq_false hid, Bool.false_eq_true, if_false]
      exact bind_error (checked_error hn b)
    · exact gives_save_known h hr fresh cause hs hid hn
  remove id stone hs := hr.onStore hs (h.tombstone id stone (hr.store hs))
  lastSeen ids time hs ht := gives_lastSeen
    (fun id hs => (h.touch id time (hr.store hs) ht).imp fun _ => hr.onStore hs) ids hs

end DocumentBase

end BuildTriage
