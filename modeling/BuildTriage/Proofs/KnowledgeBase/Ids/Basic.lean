import BuildTriage.Proofs.KnowledgeBase.Contract

/-!
# Stores that keep ids distinct

A store keeps ids distinct when each of its changes, whether it succeeds or fails half-way,
leaves no two causes with the same id. A knowledge base over a document store does so if the
primitives of the document store do, since an insertion there refuses an id in use. A file
takes any id that it is given to add, and is only asked for one that it spares.
-/

namespace BuildTriage

variable {σ τ α β : Type}

/-- An operation keeps an invariant, whether it succeeds or fails, and where it succeeds its
answer has a property, with the state that it leaves. -/
structure Leaves (inv : σ → Prop) (op : Op σ α) (s : σ) (post : α → σ → Prop) : Prop where
  /-- Where it succeeds. -/
  ok : ∀ a t, op s = .ok a t → inv t ∧ post a t
  /-- Where it fails. -/
  error : ∀ e t, op s = .error e t → inv t

section Leaves

variable {inv : σ → Prop} {s : σ} {op : Op σ α} {post : α → σ → Prop}

/-- What is left by an operation that is known to succeed. -/
theorem leaves_of_ok {a : α} {t : σ} (hrun : op s = .ok a t) (ht : inv t) (h : post a t) :
    Leaves inv op s post where
  ok := by rw [hrun]; rintro _ _ ⟨⟩; exact ⟨ht, h⟩
  error := by rw [hrun]; exact nofun

/-- What is left by an operation that is known to fail. -/
theorem leaves_of_error {e : KnowledgeBaseError} {t : σ} (hrun : op s = .error e t) (ht : inv t) :
    Leaves inv op s post where
  ok := by rw [hrun]; exact nofun
  error := by rw [hrun]; rintro _ _ ⟨⟩; exact ht

theorem leaves_pure {a : α} (hs : inv s) (h : post a s) : Leaves inv (pure a) s post :=
  leaves_of_ok rfl hs h

theorem leaves_throw (e : KnowledgeBaseError) (hs : inv s) :
    Leaves inv (throw e : Op σ α) s post :=
  leaves_of_error rfl hs

theorem leaves_modify {f : σ → σ} {post : Unit → σ → Prop} (hs : inv (f s)) (h : post () (f s)) :
    Leaves inv (modify f) s post :=
  leaves_of_ok rfl hs h

/-- What follows an operation goes on from the state that it leaves. -/
theorem Leaves.bind {mid : α → σ → Prop} {f : α → Op σ β} {post : β → σ → Prop}
    (h : Leaves inv op s mid) (hf : ∀ a t, inv t → mid a t → Leaves inv (f a) t post) :
    Leaves inv (op >>= f) s post := by
  cases hop : op s with
  | ok a t =>
    obtain ⟨ht, hmid⟩ := h.ok a t hop
    have hrun : (op >>= f) s = f a t := by simp only [Bind.bind, EStateM.bind, hop]
    constructor
    · rw [hrun]; exact (hf a t ht hmid).ok
    · rw [hrun]; exact (hf a t ht hmid).error
  | error e t =>
    have hrun : (op >>= f) s = .error e t := by simp only [Bind.bind, EStateM.bind, hop]
    exact leaves_of_error hrun (h.error e t hop)

/-- What an operation leaves is left when its answer is replaced. -/
theorem Leaves.answer {f : α → β} (h : Leaves inv op s post) :
    Leaves inv (op >>= fun a => pure (f a)) s fun _ _ => True :=
  h.bind fun _ _ ht _ => leaves_pure ht trivial

/-- An operation that reads the state first. -/
theorem Leaves.get_bind {f : σ → Op σ α} (h : Leaves inv (f s) s post) :
    Leaves inv (get >>= f) s post := ⟨h.ok, h.error⟩

theorem Leaves.mono {weaker : α → σ → Prop} (h : Leaves inv op s post)
    (hw : ∀ a t, inv t → post a t → weaker a t) : Leaves inv op s weaker where
  ok a t ht := ⟨(h.ok a t ht).1, hw a t (h.ok a t ht).1 (h.ok a t ht).2⟩
  error := h.error

/-- An operation whose answer is mapped. -/
theorem Leaves.map {post : β → σ → Prop} (f : α → β)
    (h : Leaves inv op s fun a t => post (f a) t) : Leaves inv (f <$> op) s post := by
  cases hop : op s with
  | ok a t =>
    have hrun : (f <$> op) s = .ok (f a) t := by simp only [Functor.map, EStateM.map, hop]
    obtain ⟨ht, hpost⟩ := h.ok a t hop
    exact leaves_of_ok hrun ht hpost
  | error e t =>
    have hrun : (f <$> op) s = .error e t := by simp only [Functor.map, EStateM.map, hop]
    exact leaves_of_error hrun (h.error e t hop)

/-- What an operation leaves, whether it succeeds or fails. -/
theorem Leaves.outcome (h : Leaves inv op s post) : inv (outcome op s).2 := by
  unfold BuildTriage.outcome
  cases hop : op s with
  | ok a t => exact (h.ok a t hop).1
  | error e t => exact h.error e t hop

/-- An operation on a part of a larger state. -/
theorem Leaves.wrap {wider : τ → Prop} {large : Op τ α} {f : σ → τ} {t : τ}
    {after : α → τ → Prop} (h : Leaves inv op s post) (hop : large t = Backing.wrap f (op s))
    (hf : ∀ u, inv u → wider (f u)) (hpost : ∀ a u, inv u → post a u → after a (f u)) :
    Leaves wider large t after := by
  cases hrun : op s with
  | ok a u =>
    rw [hrun] at hop
    obtain ⟨hu, hp⟩ := h.ok a u hrun
    exact leaves_of_ok hop (hf u hu) (hpost a u hu hp)
  | error e u =>
    rw [hrun] at hop
    exact leaves_of_error hop (hf u (h.error e u hrun))

/-- Checking a cause changes nothing. -/
theorem leaves_checked (cause : FailureCause) (hs : inv s) :
    Leaves inv (cause.checked : Op σ Unit) s fun _ t => t = s := by
  unfold FailureCause.checked
  split
  · exact leaves_pure hs rfl
  · exact leaves_throw _ hs

end Leaves

/-- One more element, which is not there yet, leaves the elements distinct. -/
theorem nodup_extend {l : List α} {a : α} (h : l.Nodup) (ha : a ∉ l) : (l ++ [a]).Nodup := by
  rw [List.nodup_append]
  refine ⟨h, by simp, ?_⟩
  rintro b hb other hother rfl
  rw [List.mem_singleton] at hother
  exact ha (hother ▸ hb)

/-- One more row with another key leaves the keys distinct. -/
theorem nodup_map_extend {key : α → β} {rows : List α} {r : α} (h : (rows.map key).Nodup)
    (hr : key r ∉ rows.map key) : ((rows ++ [r]).map key).Nodup := by
  rw [List.map_append]
  exact nodup_extend h hr

/-- No listing names a cause of an id. -/
def Unlisted [CauseStore σ] (id : String) (s : σ) : Prop :=
  ∀ causes t, CauseStore.causes s = .ok causes t → ∀ c ∈ causes, c.id ≠ id

/-- A store keeps ids distinct, as long as what is added has an id that it spares. -/
structure KeepsDistinct (σ : Type) [CauseStore σ] (inv : σ → Prop) (ids : σ → List String)
    (spares : σ → String → Prop) : Prop where
  /-- No two causes have the same id. -/
  distinct : ∀ {s}, inv s → (ids s).Nodup
  /-- No two causes that are listed have the same id. -/
  causes : ∀ {s}, inv s → Leaves inv CauseStore.causes s fun cs _ => (cs.map (·.id)).Nodup
  /-- A cause that is added is there afterwards. -/
  add : ∀ {s} (fresh : String) (cause : FailureCause), inv s →
    spares s (cause.identified fresh).id →
    Leaves inv (CauseStore.add fresh cause) s fun _ t => (cause.identified fresh).id ∈ ids t
  /-- A cause that is saved is there afterwards. -/
  save : ∀ {s} (fresh : String) (cause : FailureCause), inv s →
    (cause.isNew = true → spares s fresh) →
    Leaves inv (CauseStore.save fresh cause) s fun _ t => (cause.identified fresh).id ∈ ids t
  /-- A cause that is removed is not listed afterwards. -/
  remove : ∀ {s} (id : String) (stone : Tombstone), inv s →
    Leaves inv (CauseStore.remove id stone) s fun found t => found.isSome = true → Unlisted id t
  /-- Causes are seen. -/
  lastSeen : ∀ {s} (seen : List String) (time : UInt64), inv s →
    Leaves inv (CauseStore.lastSeen seen time) s fun _ _ => True

/-- A document store keeps ids distinct by itself. -/
structure StoresDistinct (σ : Type) [DocumentStore σ] (inv : σ → Prop) (ids : σ → List String) :
    Prop where
  /-- No two causes have the same id. -/
  distinct : ∀ {s}, inv s → (ids s).Nodup
  /-- No two causes that are found have the same id. -/
  find : ∀ {s}, inv s → Leaves inv (DocumentStore.find .live) s fun cs _ => (cs.map (·.id)).Nodup
  /-- A cause that is inserted is there afterwards. -/
  insert : ∀ {s} (c : FailureCause), inv s →
    Leaves inv (DocumentStore.insert c) s fun _ t => c.id ∈ ids t
  /-- A cause that is replaced is there afterwards. -/
  update : ∀ {s} (c : FailureCause), inv s →
    Leaves inv (DocumentStore.update c) s fun replaced t => replaced = true → c.id ∈ ids t
  /-- A cause that is buried is not found among the live ones afterwards. -/
  tombstone : ∀ {s} (id : String) (stone : Tombstone), inv s →
    Leaves inv (DocumentStore.tombstone id stone) s fun found t => found.isSome = true →
      ∀ causes u, DocumentStore.find .live t = .ok causes u → ∀ c ∈ causes, c.id ≠ id
  /-- A cause is seen. -/
  touch : ∀ {s} (id : String) (time : UInt64), inv s →
    Leaves inv (DocumentStore.touch id time) s fun _ _ => True

namespace DocumentBase

variable {inv : σ → Prop} {ids : σ → List String}

/-- The invariant of the store of a knowledge base. -/
def Holds (inv : σ → Prop) (b : DocumentBase σ) : Prop := inv b.store

/-- An operation of the store. -/
theorem leaves_onStore {op : Op σ α} {b : DocumentBase σ} {post : α → σ → Prop}
    (h : Leaves inv op b.store post) :
    Leaves (Holds inv) (onStore op) b fun a t => post a t.store :=
  h.wrap (onStore_eq op b) (fun _ hs => hs) fun _ _ _ hp => hp

variable [DocumentStore σ]

/-- What is added to a document store is there afterwards. -/
theorem leaves_add (h : StoresDistinct σ inv ids) (fresh : String) (cause : FailureCause)
    {b : DocumentBase σ} (hb : Holds inv b) :
    Leaves (Holds inv) (add fresh cause) b
      fun _ t => (cause.identified fresh).id ∈ ids t.store := by
  refine (leaves_checked cause hb).bind ?_
  rintro _ _ hb rfl
  exact (leaves_onStore (h.insert _ hb)).bind fun _ _ ht hin => leaves_pure ht hin

/-- What is saved in a document store is there afterwards. -/
theorem leaves_save (h : StoresDistinct σ inv ids) (fresh : String) (cause : FailureCause)
    {b : DocumentBase σ} (hb : Holds inv b) :
    Leaves (Holds inv) (save fresh cause) b
      fun _ t => (cause.identified fresh).id ∈ ids t.store := by
  unfold save
  by_cases hnew : cause.isNew = true
  · rw [if_pos hnew]
    exact leaves_add h fresh cause hb
  · have hid : cause.identified fresh = cause := if_neg hnew
    rw [if_neg hnew, hid]
    refine (leaves_checked cause hb).bind ?_
    rintro _ _ hb rfl
    refine (leaves_onStore (h.update cause hb)).bind fun replaced t ht hreplaced => ?_
    cases replaced with
    | true => exact leaves_pure ht (hreplaced rfl)
    | false =>
      exact (leaves_onStore (h.insert cause ht)).bind fun _ _ ht hin => leaves_pure ht hin

/-- A knowledge base over a document store keeps ids distinct, whatever is added. -/
theorem keepsDistinct (h : StoresDistinct σ inv ids) :
    KeepsDistinct (DocumentBase σ) (Holds inv) (fun b => ids b.store) fun _ _ => True where
  distinct hb := h.distinct hb
  causes hb := leaves_onStore (h.find hb)
  add fresh cause hb _ := leaves_add h fresh cause hb
  save fresh cause hb _ := leaves_save h fresh cause hb
  remove id stone hb := by
    refine (leaves_onStore (h.tombstone id stone hb)).mono ?_
    intro found t _ hfind hfound causes u hu
    refine hfind hfound causes u.store ?_
    change onStore (DocumentStore.find .live) t = .ok causes u at hu
    unfold onStore at hu
    cases hrun : (DocumentStore.find .live : Op σ _) t.store with
    | ok cs v => rw [hrun] at hu; cases hu; rfl
    | error e v => rw [hrun] at hu; exact absurd hu nofun
  lastSeen {b} seen time hb := by
    change Leaves _ (lastSeen seen time) _ _
    induction seen generalizing b with
    | nil => exact leaves_pure hb trivial
    | cons id rest ih =>
      exact (leaves_onStore (h.touch id time hb)).bind fun _ _ ht _ => ih ht

end DocumentBase

end BuildTriage
