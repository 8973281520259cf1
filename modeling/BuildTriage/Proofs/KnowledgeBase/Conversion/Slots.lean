import BuildTriage.Proofs.KnowledgeBase.Cache.Serving
import BuildTriage.Proofs.KnowledgeBase.Failures
import BuildTriage.Proofs.KnowledgeBase.FailedWrites

/-!
# What is stored under an id

A file has a cause under an id, tables have a row and a key-value store has a text. Saving a
cause with success, whatever the place has and whatever fails later, puts the cause under its
id and leaves all other ids as they are. What is found under an id depends on nothing else.
-/

namespace BuildTriage

open Json

variable {σ τ α : Type}

/-- Where an operation succeeds, its answer has a property, with the state that it leaves. -/
abbrev Grants (op : Op σ α) (s : σ) (post : α → σ → Prop) : Prop :=
  Leaves (fun _ => True) op s post

/-- What a place has under an id. -/
inductive Slot where
  /-- A cause in memory. -/
  | cause (c : FailureCause)
  /-- A row of tables. -/
  | row (r : CauseRow)
  /-- A field of a key-value store. -/
  | text (t : String)

/-- A stored text is read as a cause. -/
def readText (text : String) : Except KnowledgeBaseError (Option FailureCause) :=
  match decodeText FailureCause.decoder text with
  | .ok c => .ok (some c)
  | .error fault => .error (.unreadable fault)

/-- What is found in a slot, or where there is none. -/
def Slot.read : Option Slot → Except KnowledgeBaseError (Option FailureCause)
  | none => .ok none
  | some (.cause c) => .ok (some c)
  | some (.row r) => readText r.text
  | some (.text t) => readText t

/-- The slots with a cause put under its id. -/
def enter (hold : FailureCause → Slot) (slots : String → Option Slot) (c : FailureCause) :
    String → Option Slot := Function.update slots c.id (some (hold c))

theorem enter_self (hold : FailureCause → Slot) (slots : String → Option Slot)
    (c : FailureCause) : enter hold slots c c.id = some (hold c) := Function.update_self ..

theorem enter_other (hold : FailureCause → Slot) (slots : String → Option Slot)
    {c : FailureCause} {id : String} (h : id ≠ c.id) : enter hold slots c id = slots id :=
  Function.update_of_ne h ..

namespace CauseFile

/-- What a file has under an id: the first cause of the id. -/
def slot (s : CauseFile) (id : String) : Option Slot := (find? id s.causes).map .cause

/-- A change with success changes the causes. -/
theorem grants_change (f : List FailureCause → List FailureCause) (s : CauseFile) :
    Grants (change f) s fun _ t => t.causes = f s.causes := by
  refine ⟨fun _ t hrun => ⟨trivial, ?_⟩, fun _ _ _ => trivial⟩
  have hput := outcome_change f s
  have hleft : t = (put () (f s.causes) s.disk).2 := by rw [← hput, outcome, hrun]
  rw [hleft]
  cases s.disk with
  | none => rfl
  | some d =>
    simp only [put]
    cases d.write (textOf (f s.causes)) with
    | mk written failure => cases failure <;> rfl

/-- Replacing the first cause of an id in use. -/
theorem find?_updateFirst {c : FailureCause} {causes : List FailureCause}
    (h : (find? c.id causes).isSome = true) (id : String) :
    find? id (updateFirst c.id (fun _ => c) causes) =
      if id = c.id then some c else find? id causes := by
  unfold find? at h ⊢
  induction causes with
  | nil => exact absurd h (by simp)
  | cons d rest ih =>
    by_cases hd : d.id = c.id
    · simp only [updateFirst, hd, if_true, List.find?_cons]
      by_cases hid : id = c.id
      · simp [hid]
      · have hne : (c.id == id) = false := beq_eq_false_iff_ne.mpr (Ne.symm hid)
        simp only [hne, hid, if_false]
    · have hne : (d.id == c.id) = false := beq_eq_false_iff_ne.mpr hd
      rw [List.find?_cons, hne] at h
      simp only [updateFirst, hd, if_false, List.find?_cons]
      by_cases hid : d.id = id
      · have hother : ¬id = c.id := fun he => hd (hid.trans he)
        simp [hid, hother]
      · have hrow : (d.id == id) = false := beq_eq_false_iff_ne.mpr hid
        simp only [hrow]
        exact ih h

/-- A cause at the end, under an id that is not in use. -/
theorem find?_append {c : FailureCause} {causes : List FailureCause}
    (h : find? c.id causes = none) (id : String) :
    find? id (causes ++ [c]) = if id = c.id then some c else find? id causes := by
  unfold find? at h ⊢
  rw [List.find?_append]
  by_cases hid : id = c.id
  · rw [hid, h]
    simp
  · have hne : (c.id == id) = false := beq_eq_false_iff_ne.mpr (Ne.symm hid)
    simp [hne, hid]

theorem slot_eq_enter {s t : CauseFile} {c : FailureCause}
    (h : ∀ id, find? id t.causes = if id = c.id then some c else find? id s.causes) :
    slot t = enter .cause (slot s) c := by
  funext id
  by_cases hid : id = c.id
  · rw [hid, enter_self, slot, h, if_pos rfl, Option.map_some]
  · rw [enter_other _ _ hid, slot, slot, h, if_neg hid]

/-- A cause that is put at the end is found under its id, if that was not in use. -/
theorem grants_append {s : CauseFile} {c : FailureCause} (h : find? c.id s.causes = none) :
    Grants (change (· ++ [c])) s fun _ t => slot t = enter .cause (slot s) c :=
  (grants_change _ s).mono fun _ t _ ht => slot_eq_enter fun id => by rw [ht, find?_append h]

theorem grants_add {s : CauseFile} (fresh : String) (c : FailureCause)
    (h : s.Spares (c.identified fresh).id) :
    Grants (add fresh c) s fun a t =>
      a = c.identified fresh ∧ slot t = enter .cause (slot s) a := by
  have hnone : find? (c.identified fresh).id s.causes = none := by
    refine List.find?_eq_none.mpr fun d hd => ?_
    intro hid
    exact h (List.mem_map.mpr ⟨d, hd, beq_iff_eq.mp hid⟩)
  refine (leaves_checked c trivial).bind ?_
  rintro _ _ _ rfl
  exact (grants_append hnone).bind fun _ _ ht hslot => leaves_pure ht ⟨rfl, hslot⟩

/-- A cause that is saved is found under its id; a new one needs an id that is not in use. -/
theorem grants_save {s : CauseFile} (fresh : String) (c : FailureCause)
    (h : c.isNew = true → s.Spares fresh) :
    Grants (save fresh c) s fun a t =>
      a = c.identified fresh ∧ slot t = enter .cause (slot s) a := by
  unfold save
  by_cases hnew : c.isNew = true
  · have hid : (c.identified fresh).id = fresh := by rw [FailureCause.identified, if_pos hnew]
    rw [if_pos hnew]
    exact grants_add fresh c (by rw [hid]; exact h hnew)
  · have hown : c.identified fresh = c := if_neg hnew
    rw [if_neg hnew, hown]
    refine (leaves_checked c trivial).bind ?_
    rintro _ t _ rfl
    refine Leaves.get_bind ?_
    cases hfind : find? c.id t.causes with
    | none => exact (grants_append hfind).bind fun _ _ hu hslot => leaves_pure hu ⟨rfl, hslot⟩
    | some old =>
      refine (grants_change _ t).bind fun _ u hu hcauses => leaves_pure hu ⟨rfl, ?_⟩
      refine slot_eq_enter fun id => ?_
      rw [hcauses, find?_updateFirst (by rw [hfind]; rfl)]

end CauseFile

/-- The changes of a document store put a cause under its id, if they succeed; a replacement
under an unknown id changes nothing. -/
structure Slotted (σ : Type) [DocumentStore σ] (slot : σ → String → Option Slot)
    (hold : FailureCause → Slot) : Prop where
  /-- A cause is inserted. -/
  insert : ∀ c s, Grants (DocumentStore.insert c) s fun _ t => slot t = enter hold (slot s) c
  /-- A cause is replaced. -/
  update : ∀ c s, Grants (DocumentStore.update c) s fun replaced t =>
    slot t = if replaced then enter hold (slot s) c else slot s

namespace CauseTable

/-- What tables have under an id: the first row of the id. -/
def slot (t : CauseTable) (id : String) : Option Slot := (t.row? id).map .row

theorem slot_eq_enter {t u : CauseTable} {c : FailureCause}
    (h : ∀ id, u.row? id = if id = c.id then some c.row else t.row? id) :
    slot u = enter (fun c => .row c.row) (slot t) c := by
  funext id
  by_cases hid : id = c.id
  · rw [hid, enter_self, slot, h, if_pos rfl, Option.map_some]
  · rw [enter_other _ _ hid, slot, slot, h, if_neg hid]

theorem grants_insert (c : FailureCause) (t : CauseTable) :
    Grants (insert c) t fun _ u => slot u = enter (fun c => .row c.row) (slot t) c := by
  unfold insert
  refine Leaves.get_bind ?_
  cases hrow : t.row? c.id with
  | some r => exact leaves_throw _ trivial
  | none =>
    refine leaves_modify trivial (slot_eq_enter fun id => ?_)
    unfold row? at hrow ⊢
    rw [List.find?_append]
    by_cases hid : id = c.id
    · rw [hid, hrow]
      simp [FailureCause.row]
    · have hne : (c.row.id == id) = false := beq_eq_false_iff_ne.mpr (Ne.symm hid)
      simp [hne, hid]

/-- Replacing the rows of an id in use. -/
theorem find?_replaced {rows : List CauseRow} {c : FailureCause}
    (h : (rows.find? (·.id == c.id)).isNone = false) (id : String) :
    (rows.map fun r => if r.id = c.id then c.row else r).find? (·.id == id) =
      if id = c.id then some c.row else rows.find? (·.id == id) := by
  have hkeep : ∀ r : CauseRow, (if r.id = c.id then c.row else r).id = r.id := by
    intro r
    split
    · next hr => exact hr.symm
    · rfl
  simp only [List.find?_map, Function.comp_def, hkeep]
  cases hrow : rows.find? (·.id == id) with
  | none =>
    have hother : ¬id = c.id := by
      rintro rfl
      rw [hrow] at h
      cases h
    rw [if_neg hother, Option.map_none]
  | some r =>
    have hid := List.find?_some hrow
    rw [beq_iff_eq] at hid
    rw [Option.map_some, hid]
    split
    · rfl
    · rfl

theorem grants_update (c : FailureCause) (t : CauseTable) :
    Grants (update c) t fun replaced u =>
      slot u = if replaced then enter (fun c => .row c.row) (slot t) c else slot t := by
  constructor
  · intro replaced u hrun
    rw [update_ok] at hrun
    refine ⟨trivial, ?_⟩
    cases hrow : (t.row? c.id).isNone with
    | true =>
      rw [hrow] at hrun
      cases hrun
      rfl
    | false =>
      rw [hrow] at hrun
      cases hrun
      exact slot_eq_enter fun id => find?_replaced hrow id
  · exact fun _ _ _ => trivial

theorem slotted : Slotted CauseTable slot fun c => .row c.row := ⟨grants_insert, grants_update⟩

/-- What is asked for by an id is what is found in its row. -/
theorem outcome_getCause (t : CauseTable) (id : String) :
    outcome (getCause id) t = (Slot.read (t.slot id), t) := by
  unfold outcome slot
  rw [getCause, bind_ok (get_ok t)]
  cases t.row? id with
  | none => rfl
  | some r =>
    simp only [Option.map_some, Slot.read, readText, FailureCause.ofStored]
    cases decodeText FailureCause.decoder r.text <;> rfl

end CauseTable

namespace CauseHash

/-- What a key-value store has under an id: its field. -/
def slot (s : CauseHash) (id : String) : Option Slot := (s.texts.lookup id).map .text

theorem slot_eq_enter {s t : CauseHash} {c : FailureCause}
    (h : t.texts = setField c.id c.stored s.texts) :
    slot t = enter (fun c => .text c.stored) (slot s) c := by
  funext id
  by_cases hid : id = c.id
  · rw [hid, enter_self, slot, h, lookup_setField, if_pos rfl, Option.map_some]
  · rw [enter_other _ _ hid, slot, slot, h, lookup_setField, if_neg hid]

theorem grants_insert (c : FailureCause) (s : CauseHash) :
    Grants (insert c) s fun _ t => slot t = enter (fun c => .text c.stored) (slot s) c :=
  (leaves_insertion c (fun _ => trivial) (fun _ _ => trivial) fun _ _ => trivial).mono
    fun _ _ _ htexts => slot_eq_enter htexts

theorem grants_update (c : FailureCause) (s : CauseHash) :
    Grants (update c) s fun replaced t =>
      slot t = if replaced then enter (fun c => .text c.stored) (slot s) c else slot s := by
  unfold update
  refine (leaves_fieldUpdate (fun _ => trivial) fun _ _ _ _ => trivial).bind
    fun written t ht ⟨hwritten, hkept⟩ => leaves_pure ht ?_
  cases written with
  | some a =>
    obtain ⟨text, hedit, htexts⟩ := hwritten a rfl
    have htext : text = c.stored := by
      split at hedit
      · exact (Edit.write.inj hedit).1.symm
      · cases hedit
    exact slot_eq_enter (htext ▸ htexts)
  | none =>
    funext id
    exact congrArg (fun texts => (List.lookup id texts).map Slot.text) (hkept rfl)

theorem slotted : Slotted CauseHash slot fun c => .text c.stored := ⟨grants_insert, grants_update⟩

/-- What is asked for by an id is what is found in its field. -/
theorem outcome_getCause (s : CauseHash) (id : String) :
    outcome (getCause id) s.mended = (Slot.read (s.slot id), s.mended) := by
  have hfield : fieldGet id s.mended = .ok (s.texts.lookup id) s.mended := command_ok rfl _
  unfold outcome slot
  rw [getCause, bind_ok hfield]
  cases s.texts.lookup id with
  | none => rfl
  | some text =>
    simp only [Option.map_some, Slot.read, readText, FailureCause.ofStored]
    cases decodeText FailureCause.decoder text <;> rfl

end CauseHash

namespace DocumentBase

variable {slot : σ → String → Option Slot} {hold : FailureCause → Slot} {b : DocumentBase σ}

theorem grants_onStore {op : Op σ α} {post : α → σ → Prop} (h : Grants op b.store post) :
    Grants (onStore op) b fun a t => post a t.store :=
  leaves_onStore h

/-- What an operation of the store comes to. -/
theorem outcome_onStore {op : Op σ α} {b : DocumentBase σ} {s : σ}
    {out : Except KnowledgeBaseError α} (h : outcome op s = (out, s)) :
    outcome (onStore op) { b with store := s } = (out, { b with store := s }) := by
  unfold outcome onStore at *
  cases hop : op s with
  | ok a t => rw [hop] at h; cases h; rfl
  | error e t => rw [hop] at h; cases h; rfl

variable [DocumentStore σ]

theorem grants_add (h : Slotted σ slot hold) (fresh : String) (c : FailureCause) :
    Grants (add fresh c) b fun a t =>
      a = c.identified fresh ∧ slot t.store = enter hold (slot b.store) a := by
  refine (leaves_checked c trivial).bind ?_
  rintro _ _ _ rfl
  exact (grants_onStore (h.insert _ _)).bind fun _ _ ht hslot => leaves_pure ht ⟨rfl, hslot⟩

/-- A cause that is saved in a document store is under its id. -/
theorem grants_save (h : Slotted σ slot hold) (fresh : String) (c : FailureCause) :
    Grants (save fresh c) b fun a t =>
      a = c.identified fresh ∧ slot t.store = enter hold (slot b.store) a := by
  unfold save
  by_cases hnew : c.isNew = true
  · rw [if_pos hnew]
    exact grants_add h fresh c
  · have hown : c.identified fresh = c := if_neg hnew
    rw [if_neg hnew, hown]
    refine (leaves_checked c trivial).bind ?_
    rintro _ b _ rfl
    refine (grants_onStore (h.update c b.store)).bind fun replaced t ht hslot => ?_
    cases replaced with
    | true => exact leaves_pure ht ⟨rfl, hslot⟩
    | false =>
      refine (grants_onStore (h.insert c t.store)).bind fun _ u hu hinserted => ?_
      exact leaves_pure hu ⟨rfl, by rw [hinserted, hslot]; rfl⟩

end DocumentBase

namespace Backing

/-- What a place has under an id. -/
def slot : Backing → String → Option Slot
  | .file b => b.slot
  | .table b => b.store.slot
  | .hash b => b.store.slot

/-- How a place holds a cause. -/
def hold : Backing → FailureCause → Slot
  | .file _, c => .cause c
  | .table _, c => .row c.row
  | .hash _, c => .text c.stored

/-- A cause that is held is found. -/
theorem read_hold (b : Backing) (c : FailureCause) :
    Slot.read (some (b.hold c)) = .ok (some c) := by
  have hstored : readText c.stored = .ok (some c) := by
    rw [readText, FailureCause.decodeText_stored]
  cases b with
  | file b => rfl
  | table b => exact hstored
  | hash b => exact hstored

/-- A cause that is saved is under its id, and nothing else changes; a new one needs an id that
the place spares. -/
theorem grants_save {b : Backing} (fresh : String) (c : FailureCause)
    (h : b.OnFile → c.isNew = true → b.Spares fresh) :
    Grants (run fun _ => CauseStore.save fresh c) b fun a t =>
      a = c.identified fresh ∧ t.slot = enter b.hold b.slot a ∧ t.hold = b.hold ∧
        (t.OnFile → b.OnFile) := by
  cases b with
  | file b =>
    exact (CauseFile.grants_save fresh c (h trivial)).wrap rfl (fun _ _ => trivial)
      fun _ _ _ hp => ⟨hp.1, hp.2, rfl, id⟩
  | table b =>
    exact (DocumentBase.grants_save CauseTable.slotted fresh c).wrap rfl (fun _ _ => trivial)
      fun _ _ _ hp => ⟨hp.1, hp.2, rfl, id⟩
  | hash b =>
    exact (DocumentBase.grants_save CauseHash.slotted fresh c).wrap rfl (fun _ _ => trivial)
      fun _ _ _ hp => ⟨hp.1, hp.2, rfl, id⟩

/-- What an operation comes to as one on a larger state. -/
theorem wrap_outcome {op : Op σ α} {large : Op τ α} {s t : σ}
    {out : Except KnowledgeBaseError α} (into : σ → τ)
    (hop : large (into s) = wrap into (op s)) (h : outcome op s = (out, t)) :
    outcome large (into s) = (out, into t) := by
  unfold outcome at *
  rw [hop]
  cases hrun : op s with
  | ok a u => rw [hrun] at h; cases h; rfl
  | error e u => rw [hrun] at h; cases h; rfl

variable {b : Backing}

/-- What is asked for by an id is what is found in its slot, over a link that does not fail. -/
theorem get_mended (b : Backing) (id : String) :
    outcome (get id) b.mended = (Slot.read (b.slot id), b.mended) := by
  cases b with
  | file b =>
    have hfound : Slot.read ((CauseFile.find? id b.causes).map .cause) =
        .ok (CauseFile.find? id b.causes) := by
      cases CauseFile.find? id b.causes <;> rfl
    exact Prod.ext hfound.symm rfl
  | table b =>
    exact wrap_outcome table rfl (DocumentBase.outcome_onStore (b.store.outcome_getCause id))
  | hash b =>
    exact wrap_outcome hash rfl (DocumentBase.outcome_onStore (b.store.outcome_getCause id))

/-- The link has no part in what is stored. -/
theorem same_of_mended {b' : Backing} (h : b.mended = b'.mended) :
    b.slot = b'.slot ∧ b.hold = b'.hold ∧ (b.OnFile → b'.OnFile) := by
  have hmended : ∀ b : Backing, b.slot = b.mended.slot ∧ b.hold = b.mended.hold ∧
      (b.OnFile ↔ b.mended.OnFile) := by
    intro b
    cases b <;> exact ⟨rfl, rfl, Iff.rfl⟩
  obtain ⟨hslot, hhold, hfile⟩ := hmended b
  obtain ⟨hslot', hhold', hfile'⟩ := hmended b'
  exact ⟨by rw [hslot, hslot', h], by rw [hhold, hhold', h], fun hb => hfile'.mpr (h ▸ hfile.mp hb)⟩

end Backing

namespace KnowledgeBase

variable {k : KnowledgeBase}

/-- Whatever the updater of a cache does next, it reads. -/
theorem mended_of_move {next : KnowledgeBase} (h : k.move? = some next) :
    next.backing.mended = k.backing.mended := by
  unfold move? at h
  split at h
  · exact absurd h nofun
  · split at h
    · rw [fetch_eq] at h
      cases hvisit : Backing.visit k.backing with
      | ok s b =>
        rw [hvisit] at h
        rw [← Option.some.inj h]
        exact (Backing.reads_visit.ok s b hvisit).2
      | error e b =>
        rw [hvisit] at h
        rw [← Option.some.inj h]
        exact Backing.reads_visit.error e b hvisit
    · obtain ⟨u, -, rfl⟩ := Option.map_eq_some_iff.mp h
      rfl

theorem mended_settleWithin (n : Nat) : (k.settleWithin n).backing.mended = k.backing.mended := by
  induction n generalizing k with
  | zero => rfl
  | succ n ih =>
    rw [settleWithin]
    split
    · next next hm => rw [ih, mended_of_move hm]
    · rfl

/-- A refresh of the cache only reads, and does not fail. -/
theorem grants_updateCache :
    Grants updateCache k fun _ t => t.backing.mended = k.backing.mended := by
  refine leaves_modify trivial ?_
  exact mended_settleWithin (k := k.onCache (·.signal .refresh)) _

/-- A cause that is saved is under its id, and nothing else changes, whether there is a cache
or not; a new one needs an id that the place spares. -/
theorem grants_save (fresh : String) (c : FailureCause)
    (h : k.backing.OnFile → c.isNew = true → k.backing.Spares fresh) :
    Grants (save fresh c) k fun a t => a = c.identified fresh ∧
      t.backing.slot = enter k.backing.hold k.backing.slot a ∧ t.backing.hold = k.backing.hold ∧
      (t.backing.OnFile → k.backing.OnFile) := by
  have hback : Grants (onBacking (Backing.run fun _ => CauseStore.save fresh c)) k fun a t =>
      a = c.identified fresh ∧ t.backing.slot = enter k.backing.hold k.backing.slot a ∧
      t.backing.hold = k.backing.hold ∧ (t.backing.OnFile → k.backing.OnFile) :=
    (Backing.grants_save fresh c h).wrap rfl (fun _ _ => trivial) fun _ _ _ hp => hp
  refine hback.bind fun a t _ ⟨ha, hslot, hhold, hfile⟩ => ?_
  refine grants_updateCache.bind fun _ u hu hmended => leaves_pure hu ?_
  obtain ⟨hslot', hhold', hfile'⟩ := Backing.same_of_mended hmended
  exact ⟨ha, hslot'.trans hslot, hhold'.trans hhold, fun hb => hfile (hfile' hb)⟩

/-- What is found under an id, over a link that does not fail. -/
def found (k : KnowledgeBase) (id : String) : Except KnowledgeBaseError (Option FailureCause) :=
  (outcome (Backing.get id) k.backing.mended).1

theorem found_eq (k : KnowledgeBase) (id : String) :
    k.found id = Slot.read (k.backing.slot id) := by rw [found, Backing.get_mended]

end KnowledgeBase

end BuildTriage
