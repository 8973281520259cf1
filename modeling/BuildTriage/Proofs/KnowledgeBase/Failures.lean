import BuildTriage.Proofs.KnowledgeBase.HashStore
import BuildTriage.Proofs.KnowledgeBase.TableStore

/-!
# A change that fails changes nothing

A change of a store can fail before it writes, when it writes, or when it reads what it has
written. In the first two cases nothing is written; tables alone read afterwards, when they
put a tombstone into a text. So every change that fails leaves the store as it was, whatever
its texts are and whichever of them the functions of texts read, except such a tombstone in a
text that is no cause.
-/

namespace BuildTriage

open Json

variable {σ τ α β : Type}

/-- An operation leaves the state as it is, if it fails. -/
def Undone (op : Op σ α) (s : σ) : Prop := ∀ e t, op s = .error e t → t = s

section Undone

variable {op : Op σ α} {s : σ}

/-- What succeeds does not fail. -/
theorem undone_of_ok {a : α} {t : σ} (h : op s = .ok a t) : Undone op s := by
  intro e u hrun
  rw [h] at hrun
  cases hrun

/-- What fails at once changes nothing. -/
theorem undone_of_error {e : KnowledgeBaseError} (h : op s = .error e s) : Undone op s := by
  intro e' t hrun
  rw [h] at hrun
  cases hrun
  rfl

/-- An operation that is undone fails with the state as it was. -/
theorem Undone.outcome {e : KnowledgeBaseError} (h : Undone op s)
    (he : (outcome op s).1 = .error e) : outcome op s = (.error e, s) := by
  unfold BuildTriage.outcome at he ⊢
  cases hop : op s with
  | ok a t => rw [hop] at he; cases he
  | error e' t =>
    rw [hop] at he
    rw [h e' t hop]
    exact congrArg (·, s) he

/-- Where an operation has success, what follows must bring the state back if it fails. -/
theorem Undone.bind {f : α → Op σ β} (h : Undone op s)
    (hf : ∀ a t, op s = .ok a t → ∀ e u, f a t = .error e u → u = s) : Undone (op >>= f) s := by
  intro e u hrun
  cases hop : op s with
  | ok a t =>
    rw [bind_ok hop] at hrun
    exact hf a t hop e u hrun
  | error e' t =>
    rw [bind_error hop] at hrun
    cases hrun
    exact h _ _ hop

/-- After what leaves the state as it is comes what is undone. -/
theorem undone_bind_of_ok {a : α} {f : α → Op σ β} (h : op s = .ok a s) (hf : Undone (f a) s) :
    Undone (op >>= f) s := by
  intro e u hrun
  rw [bind_ok h] at hrun
  exact hf e u hrun

/-- An operation on a part of a larger state. -/
theorem Undone.wrap {large : Op τ α} {f : σ → τ} {t : τ} (h : Undone op s)
    (hop : large t = Backing.wrap f (op s)) (hf : f s = t) : Undone large t := by
  intro e u hrun
  cases hs : op s with
  | ok a v => rw [hop, hs] at hrun; cases hrun
  | error e' v =>
    rw [hop, hs] at hrun
    cases hrun
    rw [h e v hs, hf]

/-- Checking a cause changes nothing. -/
theorem undone_checked (cause : FailureCause) {f : Unit → Op σ α} (hf : Undone (f ()) s) :
    Undone (cause.checked >>= f) s := by
  by_cases hn : Text.allBlank cause.name = true
  · exact undone_of_error (bind_error (checked_error hn s))
  · exact undone_bind_of_ok (checked_ok hn s) hf

end Undone

/-- The changes of a document store leave its state as it is if they fail, and so does a
replacement under an unknown id. A tombstone does so unless it spoils a text. -/
structure Careful [DocumentStore σ] (spoils : String → Tombstone → Prop) (s : σ) : Prop where
  /-- A cause is inserted. -/
  insert : ∀ c, Undone (DocumentStore.insert c) s
  /-- A cause is replaced. -/
  update : ∀ c, Undone (DocumentStore.update c) s
  /-- There is no cause to replace. -/
  update_unknown : ∀ c t, DocumentStore.update c s = .ok false t → t = s
  /-- A tombstone is put on a cause. -/
  tombstone : ∀ id stone, ¬spoils id stone → Undone (DocumentStore.tombstone id stone) s
  /-- A cause is seen. -/
  touch : ∀ id time, Undone (DocumentStore.touch id time) s

namespace CauseTable

variable {t : CauseTable}

variable {f : TextFunctions}

/-- What is refused for its text changes nothing. -/
theorem undone_applied {α β : Type} (given : Option α) {g : α → Op CauseTable β}
    (h : ∀ a, given = some a → Undone (g a) t) : Undone (applied given >>= g) t := by
  cases given with
  | some a => exact undone_bind_of_ok (applied_some a t) (h a rfl)
  | none => exact undone_of_error (e := .query .sqlite .malformedText) (bind_error rfl)

/-- A tombstone in the text of an id makes a text that does not read as a cause. -/
def Spoils (f : TextFunctions) (t : CauseTable) (id : String) (stone : Tombstone) : Prop :=
  ∃ r text fault, t.row? id = some r ∧ f.set r.text "removed" stone.encode = some text ∧
    decodeText FailureCause.decoder text = .error fault

/-- The tables with a removed row of an id, and the given text in it. -/
def bury (t : CauseTable) (id : String) (text : String) : CauseTable :=
  { t with rows := t.rows.map fun r =>
    if r.id = id then { r with removed := true, text := text } else r }

theorem undone_insert (c : FailureCause) : Undone (insert c) t := by
  cases hrow : (t.row? c.id).isSome with
  | true =>
    refine undone_of_error (e := .query .sqlite .duplicateRow) ?_
    rw [insert, bind_ok (get_ok t), hrow]
    rfl
  | false =>
    refine undone_of_ok (t := { t with rows := t.rows ++ [c.row] }) (a := ()) ?_
    rw [insert, bind_ok (get_ok t), hrow]
    rfl

/-- A replacement does not fail. -/
theorem update_ok (c : FailureCause) (t : CauseTable) :
    update c t = if (t.row? c.id).isNone then .ok false t else
      .ok true { t with rows := t.rows.map fun r => if r.id = c.id then c.row else r } := by
  rw [update, bind_ok (get_ok t)]
  cases (t.row? c.id).isNone <;> rfl

/-- A tombstone in a text is what reading the text afterwards gives. -/
theorem tombstone_eq {id : String} {stone : Tombstone} {r : CauseRow} {text : String}
    (hr : t.row? id = some r) (htext : f.set r.text "removed" stone.encode = some text) :
    tombstone f id stone t = (some <$> FailureCause.ofStored text) (t.bury id text) := by
  rw [tombstone, bind_ok (get_ok t), hr]
  simp only [htext]
  rw [bind_ok (applied_some text t), bind_ok (changeRow_ok id _ t)]
  rfl

/-- A tombstone that spoils a text is put into it nevertheless. -/
theorem tombstone_spoiled {id : String} {stone : Tombstone} (h : t.Spoils f id stone) :
    ∃ r text fault, t.row? id = some r ∧ f.set r.text "removed" stone.encode = some text ∧
      tombstone f id stone t = .error (.unreadable fault) (t.bury id text) := by
  obtain ⟨r, text, fault, hr, htext, hfault⟩ := h
  refine ⟨r, text, fault, hr, htext, ?_⟩
  rw [tombstone_eq hr htext, FailureCause.ofStored, hfault]
  rfl

/-- A tombstone that fails changes nothing, unless it spoils a text. -/
theorem undone_tombstone {id : String} {stone : Tombstone} (h : ¬t.Spoils f id stone) :
    Undone (tombstone f id stone) t := by
  cases hr : t.row? id with
  | none => exact undone_bind_of_ok (get_ok t) (by rw [hr]; exact undone_of_ok rfl)
  | some r =>
    cases htext : f.set r.text "removed" stone.encode with
    | none =>
      refine undone_bind_of_ok (get_ok t) ?_
      simp only [hr, htext]
      exact undone_applied none nofun
    | some text =>
      cases hread : decodeText FailureCause.decoder text with
      | error fault => exact absurd ⟨r, text, fault, hr, htext, hread⟩ h
      | ok c =>
        refine undone_of_ok (a := some c) (t := t.bury id text) ?_
        rw [tombstone_eq hr htext, FailureCause.ofStored, hread]
        rfl

theorem undone_touch (id : String) (time : UInt64) : Undone (touch f id time) t := by
  refine undone_bind_of_ok (get_ok t) ?_
  cases t.row? id with
  | none => exact undone_of_ok rfl
  | some r =>
    refine undone_applied _ fun earlier _ => ?_
    cases earlier with
    | false => exact undone_of_ok rfl
    | true =>
      exact undone_applied _ fun text _ => undone_of_ok (bind_ok (changeRow_ok id _ t))

/-- The changes of tables are careful, whatever is in them and whatever their functions of texts
read. -/
theorem careful (f : TextFunctions) (t : CauseTable) :
    @Careful CauseTable (store f) (t.Spoils f) t :=
  let _ := store f
  { insert := undone_insert
    update := fun c e u hrun => by
      simp only [DocumentStore.update, update_ok] at hrun
      split at hrun <;> cases hrun
    update_unknown := fun c u hrun => by
      simp only [DocumentStore.update, update_ok] at hrun
      split at hrun
      · cases hrun; rfl
      · cases hrun
    tombstone := fun _ _ => undone_tombstone
    touch := undone_touch }

end CauseTable

namespace CauseHash

variable {s : CauseHash}

/-- Over a link that is up or down for the whole time, a command changes nothing if it fails. -/
theorem command_steady (h : s.link.failures = []) :
    s.link = ⟨[], false⟩ ∨
      ∀ {α : Type} (f : CauseHash → α × CauseHash),
        command f s = .error (.query .redis .offline) s := by
  obtain ⟨texts, ids, records, failures, down⟩ := s
  simp only at h
  subst h
  cases down with
  | false => exact .inl rfl
  | true => exact .inr fun _ => rfl

theorem undone_insert (h : s.link.failures = []) (c : FailureCause) : Undone (insert c) s := by
  obtain hup | hdown := command_steady h
  · cases hfield : s.texts.lookup c.id with
    | some text => exact undone_of_error (insert_duplicate hup (by rw [hfield]; rfl))
    | none => exact undone_of_ok (insert_new hup hfield)
  · exact undone_of_error (bind_error (hdown _))

/-- A change of a field that fails changes nothing, and neither does one that writes nothing. -/
theorem fieldUpdate_steady (h : s.link.failures = []) (id : String)
    (f : Option String → Edit α) :
    Undone (fieldUpdate id f) s ∧ ∀ t, fieldUpdate id f s = .ok none t → t = s := by
  obtain hup | hdown := command_steady h
  · cases hedit : f (s.texts.lookup id) with
    | write text a =>
      have hrun : fieldUpdate id f s =
          .ok (some a) { s with texts := setField id text s.texts } := by
        rw [fieldUpdate, bind_ok (command_ok hup _)]
        simp only [hedit]
        rfl
      refine ⟨undone_of_ok hrun, fun t ht => ?_⟩
      rw [hrun] at ht
      cases ht
    | keep =>
      have hrun := fieldUpdate_keep id hup hedit
      refine ⟨undone_of_ok hrun, fun t ht => ?_⟩
      rw [hrun] at ht
      cases ht
      rfl
    | unreadable fault =>
      have hrun : fieldUpdate id f s = .error (.unreadable fault) s := by
        rw [fieldUpdate, bind_ok (command_ok hup _)]
        simp only [hedit]
        rfl
      refine ⟨undone_of_error hrun, fun t ht => ?_⟩
      rw [hrun] at ht
      cases ht
  · have hrun : fieldUpdate id f s = .error (.query .redis .offline) s := bind_error (hdown _)
    refine ⟨undone_of_error hrun, fun t ht => ?_⟩
    rw [hrun] at ht
    cases ht

/-- The changes of a key-value store are careful, whatever is in it, over a link that is up or
down for the whole time. No tombstone spoils a text. -/
theorem careful (h : s.link.failures = []) : Careful (fun _ _ => False) s where
  insert := undone_insert h
  update c := (fieldUpdate_steady h _ _).1.bind nofun
  update_unknown c t hrun := by
    simp only [DocumentStore.update, update, bind, EStateM.bind] at hrun
    split at hrun
    · next written u hwritten =>
      cases written with
      | none =>
        cases hrun
        exact (fieldUpdate_steady h _ _).2 _ hwritten
      | some a => cases hrun
    · cases hrun
  tombstone id stone _ := (fieldUpdate_steady h _ _).1
  touch id time := (fieldUpdate_steady h _ _).1.bind nofun

end CauseHash

namespace DocumentBase

variable {spoils : String → Tombstone → Prop} {b : DocumentBase σ}

theorem undone_onStore {op : Op σ α} (h : Undone op b.store) : Undone (onStore op) b :=
  h.wrap (onStore_eq op b) rfl

variable [DocumentStore σ]

theorem undone_add (h : Careful spoils b.store) (fresh : String) (cause : FailureCause) :
    Undone (add fresh cause) b :=
  undone_checked cause ((undone_onStore (h.insert _)).bind nofun)

/-- Saving fails before it changes anything: a cause is inserted only if none was replaced. -/
theorem undone_save (h : Careful spoils b.store) (fresh : String) (cause : FailureCause) :
    Undone (save fresh cause) b := by
  unfold save
  split
  · exact undone_add h fresh cause
  · refine undone_checked cause ?_
    refine (undone_onStore (h.update cause)).bind fun replaced u hrun => ?_
    cases replaced with
    | true => exact nofun
    | false =>
      have hsame : u = b := by
        unfold onStore at hrun
        split at hrun
        · next hupdate => cases hrun; rw [h.update_unknown cause _ hupdate]
        · cases hrun
      rw [hsame]
      exact (undone_onStore (h.insert cause)).bind nofun

theorem undone_remove (h : Careful spoils b.store) {id : String} {stone : Tombstone}
    (hs : ¬spoils id stone) : Undone (CauseStore.remove id stone) b :=
  undone_onStore (h.tombstone id stone hs)

end DocumentBase

/-- The changes of a knowledge base over a document store leave it as it is if they fail; a
removal does so unless it spoils a text. -/
structure CarefulBase [DocumentStore σ] (spoils : String → Tombstone → Prop)
    (b : DocumentBase σ) : Prop where
  /-- A cause is added. -/
  add : ∀ fresh cause, Undone (DocumentBase.add fresh cause) b
  /-- A cause is saved. -/
  save : ∀ fresh cause, Undone (DocumentBase.save fresh cause) b
  /-- A cause is removed. -/
  remove : ∀ id stone, ¬spoils id stone → Undone (CauseStore.remove id stone) b

/-- What a document store undoes when it fails, a knowledge base over it does. -/
theorem Careful.base [DocumentStore σ] {spoils : String → Tombstone → Prop} {b : DocumentBase σ}
    (h : Careful spoils b.store) : CarefulBase spoils b where
  add := DocumentBase.undone_add h
  save := DocumentBase.undone_save h
  remove _ _ := DocumentBase.undone_remove h

/-- The causes are in tables, or in a key-value store over a link that is up or down for the
whole time. -/
def Backing.Steady : Backing → Prop
  | .file _ => False
  | .table _ => True
  | .hash b => b.store.link.failures = []

/-- A tombstone spoils a text in tables. -/
def Backing.Spoils (id : String) (stone : Tombstone) : Backing → Prop
  | .table b => b.store.Spoils .json id stone
  | .file _ | .hash _ => False

/-- What tables and key-value stores undo when it fails, a place where causes are kept does. -/
theorem Backing.undone_run {op : (σ : Type) → [CauseStore σ] → Op σ α} {b : Backing}
    (hb : b.Steady)
    (htable : ∀ t, b = .table t → Undone (op (DocumentBase CauseTable)) t)
    (hhash : ∀ t, b = .hash t → Undone (op (DocumentBase CauseHash)) t) : Undone (run op) b := by
  cases b with
  | file b => exact hb.elim
  | table b => exact (htable b rfl).wrap rfl rfl
  | hash b => exact (hhash b rfl).wrap rfl rfl

namespace KnowledgeBase

variable {k : KnowledgeBase}

/-- A change that fails where the causes are kept is not followed by a refresh, and a refresh
does not fail. -/
theorem undone_change {op : (σ : Type) → [CauseStore σ] → Op σ α}
    (h : Undone (Backing.run op) k.backing) : Undone (change op) k := by
  have hback : Undone (onBacking (Backing.run op)) k := h.wrap rfl rfl
  refine hback.bind fun a t _ e u hrun => ?_
  have hcache : updateCache t = .ok () (t.onCache (·.signal .refresh)).settle := rfl
  rw [bind_ok hcache] at hrun
  cases hrun

/-- A change that fails leaves everything as it was, so that whatever is asked later is answered
as if it had not been tried: over tables with whatever texts, whichever of them their functions
of texts read and whatever these make of them, over a key-value store with whatever texts whose
link is up or down for the whole time, and in a knowledge base over either of them, with a cache
or without one. Only a tombstone in tables is different. If it makes of a stored text one that
does not read as a cause, it fails and the row is removed all the same. -/
theorem failed_changes_undone (f : TextFunctions) (b : DocumentBase CauseTable) (s : CauseHash)
    (k : KnowledgeBase) (fresh : String) (cause : FailureCause) (id : String)
    (stone : Tombstone) :
    (@Careful CauseTable (CauseTable.store f) (b.store.Spoils f) b.store ∧
      @CarefulBase CauseTable (CauseTable.store f) (b.store.Spoils f) b) ∧
    (s.link.failures = [] → Careful (fun _ _ => False) s) ∧
    (k.backing.Steady →
      Undone (add fresh cause) k ∧ Undone (save fresh cause) k ∧
      (¬k.backing.Spoils id stone → Undone (remove id stone) k)) ∧
    (b.store.Spoils f id stone →
      ∃ r text fault, b.store.row? id = some r ∧
        f.set r.text "removed" stone.encode = some text ∧
        CauseTable.tombstone f id stone b.store =
          .error (.unreadable fault) (b.store.bury id text)) := by
  have htable := CauseTable.careful f b.store
  refine ⟨⟨htable, @Careful.base _ (CauseTable.store f) _ b htable⟩, CauseHash.careful,
    fun hk => ?_, CauseTable.tombstone_spoiled⟩
  have hhash : ∀ b, k.backing = .hash b → Careful (fun _ _ => False) b.store := by
    intro b hb
    rw [hb] at hk
    exact CauseHash.careful hk
  refine ⟨?_, ?_, fun hs => ?_⟩
  · exact undone_change (Backing.undone_run hk
      (fun b _ => DocumentBase.undone_add (b.store.careful .json) fresh cause)
      fun b hb => DocumentBase.undone_add (hhash b hb) fresh cause)
  · exact undone_change (Backing.undone_run hk
      (fun b _ => DocumentBase.undone_save (b.store.careful .json) fresh cause)
      fun b hb => DocumentBase.undone_save (hhash b hb) fresh cause)
  · refine undone_change (Backing.undone_run hk (fun b hb => ?_)
      fun b hb => DocumentBase.undone_remove (hhash b hb) not_false)
    rw [hb] at hs
    exact DocumentBase.undone_remove (b.store.careful .json) hs

/-- A key-value store with a text that is no cause refuses to remove it, and stays as it is. -/
theorem failed_changes_undone_unreadable :
    let s : CauseHash := ⟨[("a", "x")], ["a"], [], ⟨[], false⟩⟩
    let k := ofHash s true false
    k.backing.Steady ∧ ¬k.backing.Spoils "a" ⟨"u", 7⟩ ∧
    outcome (remove "a" ⟨"u", 7⟩) k = (.error (.unreadable .malformed), k) := by
  intro s k
  have hsteady : k.backing.Steady := rfl
  have hspoils : ¬k.backing.Spoils "a" ⟨"u", 7⟩ := id
  have hfails : (outcome (remove "a" ⟨"u", 7⟩) k).1 = .error (.unreadable .malformed) := by
    decide +kernel
  obtain ⟨-, -, hchanges, -⟩ :=
    failed_changes_undone .json ⟨⟨[], []⟩, true, false⟩ s k "n" (.named "A" "") "a" ⟨"u", 7⟩
  obtain ⟨-, -, hremove⟩ := hchanges hsteady
  exact ⟨hsteady, hspoils, (hremove hspoils).outcome hfails⟩

/-- A cause in tables that is seen at the time 2^63 no longer reads. Removing it fails since it
does not, just as listing the causes does; but then it is removed, and no longer in the way of a
listing. -/
theorem buried_by_failed_removal :
    let inserted := outcome (add "a" (.named "A" "")) (ofTable .empty false false)
    let seen := outcome (lastSeen ["a"] 9223372036854775808) inserted.2
    let removed := outcome (remove "a" ⟨"u", 7⟩) seen.2
    inserted.1 = .ok { FailureCause.named "A" "" with id := "a" } ∧ seen.1 = .ok () ∧
    (outcome causes seen.2).1 = .error (.unreadable .mismatch) ∧
    removed.1 = .error (.unreadable .mismatch) ∧
    (outcome causes removed.2).1 = .ok [] := by
  decide +kernel

end KnowledgeBase

end BuildTriage
