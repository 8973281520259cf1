import BuildTriage.Proofs.KnowledgeBase.Conversion.Slots
import BuildTriage.Proofs.KnowledgeBase.Recording
import BuildTriage.Proofs.KnowledgeBase.Reopening

/-!
# Saving into a place that lists its causes

A place lists some causes in order: all of a file, the rows of tables, or the causes whose ids
a key-value store has in its list. A text that is in no list, since adding it has failed
half-way, is under its id all the same. As long as nothing fails, a cause that is saved takes
the place of the listed one of its id, or comes last; under an id that is known and not listed
it stays out of the list. Saving it once more changes nothing at all.
-/

namespace BuildTriage

/-- Some causes once another is saved: it takes its place, or comes last unless its id is known
without one. -/
def filed (all : List FailureCause) (known : Bool) (c : FailureCause) : List FailureCause :=
  if c.id ∈ all.map (·.id) then all.map (Catalog.replacement c)
  else if known then all
  else all ++ [c]

/-- A cause that takes the place of others keeps the ids. -/
theorem map_id_replacement (all : List FailureCause) (c : FailureCause) :
    (all.map (Catalog.replacement c)).map (·.id) = all.map (·.id) := by
  rw [List.map_map]
  refine List.map_congr_left fun d _ => ?_
  simp only [Function.comp_apply, Catalog.replacement]
  split
  · next hd => exact hd.symm
  · rfl

/-- A cause that is saved keeps the ids distinct. -/
theorem nodup_filed {all : List FailureCause} (h : (all.map (·.id)).Nodup) (known : Bool)
    (c : FailureCause) : ((filed all known c).map (·.id)).Nodup := by
  unfold filed
  split
  · rw [map_id_replacement]
    exact h
  · next hid =>
    split
    · exact h
    · exact nodup_map_extend h hid

/-- Of the causes that are listed once another is saved, that one alone may have its id. -/
theorem mem_filed {all : List FailureCause} {known : Bool} {c d : FailureCause}
    (h : d ∈ filed all known c) : d = c ∨ d ∈ all ∧ d.id ≠ c.id := by
  unfold filed at h
  split at h
  · obtain ⟨old, hold, rfl⟩ := List.mem_map.mp h
    unfold Catalog.replacement
    split
    · exact .inl rfl
    · next hne => exact .inr ⟨hold, hne⟩
  · next hnew =>
    have hother : d ∈ all → d.id ≠ c.id := fun hd he => hnew (he ▸ List.mem_map_of_mem hd)
    split at h
    · exact .inr ⟨h, hother h⟩
    · obtain hd | hd := List.mem_append.mp h
      · exact .inr ⟨hd, hother hd⟩
      · exact .inl (List.mem_singleton.mp hd)

/-- A catalog files a cause, of which no id is known that is not in use. -/
theorem Catalog.causes_save {cat : Catalog} {known : Bool} {c : FailureCause}
    (h : known = true → c.id ∈ cat.ids) : (cat.save c).causes = filed cat.causes known c := by
  unfold Catalog.save filed
  by_cases hid : c.id ∈ cat.ids
  · rw [dif_pos hid, if_pos (by exact hid)]
    rfl
  · rw [dif_neg hid, if_neg (by exact hid), if_neg fun hknown => hid (h hknown)]
    rfl

namespace CauseFile

variable {s : CauseFile} {c : FailureCause}

/-- No write fails from now on. -/
def Ready (s : CauseFile) : Prop := ∀ d, s.disk = some d → d.barrier = none ∧ d.outcomes = []

/-- The file has the causes, and nothing is beside it. -/
def Written (s : CauseFile) : Prop :=
  ∀ d, s.disk = some d → d.text = some (textOf s.causes) ∧ d.beside = none

theorem Ready.writable (h : s.Ready) : ∀ d, s.disk = some d → d.Writable := by
  intro d hd
  obtain ⟨hbarrier, hnone⟩ := h d hd
  exact ⟨hbarrier, by rw [hnone]; exact nofun⟩

/-- A change is made and written. -/
theorem change_ready (h : s.Ready) (f : List FailureCause → List FailureCause) :
    ∃ t, change f s = .ok () t ∧ t.causes = f s.causes ∧ t.Ready ∧ t.Written := by
  refine ⟨_, change_ok f h.writable, rfl, fun d hd => ?_, fun d hd => ?_⟩
  · obtain ⟨old, hold, rfl⟩ := Option.map_eq_some_iff.mp hd
    rw [(h.writable old hold).written]
    exact ⟨(h old hold).1, by simp only [(h old hold).2, List.tail_nil]⟩
  · obtain ⟨old, hold, rfl⟩ := Option.map_eq_some_iff.mp hd
    rw [(h.writable old hold).written]
    exact ⟨rfl, rfl⟩

/-- A change that is none leaves causes alone that their file has. -/
theorem change_same (h : s.Ready) (hw : s.Written) {f : List FailureCause → List FailureCause}
    (hf : f s.causes = s.causes) : change f s = .ok () s := by
  rw [change_ok f h.writable, hf]
  obtain ⟨causes, disk⟩ := s
  cases disk with
  | none => rfl
  | some d =>
    obtain ⟨htext, hbeside⟩ := hw d rfl
    rw [Option.map_some, (h.writable d rfl).written]
    obtain ⟨path, text, beside, barrier, outcomes⟩ := d
    obtain ⟨hbarrier, hnone⟩ := h _ rfl
    simp only at htext hbeside hnone
    rw [hnone, List.tail_nil, htext, hbeside]

theorem save_ready (h : s.Ready) (hn : (s.causes.map (·.id)).Nodup) (hid : c.id ≠ "")
    (hname : ¬Text.allBlank c.name = true) (fresh : String) :
    ∃ t, save fresh c s = .ok c t ∧ t.Ready ∧ t.Written ∧
      t.causes = filed s.causes (s.slot c.id).isSome c := by
  have hold := Catalog.isNew_eq_false hid
  simp only [save, hold, Bool.false_eq_true, if_false]
  rw [bind_ok (checked_ok hname s), bind_ok (get_ok s)]
  cases hfind : find? c.id s.causes with
  | some old =>
    obtain ⟨t, hrun, hcauses, hready, hwritten⟩ := change_ready h (updateFirst c.id fun _ => c)
    refine ⟨t, (bind_ok hrun).trans rfl, hready, hwritten, ?_⟩
    rw [hcauses, updateFirst_eq_map _ _ _ hn, filed, if_pos (mem_of_find? hfind)]
    rfl
  | none =>
    obtain ⟨t, hrun, hcauses, hready, hwritten⟩ := change_ready h (· ++ [c])
    have hnew : c.id ∉ s.causes.map (·.id) := by
      intro hin
      obtain ⟨d, hd, hdid⟩ := List.mem_map.mp hin
      exact absurd (List.find?_eq_none.mp hfind d hd) (by simpa using hdid)
    refine ⟨t, (bind_ok hrun).trans rfl, hready, hwritten, ?_⟩
    rw [hcauses, filed, if_neg hnew, slot, hfind]
    rfl

/-- Replacing a cause by itself changes nothing. -/
theorem updateFirst_same {causes : List FailureCause} (h : find? c.id causes = some c) :
    updateFirst c.id (fun _ => c) causes = causes := by
  unfold find? at h
  induction causes with
  | nil => rfl
  | cons d rest ih =>
    by_cases hd : d.id = c.id
    · rw [List.find?_cons, beq_iff_eq.mpr hd] at h
      rw [updateFirst, if_pos hd, Option.some.inj h]
    · have hne : (d.id == c.id) = false := beq_eq_false_iff_ne.mpr hd
      rw [List.find?_cons, hne] at h
      rw [updateFirst, if_neg hd, ih h]

theorem save_again (h : s.Ready) (hw : s.Written) (hid : c.id ≠ "")
    (hname : ¬Text.allBlank c.name = true) (hslot : s.slot c.id = some (.cause c))
    (fresh : String) : save fresh c s = .ok c s := by
  have hold := Catalog.isNew_eq_false hid
  obtain ⟨d, hfind, hd⟩ := Option.map_eq_some_iff.mp hslot
  obtain rfl : d = c := Slot.cause.inj hd
  simp only [save, hold, Bool.false_eq_true, if_false]
  rw [bind_ok (checked_ok hname s), bind_ok (get_ok s), hfind]
  exact (bind_ok (change_same h hw (updateFirst_same hfind))).trans rfl

end CauseFile

namespace DocumentBase

variable {σ : Type} [DocumentStore σ] {b : DocumentBase σ} {c : FailureCause}

/-- A cause is replaced in a document store. -/
theorem save_replaced {s : σ} (hid : c.id ≠ "") (hname : ¬Text.allBlank c.name = true)
    (h : DocumentStore.update c b.store = .ok true s) (fresh : String) :
    save fresh c b = .ok c { b with store := s } := by
  have hold := Catalog.isNew_eq_false hid
  have hupdate : onStore (DocumentStore.update c) b = .ok true { b with store := s } := by
    rw [onStore, h]
  simp only [save, hold, Bool.false_eq_true, if_false]
  rw [bind_ok (checked_ok hname b), bind_ok hupdate]
  rfl

/-- A cause is inserted in a document store, since there is none to replace. -/
theorem save_inserted {s t : σ} (hid : c.id ≠ "") (hname : ¬Text.allBlank c.name = true)
    (h : DocumentStore.update c b.store = .ok false s)
    (hinsert : DocumentStore.insert c s = .ok () t) (fresh : String) :
    save fresh c b = .ok c { b with store := t } := by
  have hold := Catalog.isNew_eq_false hid
  have hupdate : onStore (DocumentStore.update c) b = .ok false { b with store := s } := by
    rw [onStore, h]
  have hadded : onStore (DocumentStore.insert c) { b with store := s } =
      .ok () { b with store := t } := by rw [onStore, hinsert]
  simp only [save, hold, Bool.false_eq_true, if_false]
  rw [bind_ok (checked_ok hname b), bind_ok hupdate]
  exact (bind_ok hadded).trans rfl

end DocumentBase

namespace CauseTable

variable {t : CauseTable} {all : List FailureCause} {c : FailureCause}

/-- Rows have the ids of their causes. -/
theorem ids_of_keeps {rows : List CauseRow} (h : List.Forall₂ CauseRow.Keeps rows all) :
    rows.map (·.id) = all.map (·.id) := by
  induction h with
  | nil => rfl
  | cons hfirst _ ih => rw [List.map_cons, List.map_cons, hfirst.id_eq, ih]

/-- A cause whose row is its own already is replaced by itself. -/
theorem update_again (h : List.Forall₂ CauseRow.Keeps t.rows all) (hn : (all.map (·.id)).Nodup)
    (hslot : t.slot c.id = some (.row c.row)) : update c t = .ok true t := by
  obtain ⟨r, hrow, hr⟩ := Option.map_eq_some_iff.mp hslot
  obtain rfl : r = c.row := Slot.row.inj hr
  have hids := ids_of_keeps h
  have hsame : (t.rows.map fun r => if r.id = c.id then c.row else r) = t.rows := by
    conv_rhs => rw [← List.map_id t.rows]
    refine List.map_congr_left fun r hr => ?_
    split
    · next hid =>
      rw [← hids] at hn
      exact (List.inj_on_of_nodup_map hn hr (mem_of_row? hrow).1 hid).symm
    · rfl
  rw [update_ok, hrow, hsame]
  rfl

end CauseTable

namespace CauseHash

variable {s : CauseHash} {all : List FailureCause} {c : FailureCause}

/-- The ids of some causes are listed in order, and their texts are under them. -/
structure Lists (s : CauseHash) (all : List FailureCause) : Prop where
  /-- The ids. -/
  ids_eq : s.ids = all.map (·.id)
  /-- The texts. -/
  lookup_eq : ∀ c ∈ all, s.texts.lookup c.id = some c.stored

/-- A query selects from the listed causes, over a link that does not fail. -/
theorem findCauses_ok (hlink : s.link = ⟨[], false⟩) (h : Lists s all) (q : CauseQuery) :
    findCauses q s = .ok (all.filter q.selects) s := by
  have hids : idsAll s = .ok (all.map (·.id)) s := by rw [idsAll, command_ok hlink, h.ids_eq]
  rw [findCauses, bind_ok hids, bind_ok (textsOf_ok hlink all h.lookup_eq),
    bind_ok (mapM_ofStored all s)]
  rfl

/-- The ids of the list are those of causes that have their texts in the hash. -/
theorem exists_lists (hs : Distinct s) : ∃ all, Lists s all := by
  have hbuild : ∀ ids : List String, (∀ id ∈ ids, id ∈ s.keys) → ∃ all : List FailureCause,
      ids = all.map (·.id) ∧ ∀ c ∈ all, s.texts.lookup c.id = some c.stored := by
    intro ids
    induction ids with
    | nil => exact fun _ => ⟨[], rfl, nofun⟩
    | cons id rest ih =>
      intro hkeys
      obtain ⟨hid, hrest⟩ := List.forall_mem_cons.mp hkeys
      obtain ⟨all, rfl, hall⟩ := ih hrest
      cases hfield : s.texts.lookup id with
      | none => exact absurd hid (not_mem_of_lookup hfield)
      | some text =>
        obtain ⟨c, rfl, rfl⟩ := hs.named _ (mem_of_lookup hfield)
        exact ⟨c :: all, rfl, List.forall_mem_cons.mpr ⟨hfield, hall⟩⟩
  obtain ⟨all, hids, hall⟩ := hbuild s.ids hs.listed
  exact ⟨all, hids, hall⟩

/-- Setting a field to what it has changes nothing. -/
theorem setField_same {id text : String} {texts : List (String × String)}
    (h : texts.lookup id = some text) : setField id text texts = texts := by
  induction texts with
  | nil => cases h
  | cons field rest ih =>
    obtain ⟨k, t⟩ := field
    by_cases hk : k = id
    · rw [List.lookup_cons, hk, BEq.rfl] at h
      rw [setField, if_pos hk, Option.some.inj h]
    · have hne : (id == k) = false := beq_eq_false_iff_ne.mpr (Ne.symm hk)
      rw [List.lookup_cons, hne] at h
      rw [setField, if_neg hk, ih h]

/-- The text under an id is replaced over a link that does not fail. -/
theorem update_known (hlink : s.link = ⟨[], false⟩) {old : String}
    (h : s.texts.lookup c.id = some old) :
    update c s = .ok true { s with texts := setField c.id c.stored s.texts } :=
  Eq.trans (bind_ok (fieldUpdate_write hlink h rfl rfl)) rfl

theorem update_new (hlink : s.link = ⟨[], false⟩) (h : s.texts.lookup c.id = none) :
    update c s = .ok false s :=
  Eq.trans (bind_ok (fieldUpdate_keep c.id hlink (by rw [h]))) rfl

/-- The texts of the causes once another is saved. -/
theorem Lists.set (h : Lists s all) {known : Bool} :
    ∀ d ∈ filed all known c, (setField c.id c.stored s.texts).lookup d.id = some d.stored := by
  intro d hd
  rw [lookup_setField]
  obtain rfl | ⟨hold, hne⟩ := mem_filed hd
  · rw [if_pos rfl]
  · rw [if_neg hne, h.lookup_eq d hold]

/-- A cause is saved over a link that does not fail. -/
theorem save_ready {b : DocumentBase CauseHash} (hlink : b.store.link = ⟨[], false⟩)
    (h : Lists b.store all) (hid : c.id ≠ "") (hname : ¬Text.allBlank c.name = true)
    (fresh : String) : ∃ s, DocumentBase.save fresh c b = .ok c { b with store := s } ∧
      s.link = ⟨[], false⟩ ∧ Lists s (filed all (b.store.slot c.id).isSome c) := by
  cases hold : b.store.texts.lookup c.id with
  | some old =>
    have hknown : (b.store.slot c.id).isSome = true := by rw [slot, hold]; rfl
    refine ⟨{ b.store with texts := setField c.id c.stored b.store.texts },
      DocumentBase.save_replaced hid hname (update_known hlink hold) fresh, hlink, ?_, h.set⟩
    show b.store.ids = _
    rw [h.ids_eq, hknown, filed]
    split
    · exact (map_id_replacement all c).symm
    · rfl
  | none =>
    have hknown : (b.store.slot c.id).isSome = false := by rw [slot, hold]; rfl
    have hnew : c.id ∉ all.map (·.id) := by
      intro hin
      obtain ⟨d, hd, hdid⟩ := List.mem_map.mp hin
      have htext := h.lookup_eq d hd
      rw [hdid, hold] at htext
      cases htext
    refine ⟨{ b.store with
        texts := setField c.id c.stored b.store.texts, ids := b.store.ids ++ [c.id] },
      DocumentBase.save_inserted hid hname (update_new hlink hold) (insert_new hlink hold) fresh,
      hlink, ?_, h.set⟩
    show b.store.ids ++ [c.id] = _
    rw [h.ids_eq, hknown, filed, if_neg hnew, if_neg (by decide), List.map_append]
    rfl

/-- A cause whose text is its own already is replaced by itself. -/
theorem update_again (hlink : s.link = ⟨[], false⟩) (hslot : s.slot c.id = some (.text c.stored)) :
    update c s = .ok true s := by
  obtain ⟨text, htext, ht⟩ := Option.map_eq_some_iff.mp hslot
  obtain rfl : text = c.stored := Slot.text.inj ht
  rw [update_known hlink htext, setField_same htext]

end CauseHash

namespace Backing

/-- Nothing that is asked of the place fails from now on. -/
def Ready : Backing → Prop
  | .file b => b.Ready
  | .table _ => True
  | .hash b => b.store.link = ⟨[], false⟩

/-- The causes in memory are in their file, if there is one. -/
def Written : Backing → Prop
  | .file b => b.Written
  | .table _ | .hash _ => True

/-- The place lists some causes of distinct ids, removed ones too. -/
structure Shows (all : List FailureCause) (b : Backing) : Prop where
  /-- The ids are distinct. -/
  nodup : (all.map (·.id)).Nodup
  /-- The causes are listed. -/
  lists : match b with
    | .file b => b.causes = all
    | .table b => List.Forall₂ CauseRow.Keeps b.store.rows all
    | .hash b => b.store.Lists all

variable {b : Backing} {all : List FailureCause} {c : FailureCause}

/-- The listing has the causes that are not removed. -/
theorem Shows.list_ok (h : b.Shows all) (hready : b.Ready) :
    list b = .ok (liveCauses all) b := by
  cases b with
  | file b =>
    obtain rfl : b.causes = all := h.lists
    rfl
  | table b =>
    have hstands : (Backing.table b).Stands ⟨all, h.nodup⟩ := h.lists
    rw [list_stands hstands, ← Catalog.live_eq]
  | hash b =>
    have hfind : DocumentBase.onStore (CauseHash.findCauses .live) b = .ok (liveCauses all) b := by
      rw [DocumentBase.onStore, CauseHash.findCauses_ok hready h.lists, CauseHash.filter_live]
    exact congrArg (wrap Backing.hash) hfind

/-- What is listed is under its id. -/
theorem Shows.slot_isSome (h : b.Shows all) (hc : c ∈ all) : (b.slot c.id).isSome = true := by
  cases b with
  | file b =>
    have hin : c ∈ b.causes := h.lists.symm ▸ hc
    simp only [slot, CauseFile.slot, Option.isSome_map, CauseFile.find?, List.find?_isSome]
    exact ⟨c, hin, BEq.rfl⟩
  | table b =>
    have hstands : CauseTable.Stands b.store ⟨all, h.nodup⟩ := h.lists
    simp only [slot, CauseTable.slot, Option.isSome_map]
    exact (CauseTable.row?_isSome hstands c.id).mpr (List.mem_map_of_mem hc)
  | hash b =>
    have hlists : b.store.Lists all := h.lists
    simp only [slot, CauseHash.slot, Option.isSome_map, hlists.lookup_eq c hc, Option.isSome_some]

/-- A cause is saved. -/
theorem Shows.save (h : b.Shows all) (hready : b.Ready) (hid : c.id ≠ "")
    (hname : ¬Text.allBlank c.name = true) (fresh : String) :
    ∃ t, run (fun _ => CauseStore.save fresh c) b = .ok c t ∧ t.Ready ∧ t.Written ∧
      t.Shows (filed all (b.slot c.id).isSome c) := by
  cases b with
  | file b =>
    have hcauses : b.causes = all := h.lists
    obtain ⟨t, hrun, ht, hwritten, hfiled⟩ :=
      CauseFile.save_ready hready (hcauses ▸ h.nodup) hid hname fresh
    refine ⟨.file t, congrArg (wrap Backing.file) hrun, ht, hwritten, nodup_filed h.nodup _ c, ?_⟩
    exact hcauses ▸ hfiled
  | table b =>
    have hstands : DocumentBase.Stands CauseTable.Stands b ⟨all, h.nodup⟩ := h.lists
    have hsave := (DocumentBase.follows CauseTable.keeps (DocumentBase.rests_stands _)).save fresh c
      hstands fun hnew => absurd hnew hid
    simp only [Catalog.perform, hname, hid, if_false, Catalog.entry_of_id fresh c hid] at hsave
    obtain ⟨t, hrun, ht⟩ := hsave
    have hknown : (slot (.table b) c.id).isSome = true → c.id ∈ all.map (·.id) := by
      simp only [slot, CauseTable.slot, Option.isSome_map]
      exact (CauseTable.row?_isSome hstands c.id).mp
    refine ⟨.table t, congrArg (wrap Backing.table) hrun, trivial, trivial,
      nodup_filed h.nodup _ c, ?_⟩
    have hrows : CauseTable.Stands t.store (Catalog.save ⟨all, h.nodup⟩ c) := ht
    unfold CauseTable.Stands at hrows
    rw [Catalog.causes_save hknown] at hrows
    exact hrows
  | hash b =>
    obtain ⟨s, hrun, hlink, hlists⟩ := CauseHash.save_ready hready h.lists hid hname fresh
    exact ⟨.hash { b with store := s }, congrArg (wrap Backing.hash) hrun, hlink, trivial,
      nodup_filed h.nodup _ c, hlists⟩

/-- A cause that is under its id as it is saved changes nothing when it is saved again. -/
theorem Shows.save_again (h : b.Shows all) (hready : b.Ready) (hwritten : b.Written)
    (hid : c.id ≠ "") (hname : ¬Text.allBlank c.name = true)
    (hslot : b.slot c.id = some (b.hold c)) (fresh : String) :
    run (fun _ => CauseStore.save fresh c) b = .ok c b := by
  cases b with
  | file b =>
    exact congrArg (wrap Backing.file)
      (CauseFile.save_again hready hwritten hid hname hslot fresh)
  | table b =>
    exact congrArg (wrap Backing.table) (DocumentBase.save_replaced hid hname
      (CauseTable.update_again h.lists h.nodup hslot) fresh)
  | hash b =>
    exact congrArg (wrap Backing.hash) (DocumentBase.save_replaced hid hname
      (CauseHash.update_again hready hslot) fresh)

end Backing

end BuildTriage
