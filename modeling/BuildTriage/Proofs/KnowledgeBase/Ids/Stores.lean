import BuildTriage.Proofs.KnowledgeBase.FileStore
import BuildTriage.Proofs.KnowledgeBase.HashStore
import BuildTriage.Proofs.KnowledgeBase.Ids.Basic
import BuildTriage.Proofs.KnowledgeBase.TableStore

/-!
# Files, tables and key-value stores keep ids distinct

Tables refuse a second row of an id, and a key-value store a second field. Both find a cause
by the id that its text names, so the texts have to name the ids under which they are stored,
through all the edits in place and whatever fails between two commands. A file compares no
ids when a cause is added.
-/

namespace BuildTriage

open Json

namespace CauseFile

/-- No two causes have the same id. -/
def Distinct (s : CauseFile) : Prop := (s.causes.map (·.id)).Nodup

/-- A file has room for a cause of an id that none of its causes has. -/
def Spares (s : CauseFile) (id : String) : Prop := id ∉ s.causes.map (·.id)

/-- Writing the causes leaves them as they are, whether it fails or not. -/
theorem leaves_persist {s : CauseFile} (hs : Distinct s) :
    Leaves Distinct persist s fun _ t => t.causes = s.causes := by
  unfold persist
  refine Leaves.get_bind ?_
  cases hdisk : s.disk with
  | none => exact leaves_pure hs rfl
  | some disk =>
    dsimp only
    have hset : Leaves Distinct (set { s with disk := some (disk.write (textOf s.causes)).1 }) s
        fun (_ : PUnit) t => t.causes = s.causes := leaves_modify hs rfl
    refine hset.bind fun _ t ht hsame => ?_
    split
    · exact leaves_pure ht hsame
    · exact leaves_throw _ ht

/-- A change of the causes that keeps their ids distinct. -/
theorem leaves_change {s : CauseFile} {f : List FailureCause → List FailureCause}
    (hf : ((f s.causes).map (·.id)).Nodup) :
    Leaves Distinct (change f) s fun _ t => t.causes = f s.causes := by
  have hmodify : Leaves Distinct (modify fun s => { s with causes := f s.causes }) s
      fun _ t => t = { s with causes := f s.causes } := leaves_modify hf rfl
  refine hmodify.bind ?_
  rintro _ _ ht rfl
  exact leaves_persist ht

/-- Changing a cause in its place keeps the ids. -/
theorem map_id_updateFirst {id : String} {f : FailureCause → FailureCause}
    (hf : ∀ c, c.id = id → (f c).id = id) (causes : List FailureCause) :
    (updateFirst id f causes).map (·.id) = causes.map (·.id) := by
  induction causes with
  | nil => rfl
  | cons c rest ih =>
    by_cases hc : c.id = id
    · simp only [updateFirst, hc, if_true, List.map_cons, hf c hc]
    · simp only [updateFirst, hc, if_false, List.map_cons, ih]

/-- An id that is found is one of the causes. -/
theorem mem_of_find? {id : String} {causes : List FailureCause} {c : FailureCause}
    (h : find? id causes = some c) : id ∈ causes.map (·.id) := by
  have hid := List.find?_some h
  rw [beq_iff_eq] at hid
  exact List.mem_map.mpr ⟨c, List.mem_of_find?_eq_some h, hid⟩

/-- A cause of a spared id is put at the end. -/
theorem leaves_append {s : CauseFile} {c : FailureCause} (hs : Distinct s)
    (hid : s.Spares c.id) :
    Leaves Distinct (change (· ++ [c])) s fun _ t => c.id ∈ t.causes.map (·.id) :=
  (leaves_change (nodup_map_extend hs hid)).mono fun _ t _ ht => by rw [ht]; simp

theorem leaves_add {s : CauseFile} (fresh : String) (cause : FailureCause) (hs : Distinct s)
    (hid : s.Spares (cause.identified fresh).id) :
    Leaves Distinct (add fresh cause) s
      fun _ t => (cause.identified fresh).id ∈ t.causes.map (·.id) := by
  refine (leaves_checked cause hs).bind ?_
  rintro _ _ hs rfl
  exact (leaves_append hs hid).bind fun _ _ ht hin => leaves_pure ht hin

theorem leaves_save {s : CauseFile} (fresh : String) (cause : FailureCause) (hs : Distinct s)
    (hid : cause.isNew = true → s.Spares fresh) :
    Leaves Distinct (save fresh cause) s
      fun _ t => (cause.identified fresh).id ∈ t.causes.map (·.id) := by
  unfold save
  by_cases hnew : cause.isNew = true
  · have hfresh : (cause.identified fresh).id = fresh := by
      rw [FailureCause.identified, if_pos hnew]
    rw [if_pos hnew]
    exact leaves_add fresh cause hs (by rw [hfresh]; exact hid hnew)
  · have hown : cause.identified fresh = cause := if_neg hnew
    rw [if_neg hnew, hown]
    refine (leaves_checked cause hs).bind ?_
    rintro _ t hs rfl
    refine Leaves.get_bind ?_
    cases hfind : find? cause.id t.causes with
    | some old =>
      have hids := map_id_updateFirst (f := fun _ => cause) (fun _ _ => rfl) t.causes
      refine (leaves_change (by rw [hids]; exact hs)).bind fun _ u hu hcauses => leaves_pure hu ?_
      rw [hcauses, hids]
      exact mem_of_find? hfind
    | none =>
      have hspared : t.Spares cause.id := fun hin => by
        obtain ⟨c, hc, hcid⟩ := List.mem_map.mp hin
        exact absurd (List.find?_eq_none.mp hfind c hc) (by simpa using hcid)
      exact (leaves_append hs hspared).bind fun _ _ hu hin => leaves_pure hu hin

/-- The listing of a file is that of its live causes. -/
theorem causes_eq (s : CauseFile) :
    (CauseStore.causes : Op CauseFile _) s = .ok (liveCauses s.causes) s := rfl

theorem leaves_remove {s : CauseFile} (id : String) (stone : Tombstone) (hs : Distinct s) :
    Leaves Distinct (remove id stone) s fun found t => found.isSome = true → Unlisted id t := by
  unfold remove
  refine Leaves.get_bind ?_
  cases hfind : find? id s.causes with
  | none => exact leaves_pure hs nofun
  | some cause =>
    have hbury : ∀ c : FailureCause, c.id = id → (c.bury stone).id = id := fun _ hc => hc
    have hids := map_id_updateFirst hbury s.causes
    refine (leaves_change (by rw [hids]; exact hs)).bind fun _ t ht hcauses =>
      leaves_pure ht fun _ causes u hlist c hc => ?_
    rw [causes_eq] at hlist
    cases hlist
    rw [hcauses, updateFirst_eq_map id _ _ hs] at hc
    obtain ⟨hin, hlive⟩ := List.mem_filter.mp hc
    obtain ⟨d, -, rfl⟩ := List.mem_map.mp hin
    by_cases hd : d.id = id
    · rw [if_pos hd] at hlive
      exact absurd hlive (by simp [FailureCause.bury, FailureCause.isRemoved])
    · rwa [if_neg hd]

/-- Being seen keeps the id of a cause. -/
theorem id_touch (c : FailureCause) (time : UInt64) : (c.touch time).id = c.id := by
  unfold FailureCause.touch
  split
  · split
    · rfl
    · rfl
  · rfl

theorem leaves_lastSeen {s : CauseFile} (seen : List String) (time : UInt64)
    (hs : Distinct s) : Leaves Distinct (lastSeen seen time) s fun _ _ => True := by
  unfold lastSeen
  refine Leaves.get_bind ?_
  split
  · have hids : (s.causes.map fun c => if seen.contains c.id then c.touch time else c).map
        (·.id) = s.causes.map (·.id) := by
      rw [List.map_map]
      refine List.map_congr_left fun c _ => ?_
      simp only [Function.comp_apply]
      split
      · exact id_touch c time
      · rfl
    exact (leaves_change (by rw [hids]; exact hs)).mono fun _ _ _ _ => trivial
  · exact leaves_pure hs trivial

/-- A file keeps ids distinct, if a cause is added under an id that it spares. -/
theorem keepsDistinct :
    KeepsDistinct CauseFile Distinct (fun s => s.causes.map (·.id)) Spares where
  distinct hs := hs
  causes hs := Leaves.get_bind (leaves_pure hs (hs.sublist (List.filter_sublist.map _)))
  add := leaves_add
  save := leaves_save
  remove := leaves_remove
  lastSeen := leaves_lastSeen

end CauseFile

/-- A record that reads as a cause names the id of the cause. -/
theorem FailureCause.reader_id : reader.Yields fun found c =>
    ∀ id, found "id" = some (.text (.ok id)) → c.id = id := by
  unfold reader
  refine .seq (.seq (.seq (.seq (.seq (.seq (.seq (.seq ?_)))))))
  intro found f hf description comment categories indications last modifications removed _ id hid
  simp only [RecordReader.build_map, RecordReader.defaulted, hid, Decoder.text, Except.map] at hf
  obtain rfl := Except.ok.inj hf
  rfl

/-- The text of a row is a record that names the id of the row, and in whose members a list of
records stands at most. -/
def CauseRow.Named (r : CauseRow) : Prop :=
  ∃ members, r.text = (Value.record members).compact ∧
    (∀ m ∈ members, m.2.Exact ∧ m.2.nesting ≤ 2) ∧ members.lookup "id" = some (.text r.id)

theorem FailureCause.row_named (c : FailureCause) : c.row.Named :=
  ⟨c.members, by rw [row, stored, encode_eq],
    fun m hm => ⟨c.members_exact m hm, c.members_nesting m hm⟩, rfl⟩

namespace CauseRow

/-- The record of such members is found in its text. -/
theorem exact_of_members {members : List (String × Value)}
    (h : ∀ m ∈ members, m.2.Exact ∧ m.2.nesting ≤ 2) :
    (Value.record members).Exact ∧ (Value.record members).nesting ≤ maxNesting := by
  have hnesting := membersNesting_le_iff.mpr fun m hm => (h m hm).2
  rw [Value.Exact, membersExact_iff, Value.nesting, maxNesting]
  exact ⟨fun m hm => (h m hm).1, by omega⟩

/-- What the text of a row reads as has the id of the row. -/
theorem Named.id_eq {r : CauseRow} (h : r.Named) {c : FailureCause}
    (hc : decodeText FailureCause.decoder r.text = .ok c) : c.id = r.id := by
  obtain ⟨members, htext, hmembers, hid⟩ := h
  rw [htext, decodeText_compact _ _ (exact_of_members hmembers).1] at hc
  obtain ⟨found, hbuild, hfound⟩ := RecordReader.build_of_decode hc
  refine FailureCause.reader_id found c hbuild r.id ?_
  obtain ⟨field, hfield, hname⟩ :
      ∃ field ∈ FailureCause.reader.fields, field.name = "id" := ⟨_, List.mem_cons_self, rfl⟩
  rw [← hname, hfound field hfield, hname, hid]
  rfl

/-- A text names the id of its row after another member was set. -/
theorem Named.set {r other : CauseRow} (h : r.Named) {name : String} {w : Value}
    (hname : name ≠ "id") (hw : w.Exact) (hn : w.nesting ≤ 2) (hid : other.id = r.id)
    (hset : TextFunctions.json.set r.text name w = some other.text) : other.Named := by
  obtain ⟨members, htext, hmembers, hlookup⟩ := h
  obtain ⟨hexact, hnesting⟩ := exact_of_members hmembers
  rw [htext, TextFunctions.set_compact hexact hnesting] at hset
  refine ⟨setIn name w members, (Option.some.inj hset).symm, ?_, ?_⟩
  · exact forall_setIn (p := fun v => v.Exact ∧ v.nesting ≤ 2) ⟨hw, hn⟩ hmembers
  · rw [lookup_setIn hname.symm, hlookup, hid]

end CauseRow

namespace CauseTable

/-- No two rows have the same id, and their texts name their ids. -/
structure Distinct (t : CauseTable) : Prop where
  /-- The ids of the rows are distinct. -/
  nodup : (t.rows.map (·.id)).Nodup
  /-- The texts name the ids. -/
  named : ∀ r ∈ t.rows, r.Named

/-- The ids of the rows. -/
def ids (t : CauseTable) : List String := t.rows.map (·.id)

/-- Changing the row of an id keeps the ids. -/
theorem ids_changed {id : String} {f : CauseRow → CauseRow} (hf : ∀ r, r.id = id → (f r).id = id)
    (rows : List CauseRow) :
    (rows.map fun r => if r.id = id then f r else r).map (·.id) = rows.map (·.id) := by
  rw [List.map_map]
  refine List.map_congr_left fun r _ => ?_
  simp only [Function.comp_apply]
  split
  · next h => rw [hf r h, h]
  · rfl

/-- The row of an id is changed to one whose text names the id. -/
theorem leaves_changeRow {t : CauseTable} {id : String} {f : CauseRow → CauseRow}
    (ht : Distinct t) (hf : ∀ r, r.id = id → (f r).id = id ∧ (f r).Named) :
    Leaves Distinct (changeRow id f) t fun _ u =>
      u.rows = t.rows.map fun r => if r.id = id then f r else r := by
  refine leaves_modify ⟨?_, ?_⟩ rfl
  · rw [ids_changed fun r h => (hf r h).1]
    exact ht.nodup
  · intro r hr
    obtain ⟨old, hold, rfl⟩ := List.mem_map.mp hr
    split
    · next h => exact (hf old h).2
    · exact ht.named old hold

/-- A row that is found has the id. -/
theorem mem_of_row? {t : CauseTable} {id : String} {r : CauseRow} (h : t.row? id = some r) :
    r ∈ t.rows ∧ r.id = id := by
  have hid := List.find?_some h
  rw [beq_iff_eq] at hid
  exact ⟨List.mem_of_find?_eq_some h, hid⟩

/-- An id without a row is not one of the ids. -/
theorem not_mem_of_row? {t : CauseTable} {id : String} (h : t.row? id = none) :
    id ∉ t.rows.map (·.id) := by
  intro hin
  obtain ⟨r, hr, hid⟩ := List.mem_map.mp hin
  exact absurd (List.find?_eq_none.mp h r hr) (by simpa using hid)

/-- Reading a text as a cause leaves the tables as they are. -/
theorem leaves_ofStored {t : CauseTable} (text : String) (ht : Distinct t) :
    Leaves Distinct (FailureCause.ofStored text) t fun c u =>
      u = t ∧ decodeText FailureCause.decoder text = .ok c := by
  unfold FailureCause.ofStored
  cases hread : decodeText FailureCause.decoder text with
  | ok c => exact leaves_pure ht ⟨rfl, rfl⟩
  | error f => exact leaves_throw _ ht

/-- Rows are read as causes of their ids. -/
theorem leaves_mapM {t : CauseTable} (ht : Distinct t) {rows : List CauseRow}
    (hrows : ∀ r ∈ rows, r.Named) :
    Leaves Distinct (rows.mapM fun r => (FailureCause.ofStored r.text : Op CauseTable FailureCause))
      t fun cs u => u = t ∧ cs.map (·.id) = rows.map (·.id) := by
  induction rows with
  | nil => exact leaves_pure ht ⟨rfl, rfl⟩
  | cons r rest ih =>
    obtain ⟨hr, hrest⟩ := List.forall_mem_cons.mp hrows
    rw [List.mapM_cons]
    refine (leaves_ofStored r.text ht).bind ?_
    rintro c _ _ ⟨rfl, hc⟩
    refine (ih hrest).bind ?_
    rintro cs _ hu ⟨rfl, hcs⟩
    exact leaves_pure hu ⟨rfl, by rw [List.map_cons, List.map_cons, hr.id_eq hc, hcs]⟩

/-- The live causes are found under the ids of the rows that are not removed. -/
theorem leaves_find {t : CauseTable} (ht : Distinct t) :
    Leaves Distinct (findCauses .json .live) t fun cs _ =>
      cs.map (·.id) = (t.rows.filter (!·.removed)).map (·.id) := by
  have hrows : ∀ r ∈ t.rows.filter (!·.removed), r.Named :=
    fun r hr => ht.named r (List.mem_filter.mp hr).1
  have hfilter : Leaves Distinct (t.rows.filterM (selectsRow .json .live)) t fun rows u =>
      u = t ∧ rows = t.rows.filter (!·.removed) :=
    leaves_of_ok (filterM_live t.rows t) ht ⟨rfl, rfl⟩
  unfold findCauses
  refine Leaves.get_bind (hfilter.bind ?_)
  rintro _ _ _ ⟨rfl, rfl⟩
  exact (leaves_mapM ht hrows).mono fun _ _ _ h => h.2

theorem leaves_insert {t : CauseTable} (c : FailureCause) (ht : Distinct t) :
    Leaves Distinct (insert c) t fun _ u => c.id ∈ u.ids := by
  unfold insert
  refine Leaves.get_bind ?_
  cases hrow : t.row? c.id with
  | some r => exact leaves_throw _ ht
  | none =>
    refine leaves_modify ⟨nodup_map_extend ht.nodup (not_mem_of_row? hrow), ?_⟩ ?_
    · exact List.forall_mem_append.mpr ⟨ht.named, List.forall_mem_singleton.mpr c.row_named⟩
    · simp [ids, FailureCause.row]

theorem leaves_update {t : CauseTable} (c : FailureCause) (ht : Distinct t) :
    Leaves Distinct (update c) t fun replaced u => replaced = true → c.id ∈ u.ids := by
  unfold update
  refine Leaves.get_bind ?_
  cases hrow : t.row? c.id with
  | none => exact leaves_pure ht nofun
  | some r =>
    obtain ⟨hr, hid⟩ := mem_of_row? hrow
    have hnew : ∀ r : CauseRow, r.id = c.id → c.row.id = c.id ∧ c.row.Named :=
      fun _ _ => ⟨rfl, c.row_named⟩
    refine (leaves_changeRow ht hnew).bind fun _ u hu hrows => leaves_pure hu fun _ => ?_
    rw [ids, hrows, ids_changed fun r h => (hnew r h).1]
    exact List.mem_map.mpr ⟨r, hr, hid⟩

/-- Applying a function of texts leaves the tables as they are. -/
theorem leaves_applied {α : Type} {t : CauseTable} (ht : Distinct t) (given : Option α) :
    Leaves Distinct (applied given) t fun a u => u = t ∧ given = some a := by
  cases given with
  | some a => exact leaves_pure ht ⟨rfl, rfl⟩
  | none => exact leaves_throw _ ht

/-- No live cause is found of an id whose rows are removed. -/
theorem not_found_of_removed {t u : CauseTable} {id : String} (ht : Distinct t)
    (h : ∀ r ∈ t.rows, r.id = id → r.removed = true) {causes : List FailureCause}
    (hfind : findCauses .json .live t = .ok causes u) : ∀ c ∈ causes, c.id ≠ id := by
  rintro c hc rfl
  have hids := ((leaves_find ht).ok causes u hfind).2
  have hin : c.id ∈ (t.rows.filter (!·.removed)).map (·.id) := hids ▸ List.mem_map_of_mem hc
  obtain ⟨r, hr, hid⟩ := List.mem_map.mp hin
  obtain ⟨hr, hlive⟩ := List.mem_filter.mp hr
  rw [h r hr hid] at hlive
  exact absurd hlive (by decide)

theorem leaves_tombstone {t : CauseTable} (id : String) (stone : Tombstone) (ht : Distinct t) :
    Leaves Distinct (tombstone .json id stone) t fun found u => found.isSome = true →
      ∀ causes v, findCauses .json .live u = .ok causes v → ∀ c ∈ causes, c.id ≠ id := by
  unfold tombstone
  refine Leaves.get_bind ?_
  cases hrow : t.row? id with
  | none => exact leaves_pure ht nofun
  | some r =>
    obtain ⟨hr, rfl⟩ := mem_of_row? hrow
    refine (leaves_applied ht _).bind ?_
    rintro text _ ht ⟨rfl, hset⟩
    let f (old : CauseRow) : CauseRow := { old with removed := true, text := text }
    have hf : ∀ old, old.id = r.id → (f old).id = r.id ∧ (f old).Named := fun old hold =>
      ⟨hold, (ht.named r hr).set (by decide) (Tombstone.restores stone).1 (Nat.le_succ 1) hold hset⟩
    refine (leaves_changeRow ht hf).bind fun _ u hu hrows => ?_
    refine (leaves_ofStored _ hu).bind ?_
    rintro c _ hu ⟨rfl, -⟩
    refine leaves_pure hu fun _ causes w hfind => not_found_of_removed hu ?_ hfind
    intro other hother hid
    rw [hrows] at hother
    obtain ⟨old, -, rfl⟩ := List.mem_map.mp hother
    by_cases hold : old.id = r.id
    · rw [if_pos hold]
    · rw [if_neg hold] at hid
      exact absurd hid hold

theorem leaves_touch {t : CauseTable} (id : String) (time : UInt64) (ht : Distinct t) :
    Leaves Distinct (touch .json id time) t fun _ _ => True := by
  unfold touch
  refine Leaves.get_bind ?_
  cases hrow : t.row? id with
  | none => exact leaves_pure ht trivial
  | some r =>
    obtain ⟨hr, rfl⟩ := mem_of_row? hrow
    refine (leaves_applied ht _).bind ?_
    rintro earlier _ ht ⟨rfl, -⟩
    cases earlier with
    | false => exact leaves_pure ht trivial
    | true =>
      refine (leaves_applied ht _).bind ?_
      rintro text _ ht ⟨rfl, hset⟩
      let f (old : CauseRow) : CauseRow := { old with text := text }
      have hf : ∀ old, old.id = r.id → (f old).id = r.id ∧ (f old).Named := fun old hold =>
        ⟨hold, (ht.named r hr).set (by decide) (signed_exact _) (signed_nesting _) hold hset⟩
      exact (leaves_changeRow ht hf).answer

/-- Tables keep ids distinct. -/
theorem storesDistinct : StoresDistinct CauseTable Distinct ids where
  distinct ht := ht.nodup
  find ht := (leaves_find ht).mono fun _ _ _ hids => by
    rw [hids]
    exact ht.nodup.sublist (List.filter_sublist.map _)
  insert c ht := leaves_insert c ht
  update c ht := leaves_update c ht
  tombstone id stone ht := leaves_tombstone id stone ht
  touch id time ht := leaves_touch id time ht

end CauseTable

namespace CauseHash

/-- The keys of the hash. -/
def keys (s : CauseHash) : List String := s.texts.map (·.1)

/-- A field holds the text of a cause of its key. -/
def Named (field : String × String) : Prop :=
  ∃ c : FailureCause, field.2 = c.stored ∧ c.id = field.1

/-- No two fields of the hash and no two ids of the list are the same, and the fields hold
causes of their keys. A cause that was added only half-way has a field, but no place in the
list. -/
structure Distinct (s : CauseHash) : Prop where
  /-- The keys of the hash are distinct. -/
  nodup : s.keys.Nodup
  /-- The texts name the keys. -/
  named : ∀ field ∈ s.texts, Named field
  /-- The ids of the list are distinct. -/
  listed_nodup : s.ids.Nodup
  /-- The ids of the list are keys. -/
  listed : ∀ id ∈ s.ids, id ∈ s.keys

/-- Only the texts and the list of ids have a part in this. -/
theorem Distinct.congr {s t : CauseHash} (hs : Distinct s) (htexts : t.texts = s.texts)
    (hids : t.ids = s.ids) : Distinct t := by
  have hkeys : t.keys = s.keys := by rw [keys, htexts, keys]
  refine ⟨?_, ?_, ?_, ?_⟩
  · rw [hkeys]; exact hs.nodup
  · rw [htexts]; exact hs.named
  · rw [hids]; exact hs.listed_nodup
  · rw [hids, hkeys]; exact hs.listed

theorem Distinct.relink {s : CauseHash} (hs : Distinct s) (link : Link) :
    Distinct { s with link := link } := hs.congr rfl rfl

/-- A text that is looked up is a field. -/
theorem mem_of_lookup {id text : String} {texts : List (String × String)}
    (h : texts.lookup id = some text) : (id, text) ∈ texts := by
  obtain ⟨before, after, rfl, -⟩ := List.lookup_eq_some_iff.mp h
  exact List.mem_append_right _ List.mem_cons_self

/-- An id that is not looked up is not a key. -/
theorem not_mem_of_lookup {id : String} {texts : List (String × String)}
    (h : texts.lookup id = none) : id ∉ texts.map (·.1) := by
  intro hin
  obtain ⟨field, hfield, rfl⟩ := List.mem_map.mp hin
  have hne := List.lookup_eq_none_iff.mp h field hfield
  rw [bne_self_eq_false] at hne
  exact absurd hne (by decide)

/-- Setting a field whose key is there keeps the keys. -/
theorem keys_setField {id : String} (text : String) {texts : List (String × String)}
    (h : id ∈ texts.map (·.1)) : (setField id text texts).map (·.1) = texts.map (·.1) := by
  induction texts with
  | nil => exact absurd h List.not_mem_nil
  | cons field rest ih =>
    obtain ⟨k, t⟩ := field
    by_cases hk : k = id
    · simp only [setField, hk, if_true, List.map_cons]
    · have hrest : id ∈ rest.map (·.1) := (List.mem_cons.mp h).resolve_left (Ne.symm hk)
      simp only [setField, hk, if_false, List.map_cons, ih hrest]

/-- Setting a field whose key is not there puts it at the end. -/
theorem setField_new {id : String} (text : String) {texts : List (String × String)}
    (h : id ∉ texts.map (·.1)) : setField id text texts = texts ++ [(id, text)] := by
  induction texts with
  | nil => rfl
  | cons field rest ih =>
    obtain ⟨k, t⟩ := field
    rw [List.map_cons, List.mem_cons, not_or] at h
    simp only [setField, Ne.symm h.1, if_false, ih h.2, List.cons_append]

/-- Setting a field to a cause of its key leaves the texts naming their keys. -/
theorem named_setField {id text : String} (hnew : Named (id, text))
    {texts : List (String × String)} (h : ∀ field ∈ texts, Named field) :
    ∀ field ∈ setField id text texts, Named field := by
  induction texts with
  | nil => exact List.forall_mem_singleton.mpr hnew
  | cons field rest ih =>
    obtain ⟨k, t⟩ := field
    obtain ⟨hfield, hrest⟩ := List.forall_mem_cons.mp h
    unfold setField
    split
    · next hk => exact List.forall_mem_cons.mpr ⟨hk ▸ hnew, hrest⟩
    · exact List.forall_mem_cons.mpr ⟨hfield, ih hrest⟩

/-- Replacing the text of a field by that of a cause of its key. -/
theorem Distinct.set {s : CauseHash} (hs : Distinct s) {id text : String} (hid : id ∈ s.keys)
    (hnew : Named (id, text)) : Distinct { s with texts := setField id text s.texts } := by
  have hkeys : (setField id text s.texts).map (·.1) = s.keys := keys_setField text hid
  refine ⟨?_, named_setField hnew hs.named, hs.listed_nodup, ?_⟩
  · rw [keys, hkeys]
    exact hs.nodup
  · rw [keys, hkeys]
    exact hs.listed

/-- A new field for a cause of its key. -/
theorem Distinct.extend {s : CauseHash} (hs : Distinct s) {id text : String}
    (hid : id ∉ s.keys) (hnew : Named (id, text)) :
    Distinct { s with texts := setField id text s.texts } := by
  have hsets : setField id text s.texts = s.texts ++ [(id, text)] := setField_new text hid
  refine ⟨?_, named_setField hnew hs.named, hs.listed_nodup, fun other hother => ?_⟩
  · rw [keys, hsets]
    exact nodup_map_extend hs.nodup hid
  · rw [keys, hsets, List.map_append]
    exact List.mem_append_left _ (hs.listed other hother)

section Leaves

variable {s : CauseHash}

/-- A command over a link that may fail keeps what the link has no part in. -/
theorem leaves_command {α : Type} {inv : CauseHash → Prop} {f : CauseHash → α × CauseHash}
    {p : α → CauseHash → Prop} (hs : ∀ link, inv { s with link := link })
    (h : ∀ link, inv (f { s with link := link }).2 ∧
      p (f { s with link := link }).1 (f { s with link := link }).2) :
    Leaves inv (command f) s p := by
  obtain ⟨link, hfails | hdone⟩ := command_cases f s
  · exact leaves_of_error hfails (hs link)
  · exact leaves_of_ok hdone (h link).1 (h link).2

/-- A command that only reads. -/
theorem leaves_read {α : Type} (g : CauseHash → α) (hs : Distinct s)
    (hg : ∀ link, g { s with link := link } = g s) :
    Leaves Distinct (command fun s => (g s, s)) s
      fun a t => a = g s ∧ ∃ link, t = { s with link := link } :=
  leaves_command hs.relink fun link => ⟨hs.relink link, hg link, link, rfl⟩

/-- The texts of some ids are those of causes of them, some of which may not be there. -/
theorem leaves_textsOf (ids : List String) (hs : Distinct s) :
    Leaves Distinct (textsOf ids) s fun texts t => (∃ link, t = { s with link := link }) ∧
      ∃ cs : List FailureCause, texts = cs.map FailureCause.stored ∧
        (cs.map (·.id)).Sublist ids ∧ ∀ c ∈ cs, s.texts.lookup c.id = some c.stored := by
  induction ids generalizing s with
  | nil => exact leaves_pure hs ⟨⟨s.link, rfl⟩, [], rfl, .slnil, nofun⟩
  | cons id rest ih =>
    refine (leaves_read (fun s => s.texts.lookup id) hs fun _ => rfl).bind ?_
    rintro _ _ ht ⟨rfl, link, rfl⟩
    refine (ih ht).bind ?_
    rintro _ _ hu ⟨⟨link, rfl⟩, cs, rfl, hsub, hlookup⟩
    refine leaves_pure hu ⟨⟨link, rfl⟩, ?_⟩
    cases hfield : s.texts.lookup id with
    | none => exact ⟨cs, rfl, hsub.cons id, hlookup⟩
    | some text =>
      obtain ⟨c, rfl, rfl⟩ := hs.named _ (mem_of_lookup hfield)
      exact ⟨c :: cs, rfl, hsub.cons_cons c.id, List.forall_mem_cons.mpr ⟨hfield, hlookup⟩⟩

/-- The live causes are found under distinct ids, in the texts of these. -/
theorem leaves_find (hs : Distinct s) :
    Leaves Distinct (findCauses .live) s fun cs _ => (cs.map (·.id)).Nodup ∧
      ∀ c ∈ cs, s.texts.lookup c.id = some c.stored ∧ c.isRemoved = false := by
  refine (leaves_read (fun s => s.ids) hs fun _ => rfl).bind ?_
  rintro _ _ ht ⟨rfl, link, rfl⟩
  refine (leaves_textsOf s.ids ht).bind ?_
  rintro _ _ hu ⟨⟨link, rfl⟩, cs, rfl, hsub, hlookup⟩
  have hread : Leaves Distinct ((cs.map FailureCause.stored).mapM FailureCause.ofStored)
      { s with link := link } fun found _ => found = cs := leaves_of_ok (mapM_ofStored cs _) hu rfl
  refine hread.bind ?_
  rintro _ _ hv rfl
  refine leaves_pure hv ⟨?_, fun c hc => ?_⟩
  · exact hs.listed_nodup.sublist ((List.filter_sublist.map _).trans hsub)
  · obtain ⟨hc, hlive⟩ := List.mem_filter.mp hc
    refine ⟨hlookup c hc, ?_⟩
    simpa [CauseQuery.selects, CauseQuery.live] using hlive

/-- An insertion keeps what the link has no part in, if what it writes keeps it. -/
theorem leaves_insertion {inv : CauseHash → Prop} (c : FailureCause)
    (hs : ∀ link, inv { s with link := link })
    (hset : s.texts.lookup c.id = none → ∀ link,
      inv { s with texts := setField c.id c.stored s.texts, link := link })
    (hpush : s.texts.lookup c.id = none → ∀ link,
      inv { s with
        texts := setField c.id c.stored s.texts
        ids := s.ids ++ [c.id]
        link := link }) :
    Leaves inv (insert c) s fun _ t => t.texts = setField c.id c.stored s.texts := by
  obtain ⟨link, ⟨e, hrun⟩ | ⟨hnew, hrun | hrun⟩⟩ := insert_cases c s
  · exact leaves_of_error hrun (hs link)
  · exact leaves_of_error hrun (hset hnew link)
  · exact leaves_of_ok hrun (hpush hnew link) rfl

theorem leaves_insert (c : FailureCause) (hs : Distinct s) :
    Leaves Distinct (insert c) s fun _ t => c.id ∈ t.keys := by
  have hkey : c.id ∈ (setField c.id c.stored s.texts).map (·.1) :=
    List.mem_map_of_mem (mem_of_lookup ((lookup_setField ..).trans (if_pos rfl)))
  have hset : s.texts.lookup c.id = none →
      Distinct { s with texts := setField c.id c.stored s.texts } :=
    fun hnew => hs.extend (not_mem_of_lookup hnew) ⟨c, rfl, rfl⟩
  refine (leaves_insertion c hs.relink (fun hnew => (hset hnew).relink) fun hnew link => ?_).mono
    fun _ t _ htexts => ?_
  · refine ⟨(hset hnew).nodup, (hset hnew).named, ?_, ?_⟩
    · exact nodup_extend hs.listed_nodup fun hin => not_mem_of_lookup hnew (hs.listed _ hin)
    · exact List.forall_mem_append.mpr
        ⟨(hset hnew).listed, List.forall_mem_singleton.mpr hkey⟩
  · rw [keys, htexts]
    exact hkey

/-- The texts once a change of a field is made. -/
def Edit.made {α : Type} (id : String) (texts : List (String × String)) :
    Edit α → List (String × String)
  | .write text _ => setField id text texts
  | _ => texts

/-- A change of a field keeps what the link has no part in, if what it writes keeps it. -/
theorem leaves_fieldUpdate {α : Type} {inv : CauseHash → Prop} {id : String}
    {f : Option String → Edit α} (hs : ∀ link, inv { s with link := link })
    (hf : ∀ text a, f (s.texts.lookup id) = .write text a →
      ∀ link, inv { s with texts := setField id text s.texts, link := link }) :
    Leaves inv (fieldUpdate id f) s fun found t =>
      (∀ a, found = some a → ∃ text, f (s.texts.lookup id) = .write text a ∧
        t.texts = setField id text s.texts) ∧ (found = none → t.texts = s.texts) := by
  unfold fieldUpdate
  refine (leaves_command (p := fun edit t => edit = f (s.texts.lookup id) ∧
    t.texts = edit.made id s.texts) hs fun link => ?_).bind ?_
  · dsimp only
    cases hout : f (s.texts.lookup id) with
    | write text a => exact ⟨hf text a hout link, rfl, rfl⟩
    | keep => exact ⟨hs link, rfl, rfl⟩
    | unreadable fault => exact ⟨hs link, rfl, rfl⟩
  · rintro edit t ht ⟨hout, htexts⟩
    cases edit with
    | write text a =>
      refine leaves_pure ht ⟨fun b hb => ?_, nofun⟩
      obtain rfl := Option.some.inj hb
      exact ⟨text, hout.symm, htexts⟩
    | keep => exact leaves_pure ht ⟨nofun, fun _ => htexts⟩
    | unreadable fault => exact leaves_throw _ ht

/-- A change of a field writes only causes of the key, and only where there is one. -/
def Amends {α : Type} (s : CauseHash) (id : String) (f : Option String → Edit α) : Prop :=
  ∀ text a, f (s.texts.lookup id) = .write text a → id ∈ s.keys ∧ Named (id, text)

/-- A change that writes only causes of the key keeps ids distinct. -/
theorem leaves_amend {α : Type} {id : String} {f : Option String → Edit α} (hs : Distinct s)
    (hf : s.Amends id f) :
    Leaves Distinct (fieldUpdate id f) s fun found t => ∀ a, found = some a →
      ∃ text, f (s.texts.lookup id) = .write text a ∧ id ∈ s.keys ∧
        t.texts = setField id text s.texts := by
  refine (leaves_fieldUpdate hs.relink fun text a h link => ?_).mono
    fun found t _ hfound a ha => ?_
  · obtain ⟨hid, hnew⟩ := hf text a h
    exact (hs.set hid hnew).relink link
  · obtain ⟨text, hwrite, htexts⟩ := hfound.1 a ha
    exact ⟨text, hwrite, (hf text a hwrite).1, htexts⟩

/-- What a change of a stored cause writes is the text of the changed cause. -/
theorem exists_of_editCause {f : FailureCause → Option FailureCause} {stored : Option String}
    {text : String} {c' : FailureCause} (h : editCause f stored = .write text c') :
    text = c'.stored ∧ ∃ old c, stored = some old ∧
      decodeText FailureCause.decoder old = .ok c ∧ f c = some c' := by
  cases stored with
  | none => cases h
  | some old =>
    cases hread : decodeText FailureCause.decoder old with
    | error fault =>
      simp only [editCause, hread] at h
      cases h
    | ok c =>
      cases hc : f c with
      | none =>
        simp only [editCause, hread, hc] at h
        cases h
      | some d =>
        simp only [editCause, hread, hc] at h
        obtain ⟨rfl, rfl⟩ := Edit.write.inj h
        exact ⟨rfl, old, c, rfl, hread, hc⟩

/-- A change of a stored cause that keeps its id writes a text of the id. -/
theorem amends_editCause {id : String} {f : FailureCause → Option FailureCause}
    (hs : Distinct s) (hf : ∀ c c', f c = some c' → c'.id = c.id) :
    s.Amends id (editCause f) := by
  intro text c' h
  obtain ⟨rfl, old, c, hfield, hread, hc⟩ := exists_of_editCause h
  have hin := mem_of_lookup hfield
  obtain ⟨d, hold, hid⟩ := hs.named _ hin
  obtain rfl : old = d.stored := hold
  rw [FailureCause.decodeText_stored, Except.ok.injEq] at hread
  exact ⟨List.mem_map_of_mem hin, c', rfl, by rw [hf c c' hc, ← hread]; exact hid⟩

/-- Replacing the text of a cause. -/
theorem amends_update (c : FailureCause) : s.Amends c.id fun
    | some _ => .write c.stored ()
    | none => .keep := by
  intro text a h
  cases hfield : s.texts.lookup c.id with
  | none => rw [hfield] at h; exact absurd h nofun
  | some old =>
    rw [hfield] at h
    obtain ⟨rfl, -⟩ := Edit.write.inj h
    exact ⟨List.mem_map_of_mem (mem_of_lookup hfield), c, rfl, rfl⟩

/-- Putting a tombstone on a stored cause. -/
theorem amends_bury (id : String) (stone : Tombstone) (hs : Distinct s) :
    s.Amends id (editCause fun c => some (c.bury stone)) := by
  refine amends_editCause hs ?_
  rintro c _ ⟨⟩
  rfl

/-- Moving the last occurrence of a stored cause. -/
theorem amends_touch (id : String) (time : UInt64) (hs : Distinct s) :
    s.Amends id (editCause fun c => if c.touches time then some (c.touch time) else none) := by
  refine amends_editCause hs fun c c' h => ?_
  split at h
  · obtain rfl := Option.some.inj h
    exact CauseFile.id_touch c time
  · exact absurd h nofun

theorem leaves_update (c : FailureCause) (hs : Distinct s) :
    Leaves Distinct (update c) s fun replaced t => replaced = true → c.id ∈ t.keys := by
  unfold update
  refine (leaves_amend hs (amends_update c)).bind fun found t ht hfound =>
    leaves_pure ht fun hreplaced => ?_
  obtain ⟨a, rfl⟩ := Option.isSome_iff_exists.mp hreplaced
  obtain ⟨text, -, hid, htexts⟩ := hfound a rfl
  rw [keys, htexts, keys_setField text hid]
  exact hid

/-- Stored texts differ where the causes do. -/
theorem stored_injective {c d : FailureCause} (h : c.stored = d.stored) : c = d := by
  have hc := FailureCause.decodeText_stored c
  rw [h, FailureCause.decodeText_stored] at hc
  exact (Except.ok.inj hc).symm

theorem leaves_tombstone (id : String) (stone : Tombstone) (hs : Distinct s) :
    Leaves Distinct (tombstone id stone) s fun found t => found.isSome = true →
      ∀ causes u, findCauses .live t = .ok causes u → ∀ c ∈ causes, c.id ≠ id := by
  unfold tombstone
  refine (leaves_amend hs (amends_bury id stone hs)).mono
    fun found t ht hfound hsome causes u hfind => ?_
  obtain ⟨c', rfl⟩ := Option.isSome_iff_exists.mp hsome
  obtain ⟨text, hedit, -, htexts⟩ := hfound c' rfl
  rintro d hd rfl
  obtain ⟨hlookup, hlive⟩ := ((leaves_find ht).ok causes u hfind).2.2 d hd
  obtain ⟨rfl, -, c, -, -, hc⟩ := exists_of_editCause hedit
  obtain rfl := Option.some.inj hc
  rw [htexts, lookup_setField, if_pos rfl, Option.some.injEq] at hlookup
  rw [← stored_injective hlookup] at hlive
  exact absurd hlive nofun

theorem leaves_touch (id : String) (time : UInt64) (hs : Distinct s) :
    Leaves Distinct (touch id time) s fun _ _ => True := by
  unfold touch
  exact (leaves_amend hs (amends_touch id time hs)).answer

end Leaves

/-- A key-value store keeps ids distinct, whatever commands fail. -/
theorem storesDistinct : StoresDistinct CauseHash Distinct keys where
  distinct hs := hs.nodup
  find hs := (leaves_find hs).mono fun _ _ _ h => h.1
  insert c hs := leaves_insert c hs
  update c hs := leaves_update c hs
  tombstone id stone hs := leaves_tombstone id stone hs
  touch id time hs := leaves_touch id time hs

end CauseHash

end BuildTriage
