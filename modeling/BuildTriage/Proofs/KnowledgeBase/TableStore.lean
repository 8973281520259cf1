import BuildTriage.Proofs.KnowledgeBase.CauseText
import BuildTriage.Proofs.KnowledgeBase.Contract

/-!
# Causes in tables keep a catalog

Each row of the table has the columns of its cause, and a text that depicts it. The texts
are changed in place, so their members may stand in another order than when they were
written first.
-/

namespace BuildTriage

open Json

/-- A row has the columns of a cause, and a text that depicts it. -/
structure CauseRow.Keeps (r : CauseRow) (c : FailureCause) : Prop where
  /-- The id of the row. -/
  id_eq : r.id = c.id
  /-- Its name. -/
  name_eq : r.name = c.name
  /-- Whether it is removed. -/
  removed_eq : r.removed = c.isRemoved
  /-- Its text. -/
  depicts : ∃ v, r.text = v.compact ∧ FailureCause.Depicts v c

/-- The row of a cause keeps it. -/
theorem FailureCause.row_keeps (c : FailureCause) : c.row.Keeps c where
  id_eq := rfl
  name_eq := rfl
  removed_eq := rfl
  depicts := ⟨c.encode, rfl, depicts_encode c⟩

namespace TextFunctions

variable {v : Value}

/-- A member is set in the compact text of a value. -/
theorem set_compact (hv : v.Exact) (hn : v.nesting ≤ maxNesting) (name : String) (w : Value) :
    json.set v.compact name w = some (v.setMember name w).compact := by
  simp only [json, read?_compact hv hn, Option.map_some, setMember_node, compact_node]

/-- A member of the compact text of a value is compared with a time. -/
theorem isEarlier_compact (hv : v.Exact) (hn : v.nesting ≤ maxNesting) (name : String)
    (time : Int64) :
    json.isEarlier v.compact name time =
      some (earlier ((v.firstMember? name).map Value.node) time) := by
  simp only [json, read?_compact hv hn, Option.map_some, firstMember?_node]

end TextFunctions

namespace CauseTable

/-- What a function of texts gives is taken. -/
theorem applied_some {α : Type} (a : α) (t : CauseTable) : applied (some a) t = .ok a t := rfl

/-- The row of an id is changed. -/
theorem changeRow_ok (id : String) (f : CauseRow → CauseRow) (t : CauseTable) :
    changeRow id f t =
      .ok () { t with rows := t.rows.map fun r => if r.id = id then f r else r } := rfl

/-- The rows keep the causes of the catalog, one each, in order. -/
def Stands (t : CauseTable) (cat : Catalog) : Prop :=
  List.Forall₂ CauseRow.Keeps t.rows cat.causes

/-- Each row keeps one of the causes. -/
theorem keeps_of_mem {rows : List CauseRow} {causes : List FailureCause}
    (h : List.Forall₂ CauseRow.Keeps rows causes) {r : CauseRow} (hr : r ∈ rows) :
    ∃ c ∈ causes, r.Keeps c := by
  induction h with
  | nil => exact absurd hr List.not_mem_nil
  | @cons r' c' rows causes hfirst _ ih =>
    rcases List.mem_cons.mp hr with rfl | hrest
    · exact ⟨c', List.mem_cons_self, hfirst⟩
    · obtain ⟨c, hc, hk⟩ := ih hrest
      exact ⟨c, List.mem_cons_of_mem _ hc, hk⟩

/-- A row is found where a cause is. -/
theorem find?_keeps {rows : List CauseRow} {causes : List FailureCause}
    (h : List.Forall₂ CauseRow.Keeps rows causes) (id : String) :
    (rows.find? (·.id == id) = none ∧ causes.find? (fun c => decide (c.id = id)) = none) ∨
      ∃ r c, rows.find? (·.id == id) = some r ∧
        causes.find? (fun c => decide (c.id = id)) = some c ∧ r.Keeps c := by
  induction h with
  | nil => exact .inl ⟨rfl, rfl⟩
  | @cons r c rows causes hr _ ih =>
    by_cases hid : c.id = id
    · refine .inr ⟨r, c, ?_, ?_, hr⟩
      · simp only [List.find?_cons, hr.id_eq, hid, BEq.rfl]
      · simp only [List.find?_cons, hid, decide_true]
    · have hrow : (r.id == id) = false := by rw [beq_eq_false_iff_ne, hr.id_eq]; exact hid
      simp only [List.find?_cons, hrow, decide_eq_false hid]
      exact ih

/-- The row of an id is there if its cause is. -/
theorem row?_keeps {t : CauseTable} {cat : Catalog} (h : Stands t cat) (id : String) :
    (t.row? id = none ∧ cat.get id = none) ∨
      ∃ r c, t.row? id = some r ∧ cat.get id = some c ∧ r.Keeps c := find?_keeps h id

/-- The row of an id is there exactly when the id is in use. -/
theorem row?_isSome {t : CauseTable} {cat : Catalog} (h : Stands t cat) (id : String) :
    (t.row? id).isSome = true ↔ id ∈ cat.ids := by
  rw [← Catalog.get_isSome_iff]
  rcases row?_keeps h id with ⟨hr, hc⟩ | ⟨r, c, hr, hc, _⟩
  · simp only [hr, hc, Option.isSome_none]
  · simp only [hr, hc, Option.isSome_some]

/-- Rows of other ids do not change. -/
theorem keeps_map_other {rows : List CauseRow} {causes : List FailureCause} {id : String}
    (f : CauseRow → CauseRow) (g : FailureCause → FailureCause)
    (h : List.Forall₂ CauseRow.Keeps rows causes) (hid : ∀ c ∈ causes, c.id ≠ id) :
    List.Forall₂ CauseRow.Keeps (rows.map fun r => if r.id = id then f r else r)
      (causes.map fun c => if c.id = id then g c else c) := by
  induction h with
  | nil => exact .nil
  | @cons r c rows causes hr _ ih =>
    have hc : c.id ≠ id := hid c List.mem_cons_self
    rw [List.map_cons, List.map_cons, if_neg hc, if_neg (hr.id_eq ▸ hc)]
    exact .cons hr (ih fun d hd => hid d (List.mem_cons_of_mem _ hd))

/-- If the row of an id and its cause change together, rows and causes stay together. -/
theorem keeps_map {rows : List CauseRow} {causes : List FailureCause} {id : String}
    {r : CauseRow} {c : FailureCause} (f : CauseRow → CauseRow) (g : FailureCause → FailureCause)
    (h : List.Forall₂ CauseRow.Keeps rows causes) (hn : (causes.map (·.id)).Nodup)
    (hr : rows.find? (·.id == id) = some r)
    (hc : causes.find? (fun c => decide (c.id = id)) = some c) (hk : (f r).Keeps (g c)) :
    List.Forall₂ CauseRow.Keeps (rows.map fun r => if r.id = id then f r else r)
      (causes.map fun c => if c.id = id then g c else c) := by
  induction h with
  | nil => exact absurd hr (by simp)
  | @cons r' c' rows causes hr' hrest ih =>
    rw [List.map_cons, List.nodup_cons] at hn
    by_cases hid : c'.id = id
    · have hrow : (r'.id == id) = true := by rw [beq_iff_eq, hr'.id_eq]; exact hid
      simp only [List.find?_cons, hrow, hid, decide_true, Option.some.injEq] at hr hc
      subst hr hc
      have hother : ∀ d ∈ causes, d.id ≠ id :=
        fun d hd he => hn.1 (List.mem_map.mpr ⟨d, hd, he.trans hid.symm⟩)
      rw [List.map_cons, List.map_cons, if_pos hid, if_pos (hr'.id_eq.trans hid)]
      exact .cons hk (keeps_map_other f g hrest hother)
    · have hrow : (r'.id == id) = false := by rw [beq_eq_false_iff_ne, hr'.id_eq]; exact hid
      simp only [List.find?_cons, hrow, decide_eq_false hid] at hr hc
      rw [List.map_cons, List.map_cons, if_neg hid, if_neg (hr'.id_eq ▸ hid)]
      exact .cons hr' (ih hn.2 hr hc)

/-- The stored text of a cause reads as the cause. -/
theorem ofStored_depicts {v : Value} {c : FailureCause} (h : FailureCause.Depicts v c)
    (t : CauseTable) : FailureCause.ofStored v.compact t = .ok c t := by
  rw [FailureCause.ofStored, decodeText_compact _ v h.exact, h.reads]
  rfl

/-- The stored texts of some rows read as their causes. -/
theorem mapM_ofStored {rows : List CauseRow} {causes : List FailureCause}
    (h : List.Forall₂ CauseRow.Keeps rows causes) (t : CauseTable) :
    rows.mapM (fun r => (FailureCause.ofStored r.text : Op CauseTable FailureCause)) t =
      .ok causes t := by
  induction h with
  | nil => rfl
  | @cons r c rows causes hr _ ih =>
    obtain ⟨v, hv, hd⟩ := hr.depicts
    rw [List.mapM_cons, hv, bind_ok (ofStored_depicts hd t), bind_ok ih]
    rfl

/-- The rows of the live causes are selected. -/
theorem filterM_live (rows : List CauseRow) (t : CauseTable) :
    rows.filterM (selectsRow .json .live) t = .ok (rows.filter (!·.removed)) t := by
  have hselect : ∀ r, selectsRow .json .live r t = .ok (!r.removed) t := by
    intro r
    cases hr : r.removed <;> simp [selectsRow, CauseQuery.live, hr, pure, EStateM.pure]
  have haux : ∀ (rows acc : List CauseRow),
      List.filterAuxM (selectsRow .json .live) rows acc t =
        .ok ((rows.filter (!·.removed)).reverse ++ acc) t := by
    intro rows
    induction rows with
    | nil => intro acc; rfl
    | cons r rest ih =>
      intro acc
      rw [List.filterAuxM, bind_ok (hselect r), ih]
      cases hr : r.removed <;> simp [hr]
  rw [List.filterM, bind_ok (haux rows []), List.append_nil, List.reverse_reverse]
  rfl

/-- The rows of the live causes keep the live causes. -/
theorem keeps_live {rows : List CauseRow} {causes : List FailureCause}
    (h : List.Forall₂ CauseRow.Keeps rows causes) :
    List.Forall₂ CauseRow.Keeps (rows.filter (!·.removed))
      (causes.filter fun c => c.removed.isNone) := by
  induction h with
  | nil => exact .nil
  | @cons r c rows causes hr _ ih =>
    have hremoved := hr.removed_eq
    cases hc : c.removed with
    | none =>
      simp only [FailureCause.isRemoved, hc, Option.isSome_none] at hremoved
      simp only [List.filter_cons, hremoved, hc, Bool.not_false, if_true, Option.isNone_none]
      exact .cons hr ih
    | some stone =>
      simp only [FailureCause.isRemoved, hc, Option.isSome_some] at hremoved
      simp only [List.filter_cons, hremoved, hc, Bool.not_true, Bool.false_eq_true, if_false,
        Option.isNone_some]
      exact ih

/-- A time below 2^63 is the same as a signed number. -/
theorem toInt_toInt64 {time : UInt64} (ht : time.toNat < 2 ^ 63) :
    time.toInt64.toInt = (time.toNat : Int) := by
  have hsmall : 2 * time.toBitVec.toNat < 2 ^ 64 := by
    rw [UInt64.toNat_toBitVec]
    omega
  rw [Int64.toInt, UInt64.toBitVec_toInt64, BitVec.toInt_eq_toNat_of_lt hsmall,
    UInt64.toNat_toBitVec]

/-- A time below 2^63 is written as it is. -/
theorem signed_toInt64 {time : UInt64} (ht : time.toNat < 2 ^ 63) :
    Value.signed time.toInt64 = .word time := by
  have hint := toInt_toInt64 ht
  rw [Value.signed, hint, if_pos (Int.natCast_nonneg _), Int.toNat_natCast]
  rfl

/-- A stored last occurrence is earlier than a time if being seen then moves it. -/
theorem isEarlier_depicts {v : Value} {c : FailureCause} (h : FailureCause.Depicts v c)
    {time : UInt64} (ht : time.toNat < 2 ^ 63) :
    TextFunctions.json.isEarlier v.compact "lastOccurred" time.toInt64 =
      some (c.touches time) := by
  have hint : time.toInt64.toInt = (time.toNat : Int) := toInt_toInt64 ht
  rw [TextFunctions.isEarlier_compact h.exact h.nesting, h.lastOccurred, FailureCause.touches]
  cases c.lastOccurred with
  | none => rfl
  | some last =>
    have hbelow : (Numeral.unsigned last.toNat).below time.toInt64 = decide (last < time) := by
      simp only [Numeral.below, Numeral.scaled, hint, UInt64.lt_iff_toNat_lt]
      by_cases hz : (last.toNat : Int) = 0
      · rw [if_pos hz, decide_eq_decide]
        omega
      · rw [if_neg hz, if_neg (by decide), if_pos (Int.le_refl 0), decide_eq_decide,
          Int.toNat_zero, Nat.pow, Int.natCast_one, Int.mul_one]
        omega
    exact congrArg some hbelow

/-- The cause of an id is read. -/
theorem gives_get {t : CauseTable} {cat : Catalog} (id : String) (h : Stands t cat) :
    Gives Stands (getCause id) t (.ok (cat.get id)) cat := by
  rcases row?_keeps h id with ⟨hr, hc⟩ | ⟨r, c, hr, hc, hk⟩
  · refine ⟨t, ?_, h⟩
    rw [getCause, bind_ok (get_ok t), hr, hc]
    rfl
  · obtain ⟨v, hv, hd⟩ := hk.depicts
    refine ⟨t, ?_, h⟩
    rw [getCause, bind_ok (get_ok t), hr, hc]
    simp only [hv]
    rw [bind_ok (ofStored_depicts hd t)]
    rfl

/-- The live causes are read. -/
theorem gives_find {t : CauseTable} {cat : Catalog} (h : Stands t cat) :
    Gives Stands (findCauses .json .live) t (.ok cat.live) cat := by
  refine ⟨t, ?_, h⟩
  rw [findCauses, bind_ok (get_ok t), bind_ok (filterM_live t.rows t)]
  exact mapM_ofStored (keeps_live h) t

/-- A row is added for a cause whose id is not in use. -/
theorem gives_insert {t : CauseTable} {cat : Catalog} (c : FailureCause) (h : Stands t cat)
    (hid : c.id ∉ cat.ids) :
    Gives Stands (insert c) t (.ok ()) (cat.add c) := by
  have hrow : (t.row? c.id).isSome = false := by
    rw [Bool.eq_false_iff, ne_eq, row?_isSome h]
    exact hid
  refine ⟨{ t with rows := t.rows ++ [c.row] }, ?_, ?_⟩
  · rw [insert, bind_ok (get_ok t), hrow]
    rfl
  · have hadd : (cat.add c).causes = cat.causes ++ [c] := by
      simp only [Catalog.add, hid, dite_false, Catalog.append]
    unfold Stands
    rw [hadd]
    exact List.rel_append h (.cons c.row_keeps .nil)

/-- A cause whose id is in use is refused. -/
theorem insert_known {t : CauseTable} {cat : Catalog} {c : FailureCause} (h : Stands t cat)
    (hid : c.id ∈ cat.ids) : insert c t = .error (.query .sqlite .duplicateRow) t := by
  rw [insert, bind_ok (get_ok t), if_pos ((row?_isSome h c.id).mpr hid)]
  rfl

/-- The row of a cause is replaced. -/
theorem gives_update {t : CauseTable} {cat : Catalog} (c : FailureCause) (h : Stands t cat)
    (hid : c.id ∈ cat.ids) :
    Gives Stands (update c) t (.ok true) (cat.save c) := by
  rcases row?_keeps h c.id with ⟨_, hc⟩ | ⟨r, old, hr, hc, _⟩
  · have hsome := (Catalog.get_isSome_iff cat c.id).mpr hid
    rw [hc] at hsome
    exact absurd hsome (by decide)
  · refine ⟨{ t with rows := t.rows.map fun r => if r.id = c.id then c.row else r }, ?_, ?_⟩
    · rw [update, bind_ok (get_ok t), hr]
      rfl
    · have hsave : (cat.save c).causes =
          cat.causes.map fun d => if d.id = c.id then c else d := by
        simp only [Catalog.save, hid, dite_true, Catalog.adjust]
        rfl
      unfold Stands
      rw [hsave]
      exact keeps_map (fun _ => c.row) (fun _ => c) h cat.distinct hr hc c.row_keeps

/-- No row is replaced under an unknown id. -/
theorem gives_update_unknown {t : CauseTable} {cat : Catalog} (c : FailureCause)
    (h : Stands t cat) (hid : c.id ∉ cat.ids) :
    Gives Stands (update c) t (.ok false) cat := by
  have hrow : (t.row? c.id).isNone = true := by
    rw [Option.isNone_iff_eq_none, ← Option.not_isSome_iff_eq_none, row?_isSome h]
    exact hid
  refine ⟨t, ?_, h⟩
  rw [update, bind_ok (get_ok t), hrow]
  rfl

/-- A tombstone is written into a row and its text. -/
theorem gives_tombstone {t : CauseTable} {cat : Catalog} (id : String) (stone : Tombstone)
    (h : Stands t cat) :
    Gives Stands (tombstone .json id stone) t (.ok ((cat.remove id stone).get id))
      (cat.remove id stone) := by
  rw [Catalog.get_remove]
  rcases row?_keeps h id with ⟨hr, hc⟩ | ⟨r, c, hr, hc, hk⟩
  · refine ⟨t, ?_, ?_⟩
    · rw [tombstone, bind_ok (get_ok t), hr, hc]
      rfl
    · rw [Catalog.remove_unknown hc]
      exact h
  · obtain ⟨v, hv, hd⟩ := hk.depicts
    have hset := TextFunctions.set_compact hd.exact hd.nesting "removed" stone.encode
    have hburied := hd.bury stone
    have hrow : CauseRow.Keeps { r with
        removed := true, text := (v.setMember "removed" stone.encode).compact }
        (c.bury stone) :=
      ⟨hk.id_eq, hk.name_eq, rfl, _, rfl, hburied⟩
    refine ⟨{ t with rows := t.rows.map fun r => if r.id = id then { r with
      removed := true, text := (v.setMember "removed" stone.encode).compact } else r }, ?_, ?_⟩
    · rw [tombstone, bind_ok (get_ok t), hr, hc]
      simp only [hv, hset]
      rw [bind_ok (applied_some _ t), bind_ok (changeRow_ok id _ t),
        bind_ok (ofStored_depicts hburied _)]
      rfl
    · exact keeps_map _ _ h cat.distinct hr hc hrow

/-- A last occurrence is written into the text of a row, if that moves it forward. -/
theorem gives_touch {t : CauseTable} {cat : Catalog} (id : String) (time : UInt64)
    (h : Stands t cat) (ht : time.toNat < 2 ^ 63) :
    ∃ moved, Gives Stands (touch .json id time) t (.ok moved) (cat.lastSeen [id] time) := by
  have hseen := Catalog.lastSeen_one cat id time
  rcases row?_keeps h id with ⟨hr, hc⟩ | ⟨r, c, hr, hc, hk⟩
  · refine ⟨false, t, ?_, ?_⟩
    · rw [touch, bind_ok (get_ok t), hr]
      rfl
    · unfold Stands
      rw [hseen, Catalog.map_unknown hc]
      exact h
  · obtain ⟨v, hv, hd⟩ := hk.depicts
    have hset := TextFunctions.set_compact hd.exact hd.nesting "lastOccurred" (.signed time.toInt64)
    have hearlier := isEarlier_depicts hd ht
    cases hm : c.touches time with
    | true =>
      rw [hm] at hearlier
      refine ⟨true, { t with rows := t.rows.map fun r => if r.id = id then { r with
        text := (v.setMember "lastOccurred" (.signed time.toInt64)).compact } else r }, ?_, ?_⟩
      · rw [touch, bind_ok (get_ok t), hr]
        simp only [hv, hearlier, hset]
        rw [bind_ok (applied_some _ t), if_pos rfl, bind_ok (applied_some _ t)]
        rfl
      · unfold Stands
        rw [hseen]
        refine keeps_map _ _ h cat.distinct hr hc ?_
        have htouch : c.touch time = { c with lastOccurred := some time } :=
          Catalog.touch_of_touches hm
        rw [htouch, signed_toInt64 ht]
        exact ⟨hk.id_eq, hk.name_eq, hk.removed_eq, _, rfl, hd.seen time⟩
    | false =>
      rw [hm] at hearlier
      refine ⟨false, t, ?_, ?_⟩
      · rw [touch, bind_ok (get_ok t), hr]
        simp only [hv, hearlier]
        rw [bind_ok (applied_some _ t)]
        rfl
      · rw [Catalog.lastSeen_one_still hc hm]
        exact h

/-- Causes in tables keep a catalog. -/
theorem keeps : Keeps CauseTable Stands where
  get := gives_get
  find := gives_find
  insert := gives_insert
  update := gives_update
  update_unknown := gives_update_unknown
  tombstone := gives_tombstone
  touch := gives_touch

end CauseTable

end BuildTriage
