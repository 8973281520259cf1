import BuildTriage.Proofs.Formats
import BuildTriage.Proofs.KnowledgeBase.HashStore
import BuildTriage.Proofs.KnowledgeBase.TableStore

/-!
# Queries for statistics

A query for statistics has exactly one answer: the saved records that the filter selects,
the latest start first, those of one start with the latest saved first, and of these as many
as the limit admits. Tables select and sort rows by signed columns and cut them before the
texts are read; a key-value store reads all texts, latest saved first, and does the rest
itself. Both give that answer.
-/

namespace BuildTriage

open Json

/-- The first items of some, at most as many as the limit admits. -/
def admitted {α : Type} (limit : Option UInt64) (items : List α) : List α :=
  match limit with
  | none => items
  | some n => items.take n.toNat

/-- Of two records, each with the number of records saved before it, the first goes before
the second in an answer: it started later, or at the same time and was saved later. -/
def Precedes (a b : Statistics × Nat) : Prop :=
  b.1.startTime < a.1.startTime ∨ a.1.startTime = b.1.startTime ∧ b.2 < a.2

/-- What a query is answered with, where some records were saved one after the other. -/
def StatisticsFilter.Answers (f : StatisticsFilter) (limit : Option UInt64)
    (saved out : List Statistics) : Prop :=
  ∃ ranked : List (Statistics × Nat), ranked.Perm (saved.zipIdx.filter fun s => f.selects s.1) ∧
    ranked.Pairwise Precedes ∧ out = admitted limit (ranked.map (·.1))

/-- A later start goes before an earlier one. -/
def laterStart (a b : Statistics) : Bool := decide (b.startTime ≤ a.startTime)

/-- Sorting by a key, the greatest first, leaves what has one key in the order in which it
stood before. -/
theorem pairwise_mergeSort_of_key {α : Type} (key : α → UInt64) {tie : α → α → Prop}
    {l : List α} (h : l.Pairwise tie) :
    (l.mergeSort fun a b => decide (key b ≤ key a)).Pairwise
      fun a b => key b < key a ∨ key a = key b ∧ tie a b := by
  have htrans : ∀ a b c : α, decide (key b ≤ key a) = true → decide (key c ≤ key b) = true →
      decide (key c ≤ key a) = true := by
    intro a b c hab hbc
    simp only [decide_eq_true_eq] at *
    exact UInt64.le_trans hbc hab
  have htotal : ∀ a b : α, (decide (key b ≤ key a) || decide (key a ≤ key b)) = true := by
    intro a b
    simp only [Bool.or_eq_true, decide_eq_true_eq]
    exact UInt64.le_total _ _
  induction l with
  | nil => simp
  | cons a l ih =>
    rw [List.pairwise_cons] at h
    -- `a` is put behind all greater keys, so that only what stood behind it can tie with it.
    obtain ⟨front, rest, hsort, htail, hfront⟩ := List.mergeSort_cons htrans htotal a l
    have hrest := ih h.2
    have hsorted := List.pairwise_mergeSort htrans htotal (a :: l)
    have hperm := List.mergeSort_perm l fun a b => decide (key b ≤ key a)
    rw [htail, List.pairwise_append] at hrest
    rw [hsort, List.pairwise_append, List.pairwise_cons] at hsorted
    rw [hsort, List.pairwise_append, List.pairwise_cons]
    refine ⟨hrest.1, ⟨fun b hb => ?_, hrest.2.1⟩, fun b hb c hc => ?_⟩
    · have hle : key b ≤ key a := of_decide_eq_true (hsorted.2.1.1 b hb)
      have hbl : b ∈ l := hperm.mem_iff.mp (htail ▸ List.mem_append_right _ hb)
      rcases UInt64.lt_or_eq_of_le hle with hlt | heq
      · exact .inl hlt
      · exact .inr ⟨heq.symm, h.1 b hbl⟩
    · rcases List.mem_cons.mp hc with rfl | hc
      · have hnot := hfront b hb
        simp only [Bool.not_eq_true', decide_eq_false_iff_not] at hnot
        exact .inl (UInt64.not_le.mp hnot)
      · exact hrest.2.2 b hb c hc

/-- Numbers given one after the other increase. -/
theorem pairwise_zipIdx {α : Type} (l : List α) (n : Nat) :
    (l.zipIdx n).Pairwise fun a b => a.2 < b.2 := by
  induction l generalizing n with
  | nil => exact .nil
  | cons a l ih =>
    rw [List.zipIdx_cons, List.pairwise_cons]
    refine ⟨fun b hb => ?_, ih (n + 1)⟩
    have hle := (List.mem_zipIdx (x := b.1) (i := b.2) hb).1
    simp only
    omega

namespace StatisticsFilter

variable (f : StatisticsFilter) (limit : Option UInt64) (saved : List Statistics)

/-- The records that a filter selects, from the latest saved on, sorted by their start, and
as many as the limit admits. -/
def selected : List Statistics :=
  admitted limit ((saved.reverse.filter f.selects).mergeSort laterStart)

/-- The selected records are an answer. -/
theorem answers_selected : f.Answers limit saved (f.selected limit saved) := by
  have hnumbers : (saved.zipIdx.reverse.filter fun s => f.selects s.1).Pairwise
      fun a b => b.2 < a.2 :=
    (List.pairwise_reverse.mpr (pairwise_zipIdx saved 0)).filter _
  have hsorted := pairwise_mergeSort_of_key
    (fun s : Statistics × Nat => s.1.startTime) hnumbers
  refine ⟨_, ?_, hsorted, ?_⟩
  · refine (List.mergeSort_perm _ _).trans ?_
    rw [List.filter_reverse]
    exact List.reverse_perm _
  · have hsaved : (saved.zipIdx.reverse.filter fun s => f.selects s.1).map (·.1) =
        saved.reverse.filter f.selects := by
      have hmap := List.filter_map (f := Prod.fst) (p := f.selects) (l := saved.zipIdx.reverse)
      rw [List.map_reverse, List.zipIdx_map_fst] at hmap
      exact hmap.symm
    have hsort : ((saved.zipIdx.reverse.filter fun s => f.selects s.1).mergeSort
          fun a b => decide (b.1.startTime ≤ a.1.startTime)).map (·.1) =
        ((saved.zipIdx.reverse.filter fun s => f.selects s.1).map (·.1)).mergeSort laterStart :=
      List.map_mergeSort fun _ _ _ _ => rfl
    rw [selected, hsort, hsaved]

/-- There is no other answer: no two numbered records go before each other. -/
theorem answers_iff (out : List Statistics) :
    f.Answers limit saved out ↔ out = f.selected limit saved := by
  refine ⟨fun h => ?_, fun h => h ▸ f.answers_selected limit saved⟩
  obtain ⟨ranked, hperm, hpair, rfl⟩ := h
  obtain ⟨others, hothers, hpairs, heq⟩ := f.answers_selected limit saved
  have hsame : ranked = others := by
    refine List.Perm.eq_of_pairwise (fun a b _ _ hab hba => ?_) hpair hpairs
      (hperm.trans hothers.symm)
    rcases hab with hlt | ⟨heq, hlt⟩ <;> rcases hba with hgt | ⟨heq', hgt⟩
    · exact absurd hgt (UInt64.lt_asymm hlt)
    · rw [heq'] at hlt
      exact absurd hlt (UInt64.lt_irrefl _)
    · rw [heq] at hgt
      exact absurd hgt (UInt64.lt_irrefl _)
    · omega
  rw [heq, hsame]

/-- The times that a filter compares with are below 2^63. -/
def Timely : Prop :=
  (∀ t, f.since = some t → t.toNat < 2 ^ 63) ∧ ∀ t, f.before = some t → t.toNat < 2 ^ 63

end StatisticsFilter

namespace CauseTable

/-- Numbers are the same if they are so as signed numbers. -/
theorem toInt64_beq (a b : UInt64) : (a.toInt64 == b.toInt64) = (a == b) := by
  rw [Bool.eq_iff_iff, beq_iff_eq, beq_iff_eq]
  refine ⟨fun h => ?_, congrArg _⟩
  have hback := congrArg Int64.toUInt64 h
  simpa using hback

/-- Times below 2^63 are in the same order as signed numbers. -/
theorem toInt64_le {a b : UInt64} (ha : a.toNat < 2 ^ 63) (hb : b.toNat < 2 ^ 63) :
    a.toInt64 ≤ b.toInt64 ↔ a ≤ b := by
  rw [Int64.le_iff_toInt_le, toInt_toInt64 ha, toInt_toInt64 hb, UInt64.le_iff_toNat_le]
  omega

theorem toInt64_lt {a b : UInt64} (ha : a.toNat < 2 ^ 63) (hb : b.toNat < 2 ^ 63) :
    a.toInt64 < b.toInt64 ↔ a < b := by
  rw [Int64.lt_iff_toInt_lt, toInt_toInt64 ha, toInt_toInt64 hb, UInt64.lt_iff_toNat_lt]
  omega

/-- A filter selects the row of a record by its columns as it selects the record. -/
theorem selectsRow_row {f : StatisticsFilter} (hf : f.Timely) {s : Statistics}
    (hs : s.startTime.toNat < 2 ^ 63) : f.selectsRow s.row = f.selects s := by
  have hnumbers : f.buildNumbers.any (·.toInt64 == s.row.buildNumber) =
      f.buildNumbers.contains s.buildNumber := by
    simp only [Statistics.row, toInt64_beq, List.contains_eq_any_beq]
    congr 1
    funext n
    exact Bool.beq_comm
  have hsince : f.since.all (fun t => decide (t.toInt64 ≤ s.row.startTime)) =
      f.since.all fun t => decide (t ≤ s.startTime) := by
    cases ht : f.since with
    | none => rfl
    | some t => exact decide_eq_decide.mpr (toInt64_le (hf.1 t ht) hs)
  have hbefore : f.before.all (fun t => decide (s.row.startTime < t.toInt64)) =
      f.before.all fun t => decide (s.startTime < t) := by
    cases ht : f.before with
    | none => rfl
    | some t => exact decide_eq_decide.mpr (toInt64_lt hs (hf.2 t ht))
  unfold StatisticsFilter.selectsRow StatisticsFilter.selects
  rw [hsince, hbefore, hnumbers]
  rfl

/-- A negative limit admits all rows; it stands for one that is larger than any table. -/
theorem limitRows_eq (limit : Option UInt64) (rows : List StatisticsRow)
    (h : ∀ n, limit = some n → n.toNat < 2 ^ 63 ∨ rows.length ≤ 2 ^ 63) :
    limitRows limit rows = admitted limit rows := by
  cases limit with
  | none => rfl
  | some n =>
    simp only [limitRows, admitted]
    split
    · next hneg =>
      by_cases hn : n.toNat < 2 ^ 63
      · rw [Int64.lt_iff_toInt_lt, toInt_toInt64 hn] at hneg
        exact absurd hneg (by simp)
      · have hlength := (h n rfl).resolve_left hn
        exact (List.take_of_length_le (by omega)).symm
    · rfl

/-- Tables with the rows of the saved records give the selected ones. -/
theorem findStatistics_ok {t : CauseTable} {saved : List Statistics} {f : StatisticsFilter}
    {limit : Option UInt64} (ht : t.records = saved.map Statistics.row) (hf : f.Timely)
    (hsaved : ∀ s ∈ saved, s.startTime.toNat < 2 ^ 63)
    (hlimit : ∀ n, limit = some n → n.toNat < 2 ^ 63 ∨ saved.length ≤ 2 ^ 63) :
    findStatistics f limit t = .ok (f.selected limit saved) t := by
  have hselected : (t.records.filter f.selectsRow).reverse =
      (saved.reverse.filter f.selects).map Statistics.row := by
    rw [ht, List.filter_map, ← List.map_reverse, ← List.filter_reverse]
    congr 1
    refine List.filter_congr fun s hs => ?_
    exact selectsRow_row hf (hsaved s (List.mem_reverse.mp hs))
  have hsorted : ((t.records.filter f.selectsRow).reverse.mergeSort
        fun a b => decide (b.startTime ≤ a.startTime)) =
      ((saved.reverse.filter f.selects).mergeSort laterStart).map Statistics.row := by
    rw [hselected]
    refine (List.map_mergeSort fun a ha b hb => ?_).symm
    have htime : ∀ s ∈ saved.reverse.filter f.selects, s.startTime.toNat < 2 ^ 63 :=
      fun s hs => hsaved s (List.mem_reverse.mp (List.mem_filter.mp hs).1)
    simp only [laterStart, Statistics.row, toInt64_le (htime b hb) (htime a ha)]
  have hlength : ((saved.reverse.filter f.selects).mergeSort laterStart).length ≤
      saved.length := by
    rw [List.length_mergeSort]
    exact (List.length_filter_le _ _).trans_eq List.length_reverse
  have hlimited : limitRows limit
        (((saved.reverse.filter f.selects).mergeSort laterStart).map Statistics.row) =
      (f.selected limit saved).map Statistics.row := by
    rw [limitRows_eq _ _ fun n hn => (hlimit n hn).imp_right fun h => by
      rw [List.length_map]
      exact hlength.trans h]
    cases limit with
    | none => rfl
    | some n => exact List.map_take.symm
  rw [findStatistics, bind_ok (get_ok t), hsorted, hlimited]
  refine mapM_ok (fun s => ?_) _
  simp only [Statistics.row, Statistics.restores.compact]
  rfl

end CauseTable

namespace CauseHash

/-- A key-value store with the texts of the saved records, the latest first, gives the
selected ones. -/
theorem findStatistics_ok {s : CauseHash} {saved : List Statistics}
    (hs : s.records = saved.reverse.map fun r => r.encode.compact)
    (hlink : s.link = ⟨[], false⟩) (f : StatisticsFilter) (limit : Option UInt64) :
    findStatistics f limit s = .ok (f.selected limit saved) s := by
  have hread : (command fun s => (s.records, s)) s =
      .ok (saved.reverse.map fun r => r.encode.compact) s := by
    rw [command_ok hlink, hs]
  rw [findStatistics, bind_ok hread]
  refine (bind_ok (mapM_ok (fun r => ?_) saved.reverse)).trans ?_
  · simp only [Statistics.restores.compact]
    rfl
  · cases limit with
    | none => rfl
    | some n => rfl

end CauseHash

/-- A knowledge base over a document store answers a query as the store does, if statistics
are kept, and else with no records. -/
theorem DocumentBase.statistics_ok {σ : Type} [DocumentStore σ] {b : DocumentBase σ}
    {f : StatisticsFilter} {limit : Option UInt64} {out : List Statistics}
    (hon : b.keepsStatistics = true →
      DocumentStore.findStatistics f limit b.store = .ok out b.store)
    (hoff : b.keepsStatistics = false → out = []) :
    (CauseStore.statistics f limit : Op (DocumentBase σ) _) b = .ok out b := by
  obtain ⟨store, keeps, successful⟩ := b
  cases keeps with
  | false =>
    rw [hoff rfl]
    rfl
  | true =>
    have hfind : onStore (DocumentStore.findStatistics f limit) ⟨store, true, successful⟩ =
        .ok out ⟨store, true, successful⟩ := by rw [onStore, hon rfl]
    exact (bind_ok (get_ok _)).trans hfind

namespace KnowledgeBase

/-- Saves some records, one after the other. -/
def saveEach : List Statistics → Op KnowledgeBase Unit
  | [] => return ()
  | s :: rest => do
    saveStatistics s
    saveEach rest

/-- Records that are saved in tables get rows in order. -/
theorem saveEach_table (saved : List Statistics) (t : CauseTable) (keeps successful : Bool)
    (cache : Option CauseCache) :
    saveEach saved ⟨.table ⟨t, keeps, successful⟩, cache⟩ = .ok () ⟨.table ⟨{ t with
      records := t.records ++ (if keeps then saved else []).map Statistics.row },
      keeps, successful⟩, cache⟩ := by
  cases keeps with
  | false =>
    induction saved with
    | nil => simp [saveEach, pure, EStateM.pure]
    | cons s rest ih => exact (bind_ok rfl).trans ih
  | true =>
    induction saved generalizing t with
    | nil => simp [saveEach, pure, EStateM.pure]
    | cons s rest ih =>
      refine (bind_ok rfl).trans ((ih { t with records := t.records ++ [s.row] }).trans ?_)
      simp

/-- Records that are saved in a key-value store go to the front, one after the other. -/
theorem saveEach_hash (saved : List Statistics) (h : CauseHash) (keeps successful : Bool)
    (cache : Option CauseCache) (hlink : h.link = ⟨[], false⟩) :
    saveEach saved ⟨.hash ⟨h, keeps, successful⟩, cache⟩ = .ok () ⟨.hash ⟨{ h with
      records := (if keeps then saved else []).reverse.map (fun s => s.encode.compact) ++
        h.records }, keeps, successful⟩, cache⟩ := by
  obtain ⟨texts, ids, records, link⟩ := h
  simp only at hlink
  subst hlink
  cases keeps with
  | false =>
    induction saved with
    | nil => simp [saveEach, pure, EStateM.pure]
    | cons s rest ih => exact (bind_ok rfl).trans ih
  | true =>
    induction saved generalizing records with
    | nil => simp [saveEach, pure, EStateM.pure]
    | cons s rest ih =>
      refine (bind_ok rfl).trans ((ih (s.encode.compact :: records)).trans ?_)
      simp

/-- Whatever records were saved, in tables without records and in a key-value store without
records whose link does not fail, a query gives in both the one answer that there is: none if
statistics are not kept, and else as the records demand that the filter selects. Starts, and
times that the filter compares with, are below 2^63. A limit from there on is none for tables;
it is never reached, since the numbers that rows get are positive signed ones. -/
theorem statistics_answer (saved : List Statistics) (f : StatisticsFilter)
    (limit : Option UInt64) (t : CauseTable) (h : CauseHash) (keeps successful : Bool)
    (cache : Option CauseCache) (ht : t.records = []) (hh : h.records = [])
    (hlink : h.link = ⟨[], false⟩) (hsaved : ∀ s ∈ saved, s.startTime.toNat < 2 ^ 63)
    (hf : f.Timely) (hlimit : ∀ n, limit = some n → n.toNat < 2 ^ 63 ∨ saved.length ≤ 2 ^ 63) :
    ∃ k l out, saveEach saved ⟨.table ⟨t, keeps, successful⟩, cache⟩ = .ok () k ∧
      saveEach saved ⟨.hash ⟨h, keeps, successful⟩, cache⟩ = .ok () l ∧
      statistics f limit k = .ok out k ∧ statistics f limit l = .ok out l ∧
      ∀ other, f.Answers limit (if keeps then saved else []) other ↔ other = out := by
  have hnone : keeps = false → f.selected limit (if keeps then saved else []) = [] := by
    rintro rfl
    cases limit <;> simp [StatisticsFilter.selected, admitted]
  refine ⟨_, _, f.selected limit (if keeps then saved else []),
    saveEach_table saved t keeps successful cache,
    saveEach_hash saved h keeps successful cache hlink, ?_, ?_, f.answers_iff limit _⟩
  · rw [statistics, onBacking, Backing.run, DocumentBase.statistics_ok (fun hon => ?_) hnone]
    · rfl
    · obtain rfl : keeps = true := hon
      have hrecords : t.records ++ saved.map Statistics.row = saved.map Statistics.row := by
        rw [ht, List.nil_append]
      exact CauseTable.findStatistics_ok hrecords hf hsaved hlimit
  · rw [statistics, onBacking, Backing.run, DocumentBase.statistics_ok (fun hon => ?_) hnone]
    · rfl
    · obtain rfl : keeps = true := hon
      have hrecords : saved.reverse.map (fun s => s.encode.compact) ++ h.records =
          saved.reverse.map fun s => s.encode.compact := by rw [hh, List.append_nil]
      exact CauseHash.findStatistics_ok (s := { h with records := _ }) hrecords hlink f limit

/-- Three records of one project: two started at the same time, one ran on another node. -/
def sampleRecords : List Statistics :=
  [⟨"app", 1, "", 50, 3, [], "n1", "main", "", "FAILURE", none, []⟩,
    ⟨"app", 18446744073709551615, "", 50, 3, [], "n1", "main", "", "ABORTED", none, []⟩,
    ⟨"app", 2, "", 90, 3, [], "n2", "main", "", "FAILURE", none, []⟩,
    ⟨"app", 3, "", 40, 3, [], "n1", "main", "", "FAILURE", none, []⟩]

/-- A query with two bounds for the start and a list of build numbers, cut to two of the
three records that it selects. -/
theorem statistics_answer_sample :
    (∀ s ∈ sampleRecords, s.startTime.toNat < 2 ^ 63) ∧
    ∃ k l out,
      saveEach sampleRecords (ofTable .empty true false).cached = .ok () k ∧
      saveEach sampleRecords (ofHash .empty true false).cached = .ok () l ∧
      statistics { StatisticsFilter.all with
        since := some 40, before := some 90, buildNumbers := [3, 18446744073709551615, 1] }
        (some 2) k = .ok out k ∧
      statistics { StatisticsFilter.all with
        since := some 40, before := some 90, buildNumbers := [3, 18446744073709551615, 1] }
        (some 2) l = .ok out l ∧
      out = [sampleRecords[1], sampleRecords[0]] := by
  have hsaved : ∀ s ∈ sampleRecords, s.startTime.toNat < 2 ^ 63 := by decide
  obtain ⟨k, l, out, hk, hl, hkout, hlout, hout⟩ := statistics_answer sampleRecords
    { StatisticsFilter.all with
        since := some 40, before := some 90, buildNumbers := [3, 18446744073709551615, 1] }
    (some 2) .empty .empty true false (some .cold) rfl rfl rfl hsaved
    ⟨fun t ht => by obtain rfl := Option.some.inj ht; decide,
      fun t ht => by obtain rfl := Option.some.inj ht; decide⟩
    fun n hn => .inl (by obtain rfl := Option.some.inj hn; decide)
  refine ⟨hsaved, k, l, out, hk, hl, hkout, hlout, Eq.symm ((hout _).mp ⟨
    [(sampleRecords[1], 1), (sampleRecords[0], 0), (sampleRecords[3], 3)], ?_, ?_, rfl⟩)⟩
  · decide
  · simp [Precedes, sampleRecords]

end KnowledgeBase

end BuildTriage
