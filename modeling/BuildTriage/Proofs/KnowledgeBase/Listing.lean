import BuildTriage.Proofs.KnowledgeBase.Contract

/-!
# Listings of a catalog

The listings that are made of the live causes of a catalog are those of the catalog. The
shallow one sorts pairs of a key and what is shown, and the categories are put one by one
into a list that is kept in order.
-/

namespace BuildTriage

/-- Before a value that goes last among those in front of it, nothing is out of place. -/
theorem orderedInsert_between {α : Type} {r : α → α → Prop} [DecidableRel r] {a : α}
    {front rest : List α} (hfront : ∀ b ∈ front, ¬r a b) (hrest : ∀ b ∈ rest, r a b) :
    (front ++ rest).orderedInsert r a = front ++ a :: rest := by
  induction front with
  | nil =>
    cases rest with
    | nil => rfl
    | cons b rest => exact List.orderedInsert_cons_of_le r rest (hrest b List.mem_cons_self)
  | cons b front ih =>
    have hb : ¬r a b := hfront b List.mem_cons_self
    have hother := ih fun c hc => hfront c (List.mem_cons_of_mem b hc)
    rw [List.cons_append, List.orderedInsert_of_not_le r _ hb, hother, List.cons_append]

/-- Two stable ways to sort by a key give the same. -/
theorem mergeSort_eq_insertionSort_of_key {α β : Type} [LinearOrder β] (key : α → β)
    (l : List α) : l.mergeSort (fun a b => decide (key a ≤ key b)) =
      l.insertionSort fun a b => key a ≤ key b := by
  have htrans : ∀ a b c : α, decide (key a ≤ key b) = true → decide (key b ≤ key c) = true →
      decide (key a ≤ key c) = true := by
    intro a b c hab hbc
    simp only [decide_eq_true_eq] at *
    exact hab.trans hbc
  have htotal : ∀ a b : α, (decide (key a ≤ key b) || decide (key b ≤ key a)) = true := by
    intro a b
    simp only [Bool.or_eq_true, decide_eq_true_eq]
    exact le_total _ _
  induction l with
  | nil => rw [List.mergeSort_nil, List.insertionSort_nil]
  | cons a l ih =>
    obtain ⟨front, rest, hsort, htail, hfront⟩ := List.mergeSort_cons htrans htotal a l
    have hsorted := List.pairwise_mergeSort htrans htotal (a :: l)
    rw [hsort, List.pairwise_append, List.pairwise_cons] at hsorted
    rw [List.insertionSort_cons, ← ih, htail, hsort]
    refine (orderedInsert_between ?_ ?_).symm
    · intro b hb
      have := hfront b hb
      simpa using this
    · intro b hb
      exact of_decide_eq_true (hsorted.2.1.1 b hb)

/-- A text put in its place among others is there beside them. -/
theorem mem_insertDistinct (s t : String) (l : List String) :
    t ∈ insertDistinct s l ↔ t = s ∨ t ∈ l := by
  induction l with
  | nil => simp [insertDistinct]
  | cons u rest ih =>
    unfold insertDistinct
    split
    · simp
    · split
      · next h => simp [h]
      · simp only [List.mem_cons, ih]
        tauto

/-- A text is put in its place among others in strictly increasing order. -/
theorem pairwise_insertDistinct (s : String) {l : List String} (h : l.Pairwise (· < ·)) :
    (insertDistinct s l).Pairwise (· < ·) := by
  induction l with
  | nil => exact List.pairwise_singleton _ _
  | cons u rest ih =>
    rw [List.pairwise_cons] at h
    unfold insertDistinct
    split
    · next hlt =>
      refine List.pairwise_cons.mpr ⟨?_, List.pairwise_cons.mpr h⟩
      intro t ht
      cases ht with
      | head => exact hlt
      | tail _ ht => exact hlt.trans (h.1 t ht)
    · next hnot =>
      split
      · exact List.pairwise_cons.mpr h
      · next hne =>
        have hgt : u < s := lt_of_le_of_ne (not_lt.mp hnot) (Ne.symm hne)
        refine List.pairwise_cons.mpr ⟨?_, ih h.2⟩
        intro t ht
        rcases (mem_insertDistinct s t rest).mp ht with rfl | ht
        · exact hgt
        · exact h.1 t ht

/-- Texts put in their places one by one are all there. -/
theorem mem_foldr_insertDistinct (l : List String) (t : String) :
    t ∈ l.foldr insertDistinct [] ↔ t ∈ l := by
  induction l with
  | nil => rfl
  | cons s rest ih => rw [List.foldr_cons, mem_insertDistinct, ih, List.mem_cons]

/-- Texts put in their places one by one are in strictly increasing order. -/
theorem pairwise_foldr_insertDistinct (l : List String) :
    (l.foldr insertDistinct []).Pairwise (· < ·) := by
  induction l with
  | nil => exact List.Pairwise.nil
  | cons s rest ih => exact pairwise_insertDistinct s ih

/-- Texts put in their places one by one are sorted, without repetitions. -/
theorem foldr_insertDistinct (l : List String) :
    l.foldr insertDistinct [] = l.toFinset.sort := by
  have hleft := pairwise_foldr_insertDistinct l
  have hright := (Finset.sortedLT_sort l.toFinset).pairwise
  have hperm : (l.foldr insertDistinct []).Perm l.toFinset.sort := by
    rw [List.perm_ext_iff_of_nodup (hleft.imp fun h => h.ne) (Finset.sort_nodup _ _)]
    intro t
    rw [mem_foldr_insertDistinct, Finset.mem_sort, List.mem_toFinset]
  exact hperm.eq_of_pairwise' hleft hright

namespace Catalog

theorem causes_live (cat : Catalog) : liveCauses cat.live = cat.live := by
  unfold liveCauses live
  rw [List.filter_filter]
  congr 1
  funext c
  cases h : c.removed <;> simp [FailureCause.isRemoved, h]

/-- The categories of the live causes are those of the catalog. -/
theorem categories_eq (cat : Catalog) : categoriesOf cat.live = cat.categories := by
  unfold categoriesOf categories
  rw [causes_live, foldr_insertDistinct]

/-- What is shown of the live causes is in the order of the catalog. -/
theorem shallow_eq (cat : Catalog) : shallowOf cat.live = cat.byName.map (·.shallow) := by
  have hkeys : ((cat.live.mergeSort fun a b =>
        decide (Text.lowercase a.name ≤ Text.lowercase b.name)).map
          fun c => (Text.lowercase c.name, c.shallow)) =
      (cat.live.map fun c => (Text.lowercase c.name, c.shallow)).mergeSort
        fun a b => decide (a.1 ≤ b.1) := List.map_mergeSort fun _ _ _ _ => rfl
  unfold shallowOf byName
  dsimp only
  rw [← hkeys, List.map_map, mergeSort_eq_insertionSort_of_key]
  rfl

end Catalog

end BuildTriage
