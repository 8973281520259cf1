import BuildTriage.Proofs.BuildStore
import Mathlib.Data.List.Nodup
import Mathlib.Data.String.Basic

/-!
# Builds in their order

Builds are ordered by their projects and then by their numbers. A store keeps its records in that
order, with one record for each build, whatever is entered, attached or forgotten. So what is
read of a build is read of the one record that it has.
-/

namespace BuildTriage

namespace BuildRef

variable {a b c : BuildRef}

theorem precedes_iff :
    a.precedes b = true ↔ a.project < b.project ∨ a.project = b.project ∧ a.number < b.number := by
  simp [precedes]

theorem not_precedes_self (a : BuildRef) : ¬a.precedes a = true := by
  rw [precedes_iff]
  rintro (hproject | ⟨-, hnumber⟩)
  · exact String.lt_irrefl _ hproject
  · exact UInt64.lt_irrefl _ hnumber

theorem precedes_trans (hab : a.precedes b = true) (hbc : b.precedes c = true) :
    a.precedes c = true := by
  rw [precedes_iff] at *
  rcases hab with hab | ⟨hab, hnumber⟩
  · rcases hbc with hbc | ⟨hbc, -⟩
    · exact .inl (String.lt_trans hab hbc)
    · exact .inl (hbc ▸ hab)
  · rcases hbc with hbc | ⟨hbc, hnumber'⟩
    · exact .inl (hab ▸ hbc)
    · exact .inr ⟨hab.trans hbc, UInt64.lt_trans hnumber hnumber'⟩

/-- Of two builds one precedes the other. -/
theorem precedes_of_not (hne : a ≠ b) (h : ¬a.precedes b = true) : b.precedes a = true := by
  rw [precedes_iff] at *
  obtain ⟨hproject, hnumber⟩ := not_or.mp h
  rcases lt_trichotomy a.project b.project with hlt | heq | hgt
  · exact absurd hlt hproject
  · have hle : b.number ≤ a.number := UInt64.not_lt.mp fun hlt => hnumber ⟨heq, hlt⟩
    have hnumbers : b.number ≠ a.number := fun hsame => hne (by cases a; cases b; simp_all)
    exact .inr ⟨heq.symm, UInt64.lt_of_le_of_ne hle hnumbers⟩
  · exact .inl hgt

end BuildRef

namespace BuildStore

/-- The records stand in the order of their builds, and no build has two. -/
def Ordered (s : BuildStore) : Prop := s.builds.Pairwise fun a b => a.precedes b = true

/-- A store that came about by entering builds, by attaching causes to them, and by forgetting
those that they had. -/
inductive Made : BuildStore → Prop where
  | empty : Made .empty
  | insert {s : BuildStore} (h : Made s) (info : BuildInfo) (log : List String) :
    Made (s.insert info log)
  | setFound {s s' : BuildStore} (h : Made s) (b : BuildRef) (found : Option (List FoundCause))
    (hs : s.setFound b found = .ok s') : Made s'

variable {s : BuildStore} {b : BuildRef} {r : BuildRecord} {records : List BuildRecord}

/-- A record that is put in its place leaves the others in their order. -/
theorem ordered_place (h : Ordered ⟨records⟩) (r : BuildRecord) : Ordered ⟨place r records⟩ := by
  unfold Ordered builds at *
  rw [List.pairwise_map] at *
  induction records with
  | nil => exact List.pairwise_singleton _ _
  | cons first rest ih =>
    obtain ⟨hfirst, hrest⟩ := List.pairwise_cons.mp h
    rw [place]
    split
    · next hsame => exact List.pairwise_cons.mpr ⟨hsame ▸ hfirst, hrest⟩
    · next hne =>
      split
      · next hbefore =>
        refine List.pairwise_cons.mpr ⟨fun other hother => ?_, h⟩
        rcases List.mem_cons.mp hother with rfl | hlater
        · exact hbefore
        · exact BuildRef.precedes_trans hbefore (hfirst other hlater)
      · next hbehind =>
        refine List.pairwise_cons.mpr ⟨fun other hother => ?_, ih hrest⟩
        rcases mem_place hother with rfl | hlater
        · exact BuildRef.precedes_of_not hne hbehind
        · exact hfirst other hlater

/-- A store that came about is in order. -/
theorem Made.ordered (h : s.Made) : s.Ordered := by
  induction h with
  | empty => exact .nil
  | insert _ info log ih => exact ordered_place ih _
  | setFound _ b found hs ih =>
    unfold Ordered
    rw [builds_setFound hs]
    exact ih

/-- A build has one record. -/
theorem Ordered.eq_of_build (h : s.Ordered) {r' : BuildRecord} (hr : r ∈ s.records)
    (hr' : r' ∈ s.records) (hbuild : r.info.build = r'.info.build) : r = r' := by
  have hdistinct : s.builds.Nodup := by
    refine List.Pairwise.imp ?_ h
    rintro a _ hab rfl
    exact BuildRef.not_precedes_self a hab
  exact List.inj_on_of_nodup_map hdistinct hr hr' hbuild

/-- What is known of a build is what stands in its record. -/
theorem Ordered.info_iff (h : s.Ordered) {info : BuildInfo} :
    s.info b = .ok info ↔ ∃ r ∈ s.records, r.info = info ∧ info.build = b := by
  constructor
  · intro hinfo
    obtain ⟨r, hget, rfl⟩ := exists_get hinfo
    exact ⟨r, mem_of_get hget, rfl, build_of_get hget⟩
  · rintro ⟨r, hr, rfl, rfl⟩
    obtain ⟨r', hget⟩ := get_of_mem (List.mem_map.mpr ⟨r, hr, rfl⟩)
    have hsame : r' = r := h.eq_of_build (mem_of_get hget) hr (build_of_get hget)
    rw [BuildStore.info, hget, hsame]
    rfl

end BuildStore

end BuildTriage
