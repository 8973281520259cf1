import BuildTriage.Proofs.KnowledgeBase.Archives
import BuildTriage.Proofs.KnowledgeBase.Cache.Serving
import BuildTriage.Proofs.KnowledgeBase.Refinement
import BuildTriage.Recorder

/-!
# What is recorded

A record that is written stands beside those that were written before it, and the causes that
it names were seen when its build started. Seeing causes at some times comes to the same in
whatever order it is done, so the order of the records makes no difference to the causes. A
cache before the place where all this is kept changes nothing of it.
-/

namespace BuildTriage

namespace FailureCause

/-- A cause that is seen was last seen then, or at a later time that it had before. -/
theorem touch_eq (c : FailureCause) (time : UInt64) : c.touch time =
    { c with lastOccurred := some (c.lastOccurred.elim time fun last => max last time) } := by
  have hseen := Catalog.sighting_eq [c.id] time c
  rw [if_pos (List.mem_singleton.mpr rfl)] at hseen
  rw [← hseen, Catalog.sighting, if_pos (List.mem_singleton.mpr rfl)]
  cases c.lastOccurred <;> rfl

theorem touch_comm (c : FailureCause) (time other : UInt64) :
    (c.touch time).touch other = (c.touch other).touch time := by
  simp only [touch_eq, Option.elim_some]
  congr 2
  cases c.lastOccurred with
  | none => exact Catalog.max_comm time other
  | some last =>
    simp only [Option.elim_some]
    ac_rfl

end FailureCause

namespace Catalog

/-- The times at which some records say that the cause of an id was seen. -/
def sightings (id : String) (records : List Statistics) : List UInt64 :=
  (records.filter (id ∈ ·.causeIds)).map (·.startTime)

/-- The catalog after some records: the causes that each of them names were seen when its build
started. -/
def recorded (cat : Catalog) (records : List Statistics) : Catalog :=
  records.foldl (fun cat s => cat.lastSeen s.causeIds s.startTime) cat

theorem recorded_append (cat : Catalog) (records later : List Statistics) :
    cat.recorded (records ++ later) = (cat.recorded records).recorded later :=
  List.foldl_append

/-- Causes may be seen in either order. -/
theorem lastSeen_comm (cat : Catalog) (ids others : List String) (time later : UInt64) :
    (cat.lastSeen ids time).lastSeen others later =
      (cat.lastSeen others later).lastSeen ids time := by
  apply ext_causes
  simp only [lastSeen, adjust, List.map_map]
  refine List.map_congr_left fun c _ => ?_
  simp only [Function.comp_apply, sighting_eq, FailureCause.touch_eq]
  by_cases hids : c.id ∈ ids
  · by_cases hothers : c.id ∈ others
    · have hcomm := c.touch_comm time later
      simp only [FailureCause.touch_eq] at hcomm
      simp only [hids, hothers, if_true, hcomm]
    · simp only [hids, hothers, if_true, if_false]
  · by_cases hothers : c.id ∈ others
    · simp only [hids, hothers, if_true, if_false]
    · simp only [hids, hothers, if_false]

/-- The order of the records makes no difference to the causes. -/
theorem recorded_perm {records others : List Statistics} (h : records.Perm others)
    (cat : Catalog) : cat.recorded records = cat.recorded others :=
  h.foldl_eq' (fun s _ r _ cat => cat.lastSeen_comm s.causeIds r.causeIds _ _) cat

/-- The cause of an id has that id. -/
theorem id_of_get {cat : Catalog} {id : String} {c : FailureCause} (h : cat.get id = some c) :
    c.id = id := by
  have hid := List.find?_some h
  exact of_decide_eq_true hid

theorem get_lastSeen (cat : Catalog) (ids : List String) (time : UInt64) (id : String) :
    (cat.lastSeen ids time).get id = (cat.get id).map (sighting ids time) := by
  have hkeep : ∀ c, (sighting ids time c).id = c.id := by
    intro c
    unfold sighting
    split <;> rfl
  simp only [get, lastSeen, adjust, List.find?_map, Function.comp_def, hkeep]

/-- After some records a cause was last seen at the latest of the time that it had before and
the starts of the records that name it. Nothing else of it has changed. -/
theorem get_recorded (cat : Catalog) (records : List Statistics) (id : String) :
    (cat.recorded records).get id = (cat.get id).map fun c =>
      { c with lastOccurred := (c.lastOccurred.toList ++ sightings id records).max? } := by
  induction records generalizing cat with
  | nil =>
    have hsame : (fun c : FailureCause =>
        { c with lastOccurred := (c.lastOccurred.toList ++ sightings id []).max? }) = fun c =>
          c := by
      funext c
      obtain ⟨_, _, _, _, _, _, last, _, _⟩ := c
      cases last <;> rfl
    rw [hsame, Option.map_id']
    rfl
  | cons s rest ih =>
    refine (ih (cat.lastSeen s.causeIds s.startTime)).trans ?_
    rw [get_lastSeen, Option.map_map]
    refine Option.map_congr fun c hc => ?_
    obtain rfl := id_of_get hc
    rw [Function.comp_apply, sighting_eq]
    unfold sightings
    by_cases hmem : c.id ∈ s.causeIds
    · have hfilter : (s :: rest).filter (c.id ∈ ·.causeIds) =
          s :: rest.filter (c.id ∈ ·.causeIds) := List.filter_cons_of_pos (decide_eq_true hmem)
      rw [if_pos hmem, hfilter, FailureCause.touch_eq]
      cases c.lastOccurred <;> rfl
    · have hfilter : (s :: rest).filter (c.id ∈ ·.causeIds) =
          rest.filter (c.id ∈ ·.causeIds) := List.filter_cons_of_neg (by simpa using hmem)
      rw [if_neg hmem, hfilter]

end Catalog

variable {α : Type} {cat : Catalog} {saved : List Statistics}

namespace Backing

/-- A place has the causes of a catalog and some records, and can write the given times: in
tables these are all below 2^63. -/
def Archives (writes : UInt64 → Prop) (enabled successful : Bool) (saved : List Statistics) :
    Backing → Catalog → Prop
  | .file _, _ => False
  | .table b, cat => (∀ time, writes time → time.toNat < 2 ^ 63) ∧
      DocumentBase.Archives CauseTable.Stands CauseTable.Kept enabled successful saved b cat
  | .hash b, cat =>
    DocumentBase.Archives CauseHash.Stands CauseHash.Kept enabled successful saved b cat

variable {writes : UInt64 → Prop} {enabled successful : Bool} {b : Backing}

/-- What every document store gives that keeps records, the place gives. -/
theorem Archives.gives {op : (σ : Type) → [CauseStore σ] → Op σ α}
    {out : Except KnowledgeBaseError α} {other : Catalog} {records : List Statistics}
    (hop : ∀ (σ : Type) [DocumentStore σ] (stands : σ → Catalog → Prop)
      (kept : List Statistics → σ → Prop), Files σ stands kept writes →
      ∀ b, DocumentBase.Archives stands kept enabled successful saved b cat →
        Gives (DocumentBase.Archives stands kept enabled successful records) (op (DocumentBase σ)) b
          out other)
    (h : b.Archives writes enabled successful saved cat) :
    Gives (Backing.Archives writes enabled successful records) (run op) b out other := by
  cases b with
  | file b => exact h.elim
  | table b =>
    exact (hop CauseTable _ _ (CauseTable.files h.1) b h.2).wrap rfl fun _ hb => ⟨h.1, hb⟩
  | hash b => exact (hop CauseHash _ _ (CauseHash.files writes) b h).wrap rfl fun _ hb => hb

theorem Archives.stands (h : b.Archives writes enabled successful saved cat) : b.Stands cat := by
  cases b with
  | file b => exact h.elim
  | table b => exact h.2.stands
  | hash b => exact h.stands

theorem Archives.keepsStatistics (h : b.Archives writes enabled successful saved cat) :
    (b.view fun _ _ s => CauseStore.keepsStatistics s) = enabled := by
  cases b with
  | file b => exact h.elim
  | table b => exact h.2.statistics_eq
  | hash b => exact h.statistics_eq

theorem Archives.keepsSuccessful (h : b.Archives writes enabled successful saved cat) :
    (b.view fun _ _ s => CauseStore.keepsSuccessful s) = successful := by
  cases b with
  | file b => exact h.elim
  | table b => exact h.2.successful_eq
  | hash b => exact h.successful_eq

/-- A place whose link does not fail needs no mending. -/
theorem mended_of_stands (h : b.Stands cat) : b.mended = b := by
  cases b with
  | file b => rfl
  | table b => rfl
  | hash b =>
    obtain ⟨⟨texts, ids, records, link⟩, statistics, successful⟩ := b
    have hlink : link = ⟨[], false⟩ := h.link_up
    rw [hlink]
    rfl

/-- Listing the causes of a catalog changes nothing. -/
theorem list_stands (h : b.Stands cat) : list b = .ok cat.live b := by
  obtain ⟨t, hrun, ht⟩ := Backing.gives_run (fun _ _ _ hf _ hs => hf.causes hs) h
  have hsame := (reads_list.ok cat.live t hrun).2
  rw [mended_of_stands ht, mended_of_stands h] at hsame
  rw [list, hrun, hsame]

/-- A visit to the causes of a catalog changes nothing. -/
theorem visit_stands (h : b.Stands cat) :
    visit b = .ok ⟨cat.live, categoriesOf cat.live⟩ b := by
  rw [visit, bind_ok (list_stands h), bind_ok (list_stands h)]
  rfl

end Backing

namespace KnowledgeBase

variable {writes : UInt64 → Prop} {enabled successful : Bool} {k : KnowledgeBase}

/-- Whatever the updater of a cache does next, the causes of a catalog stay as they are. -/
theorem backing_of_move {next : KnowledgeBase} (h : k.backing.Stands cat)
    (hm : k.move? = some next) : next.backing = k.backing := by
  have hfetch : fetch k = .ok ⟨cat.live, categoriesOf cat.live⟩
      (k.onCache (·.install ⟨cat.live, categoriesOf cat.live⟩)) := by
    rw [fetch_eq, Backing.visit_stands h]
  unfold move? at hm
  split at hm
  · exact absurd hm nofun
  · split at hm
    · rw [hfetch] at hm
      rw [← Option.some.inj hm]
      rfl
    · obtain ⟨u, -, rfl⟩ := Option.map_eq_some_iff.mp hm
      rfl

theorem backing_settleWithin (h : k.backing.Stands cat) (n : Nat) :
    (k.settleWithin n).backing = k.backing := by
  induction n generalizing k with
  | zero => rfl
  | succ n ih =>
    rw [settleWithin]
    split
    · next next hm =>
      have hsame := backing_of_move h hm
      rw [ih (hsame ▸ h), hsame]
    · rfl

/-- Once the updater waits, the causes of a catalog are as they were. -/
theorem backing_settle (h : k.backing.Stands cat) : k.settle.backing = k.backing :=
  backing_settleWithin h _

/-- Stopping the cache changes nothing where the causes are kept. -/
theorem backing_stop (h : k.backing.Stands cat) : k.stop.backing = k.backing :=
  backing_settle (k := k.onCache (·.signal .stop)) h

/-- A snapshot, from the cache or a new one, changes nothing where the causes are kept. -/
theorem exists_snapshot (h : k.backing.Stands cat) (c : CauseCache) :
    ∃ s next, snapshot c k = .ok s next ∧ next.backing = k.backing := by
  cases hsnapshot : c.snapshot with
  | some s => exact ⟨s, k, by rw [snapshot, hsnapshot]; rfl, rfl⟩
  | none =>
    have hrun : snapshot c k = .ok ⟨cat.live, categoriesOf cat.live⟩
        (k.onCache (·.install ⟨cat.live, categoriesOf cat.live⟩)) := by
      rw [snapshot, hsnapshot]
      simp only
      rw [fetch_eq, Backing.visit_stands h]
    exact ⟨_, _, hrun, rfl⟩

/-- Listing the causes of a catalog where they are kept changes nothing. -/
theorem keptCauses_ok (h : k.backing.Stands cat) : keptCauses k = .ok cat.live k := by
  rw [keptCauses_eq, Backing.list_stands h]
  rfl

/-- Listing the causes of a catalog, from the cache or not, changes nothing where they are
kept. -/
theorem exists_causes (h : k.backing.Stands cat) :
    ∃ found next, causes k = .ok found next ∧ next.backing = k.backing := by
  have hread : (get : Op KnowledgeBase KnowledgeBase) k = .ok k k := rfl
  rw [causes, bind_ok hread]
  cases k.cache with
  | none => exact ⟨_, k, keptCauses_ok h, rfl⟩
  | some c =>
    obtain ⟨s, next, hrun, hsame⟩ := exists_snapshot h c
    exact ⟨s.causes, next, bind_ok hrun, hsame⟩

/-- Neither does listing their categories. -/
theorem exists_categories (h : k.backing.Stands cat) :
    ∃ found next, categories k = .ok found next ∧ next.backing = k.backing := by
  have hread : (get : Op KnowledgeBase KnowledgeBase) k = .ok k k := rfl
  rw [categories, bind_ok hread]
  cases k.cache with
  | none => exact ⟨_, k, bind_ok (keptCauses_ok h), rfl⟩
  | some c =>
    obtain ⟨s, next, hrun, hsame⟩ := exists_snapshot h c
    exact ⟨s.categories, next, bind_ok hrun, hsame⟩

/-- A change that the place of a catalog takes is followed by a refresh, which changes nothing
there. -/
theorem change_ok {α : Type} {op : (σ : Type) → [CauseStore σ] → Op σ α} {a : α} {b : Backing}
    (hrun : Backing.run op k.backing = .ok a b) (hb : b.Stands cat) :
    ∃ next, change op k = .ok a next ∧ next.backing = b := by
  have hback : onBacking (Backing.run op) k = .ok a { k with backing := b } := by
    rw [onBacking, hrun]
    rfl
  exact ⟨(({ k with backing := b } : KnowledgeBase).onCache (·.signal .refresh)).settle,
    bind_ok hback, backing_settle (k := ({ k with backing := b } : KnowledgeBase).onCache _) hb⟩

/-- A change that the place does not take is not followed by anything. -/
theorem change_error {α : Type} {op : (σ : Type) → [CauseStore σ] → Op σ α}
    {e : KnowledgeBaseError} {b : Backing} (hrun : Backing.run op k.backing = .error e b) :
    change op k = .error e { k with backing := b } := by
  have hback : onBacking (Backing.run op) k = .error e { k with backing := b } := by
    rw [onBacking, hrun]
    rfl
  exact bind_error hback

/-- A record is saved beside the others, if statistics are kept. -/
theorem archives_saveStatistics (h : k.backing.Archives writes enabled successful saved cat)
    {r : Statistics} (hr : writes r.startTime) :
    (stateAfter (saveStatistics r) k).backing.Archives writes enabled successful
      (saved ++ if enabled then [r] else []) cat := by
  have hgives : Gives
      (Backing.Archives writes enabled successful (saved ++ if enabled then [r] else []))
      (Backing.run fun _ => CauseStore.saveStatistics r) k.backing (.ok ()) cat :=
    h.gives fun _ _ _ _ hfiles _ hs => hs.saveStatistics hfiles hr
  obtain ⟨b, hrun, hb⟩ := hgives
  have hsave : saveStatistics r k = .ok () { k with backing := b } := by
    rw [saveStatistics, onBacking, hrun]
    rfl
  rw [stateAfter, hsave]
  exact hb

/-- The causes that a record names were seen when its build started. -/
def see (k : KnowledgeBase) (r : Statistics) : KnowledgeBase :=
  if r.causeIds.isEmpty then k else stateAfter (lastSeen r.causeIds r.startTime) k

/-- A record is written in two steps. -/
theorem write_eq (k : KnowledgeBase) (r : Statistics) :
    k.write r = (stateAfter (saveStatistics r) k).see r := rfl

theorem archives_see (h : k.backing.Archives writes enabled successful saved cat) {r : Statistics}
    (hr : writes r.startTime) :
    (k.see r).backing.Archives writes enabled successful saved
      (cat.lastSeen r.causeIds r.startTime) := by
  unfold see
  split
  · next hnone =>
    rw [List.isEmpty_iff.mp hnone, Catalog.lastSeen_nil]
    exact h
  · have hgives : Gives (Backing.Archives writes enabled successful saved)
        (Backing.run fun _ => CauseStore.lastSeen r.causeIds r.startTime) k.backing (.ok ())
        (cat.lastSeen r.causeIds r.startTime) :=
      h.gives fun _ _ _ _ hfiles _ hs => hs.lastSeen hfiles r.causeIds hr
    obtain ⟨b, hrun, hb⟩ := hgives
    obtain ⟨next, hseen, hnext⟩ := change_ok hrun hb.stands
    rw [stateAfter, lastSeen, hseen]
    exact hnext ▸ hb

/-- A record that is written is kept, if statistics are, and moves the causes that it names. -/
theorem archives_write (h : k.backing.Archives writes enabled successful saved cat)
    {r : Statistics} (hr : writes r.startTime) :
    (k.write r).backing.Archives writes enabled successful
      (saved ++ if enabled then [r] else []) (cat.recorded [r]) := by
  rw [write_eq]
  exact archives_see (archives_saveStatistics h hr) hr

/-- Records that are written one after the other are kept, and move the causes that they
name. -/
theorem archives_writes (h : k.backing.Archives writes true successful saved cat)
    {records : List Statistics} (hr : ∀ r ∈ records, writes r.startTime) :
    (records.foldl write k).backing.Archives writes true successful (saved ++ records)
      (cat.recorded records) := by
  induction records generalizing k saved cat with
  | nil =>
    rw [List.append_nil]
    exact h
  | cons r rest ih =>
    obtain ⟨hfirst, hrest⟩ := List.forall_mem_cons.mp hr
    have hlast := ih (archives_write h hfirst) hrest
    rw [List.append_assoc] at hlast
    exact hlast

/-- All records that are kept are found, in the order in which they are answered. -/
theorem outcome_statistics (h : k.backing.Archives writes true successful saved cat) :
    (outcome (statistics .all none) k).1 = .ok (StatisticsFilter.all.selected none saved) := by
  have hgives : Gives (Backing.Archives writes true successful saved)
      (Backing.run fun _ => CauseStore.statistics .all none) k.backing
      (.ok (StatisticsFilter.all.selected none saved)) cat :=
    h.gives fun _ _ _ _ hfiles b hs => ⟨b, DocumentBase.statistics_ok
      (fun _ => hfiles.find hs.stands hs.kept)
      (fun hoff => absurd hs.statistics_eq (hoff ▸ Bool.false_ne_true)), hs⟩
  have hback : Gives (fun _ _ => True) (statistics .all none) k _ cat :=
    hgives.wrap (t := k) (f := fun b => { k with backing := b }) rfl fun _ _ => trivial
  exact hback.outcome.1

/-- Every record is found. -/
theorem selected_perm (saved : List Statistics) :
    (StatisticsFilter.all.selected none saved).Perm saved := by
  have hall : saved.reverse.filter StatisticsFilter.all.selects = saved.reverse :=
    List.filter_eq_self.mpr fun s _ => rfl
  unfold StatisticsFilter.selected
  rw [hall]
  exact (List.mergeSort_perm _ _).trans (List.reverse_perm saved)

/-- The cause of an id is that of the catalog. -/
theorem outcome_getCause (h : k.backing.Stands cat) (id : String) :
    (outcome (getCause id) k).1 = .ok (cat.get id) := by
  have hgives := Backing.gives_run (fun _ _ _ hf _ hs => hf.get id hs) h
  have hback : Gives (fun _ _ => True) (getCause id) k (.ok (cat.get id)) cat :=
    hgives.wrap (t := k) (f := fun b => { k with backing := b }) rfl fun _ _ => trivial
  exact hback.outcome.1

end KnowledgeBase

end BuildTriage
