import BuildTriage.Proofs.KnowledgeBase.Cache.Traffic
import BuildTriage.Proofs.KnowledgeBase.Listing

/-!
# Which states a snapshot is from

A snapshot has the causes of one state of the place where they are kept, and the categories of
this or a later one. It is from one single state if the listings did not change in between.
Two snapshots go forward in time if the causes of the second one are listed when the first one
is in the cache, and so do any two of the updater; others may go back.
-/

namespace BuildTriage

/-- What the listings had in a state. -/
def listingsAt (history : List Backing) (n : Nat) : Option Snapshot :=
  history[n]?.bind Backing.contents

/-- The causes are those of the state in which they were listed. -/
def Listed.Genuine (history : List Backing) (r : Listed) : Prop :=
  ∃ x, listingsAt history r.causesAt = some x ∧ x.causes = r.causes

/-- A snapshot has the causes of one state, and the categories of this or a later one. -/
structure Taken.Genuine (history : List Backing) (i : Taken) : Prop where
  /-- The causes. -/
  causes : i.toListed.Genuine history
  /-- The categories. -/
  categories : ∃ x, listingsAt history i.categoriesAt = some x ∧ x.categories = i.categories
  /-- The order in which they were listed. -/
  le : i.causesAt ≤ i.categoriesAt

section History

variable {history : List Backing} {n : Nat} {x : Snapshot}

/-- There are listings only in a state that has been. -/
theorem lt_of_listingsAt (h : listingsAt history n = some x) : n < history.length := by
  obtain ⟨b, hb, -⟩ := Option.bind_eq_some_iff.mp h
  exact (List.getElem?_eq_some_iff.mp hb).1

/-- The listings of a state stay in a longer history. -/
theorem listingsAt_extend (b : Backing) (h : listingsAt history n = some x) :
    listingsAt (history ++ [b]) n = some x := by
  rw [listingsAt, List.getElem?_append_left (lt_of_listingsAt h)]
  exact h

/-- The categories that the listings have are those of their live causes, each of them once
and in increasing order. -/
theorem categories_of_listingsAt (h : listingsAt history n = some x) :
    x.categories = ((liveCauses x.causes).flatMap (·.categories)).toFinset.sort := by
  obtain ⟨b, -, hx⟩ := Option.bind_eq_some_iff.mp h
  unfold Backing.contents at hx
  split at hx
  · cases hx
    exact foldr_insertDistinct _
  · cases hx

end History

/-- A snapshot is in the cache when the causes of another one are listed, or both are of the
updater. -/
def Taken.Before (m : Nat) (i : Taken) (r : Listed) : Prop :=
  m < r.behind ∨ i.fetcher = .updater ∧ r.fetcher = .updater

instance (m : Nat) (i : Taken) (r : Listed) : Decidable (i.Before m r) :=
  inferInstanceAs (Decidable (m < r.behind ∨ i.fetcher = .updater ∧ r.fetcher = .updater))

/-- The causes are not listed earlier than what had been put into the cache before. -/
structure Listed.Follows (installs : List Taken) (r : Listed) : Prop where
  /-- So much had been put into the cache. -/
  behind : r.behind ≤ installs.length
  /-- They are not listed earlier. -/
  le : ∀ (m : Nat) i, installs[m]? = some i → i.Before m r → i.categoriesAt ≤ r.causesAt

namespace Traffic

/-- What holds after any steps. -/
structure Sound (s : Traffic) : Prop where
  /-- The last state is the present one. -/
  present : listingsAt s.history s.now = s.base.backing.contents
  /-- The cache holds what was put into it last. -/
  held : s.held = some (s.installs.getLast?.map (·.snapshot))
  /-- Causes that are listed. -/
  listed : ∀ f r, s.stages f = .listed r →
    r.fetcher = f ∧ r.Genuine s.history ∧ r.Follows s.installs
  /-- Snapshots that are not in the cache yet. -/
  taken : ∀ f i, s.stages f = .taken i →
    i.fetcher = f ∧ i.Genuine s.history ∧ i.toListed.Follows s.installs
  /-- Snapshots that were put into the cache. -/
  installed : ∀ i ∈ s.installs, i.Genuine s.history
  /-- They go forward, as far as they do not overlap. -/
  ordered : ∀ (m n : Nat) i j, s.installs[m]? = some i → s.installs[n]? = some j → m < n →
    i.Before m j.toListed → i.categoriesAt ≤ j.causesAt

variable {s s' : Traffic}

/-- Everything that was there stays in a longer history. -/
theorem Sound.writes (h : s.Sound) {b : Backing} (hbase : s'.base = { s.base with backing := b })
    (hhistory : s'.history = s.history ++ [b]) (hinstalls : s'.installs = s.installs)
    (hstages : s'.stages = s.stages) : s'.Sound := by
  have hlisted : ∀ r : Listed, r.Genuine s.history → r.Genuine s'.history := by
    rintro r ⟨x, hx, hcauses⟩
    rw [hhistory]
    exact ⟨x, listingsAt_extend b hx, hcauses⟩
  have htaken : ∀ i : Taken, i.Genuine s.history → i.Genuine s'.history := by
    rintro i ⟨hcauses, ⟨x, hx, hcategories⟩, hle⟩
    refine ⟨hlisted _ hcauses, ⟨x, ?_, hcategories⟩, hle⟩
    rw [hhistory]
    exact listingsAt_extend b hx
  refine ⟨?_, ?_, fun f r hr => ?_, fun f i hi => ?_, fun i hi => ?_, ?_⟩
  · rw [now, hhistory, hbase, listingsAt]
    simp
  · rw [Traffic.held, hbase, hinstalls]
    exact h.held
  · rw [hstages] at hr
    obtain ⟨hf, hgenuine, hfollows⟩ := h.listed f r hr
    exact ⟨hf, hlisted r hgenuine, hinstalls ▸ hfollows⟩
  · rw [hstages] at hi
    obtain ⟨hf, hgenuine, hfollows⟩ := h.taken f i hi
    exact ⟨hf, htaken i hgenuine, hinstalls ▸ hfollows⟩
  · exact htaken i (h.installed i (hinstalls ▸ hi))
  · rw [hinstalls]
    exact h.ordered

/-- Where nothing is put into the cache, only the stages have to be looked at. -/
theorem Sound.still (h : s.Sound) (hstill : Still s s')
    (hlisted : ∀ f r, s'.stages f = .listed r →
      s.stages f = .listed r ∨ r.fetcher = f ∧ r.Genuine s.history ∧ r.Follows s.installs)
    (htaken : ∀ f i, s'.stages f = .taken i →
      s.stages f = .taken i ∨
        i.fetcher = f ∧ i.Genuine s.history ∧ i.toListed.Follows s.installs) :
    s'.Sound := by
  obtain ⟨hhistory, hcontents, hinstalls, hheld⟩ := hstill
  refine ⟨?_, ?_, fun f r hr => ?_, fun f i hi => ?_, ?_, ?_⟩
  · rw [now, hhistory, hcontents]
    exact h.present
  · rw [hheld, hinstalls]
    exact h.held
  · rw [hhistory, hinstalls]
    exact (hlisted f r hr).elim (h.listed f r) id
  · rw [hhistory, hinstalls]
    exact (htaken f i hi).elim (h.taken f i) id
  · rw [hhistory, hinstalls]
    exact h.installed
  · rw [hinstalls]
    exact h.ordered

/-- One more snapshot in the cache is none that causes listed already have to follow, unless
both are of the updater. -/
theorem follows_extend {installs : List Taken} {i : Taken} {r : Listed}
    (h : r.Follows installs) (hother : i.fetcher ≠ r.fetcher) : r.Follows (installs ++ [i]) := by
  refine ⟨?_, fun m j hj hbefore => ?_⟩
  · rw [List.length_append]
    exact Nat.le_add_right_of_le h.behind
  · obtain ⟨hm, -⟩ := List.getElem?_eq_some_iff.mp hj
    rw [List.length_append, List.length_singleton] at hm
    rcases Nat.lt_succ_iff_lt_or_eq.mp hm with hlt | rfl
    · rw [List.getElem?_append_left hlt] at hj
      exact h.le m j hj hbefore
    · rw [List.getElem?_concat_length, Option.some.injEq] at hj
      subst hj
      rcases hbefore with hlt | ⟨hi, hr⟩
      · exact absurd hlt (Nat.not_lt.mpr h.behind)
      · exact absurd (hi.trans hr.symm) hother

/-- A snapshot is put into the cache. -/
theorem Sound.installs (h : s.Sound) {f : Fetcher} {i : Taken} (hi : s.stages f = .taken i)
    (hhistory : s'.history = s.history)
    (hcontents : s'.base.backing.contents = s.base.backing.contents)
    (hinstalls : s'.installs = s.installs ++ [i])
    (hheld : s'.held = s.held.map fun _ => some i.snapshot)
    (hstages : s'.stages = Function.update s.stages f .idle) : s'.Sound := by
  obtain ⟨hf, hgenuine, hfollows⟩ := h.taken f i hi
  have hstage : ∀ g stage, s'.stages g = stage → stage ≠ .idle → g ≠ f ∧ s.stages g = stage := by
    intro g stage hg hne
    rw [hstages] at hg
    exact (stages_update hg).resolve_left fun hidle => hne hidle.2.symm
  refine ⟨?_, ?_, fun g r hr => ?_, fun g j hj => ?_, ?_, fun m n j k hj hk hmn hbefore => ?_⟩
  · rw [now, hhistory, hcontents]
    exact h.present
  · rw [hheld, h.held, hinstalls, List.getLast?_concat]
    rfl
  · obtain ⟨hgf, hr⟩ := hstage g _ hr nofun
    obtain ⟨hg, hgen, hfol⟩ := h.listed g r hr
    have hother : i.fetcher ≠ r.fetcher := by rw [hf, hg]; exact hgf.symm
    rw [hhistory, hinstalls]
    exact ⟨hg, hgen, follows_extend hfol hother⟩
  · obtain ⟨hgf, hj⟩ := hstage g _ hj nofun
    obtain ⟨hg, hgen, hfol⟩ := h.taken g j hj
    have hother : i.fetcher ≠ j.fetcher := by rw [hf, hg]; exact hgf.symm
    rw [hhistory, hinstalls]
    exact ⟨hg, hgen, follows_extend hfol hother⟩
  · rw [hhistory, hinstalls]
    exact List.forall_mem_append.mpr ⟨h.installed, List.forall_mem_singleton.mpr hgenuine⟩
  · rw [hinstalls] at hj hk
    obtain ⟨hn, -⟩ := List.getElem?_eq_some_iff.mp hk
    rw [List.length_append, List.length_singleton] at hn
    rcases Nat.lt_succ_iff_lt_or_eq.mp hn with hlt | rfl
    · rw [List.getElem?_append_left (hmn.trans hlt)] at hj
      rw [List.getElem?_append_left hlt] at hk
      exact h.ordered m n j k hj hk hmn hbefore
    · rw [List.getElem?_append_left hmn] at hj
      rw [List.getElem?_concat_length, Option.some.injEq] at hk
      subst hk
      exact hfollows.le m j hj hbefore

/-- The causes are listed. -/
theorem Sound.lists (h : s.Sound) (hstill : Still s s') {f : Fetcher} {x : Snapshot}
    (hx : s.base.backing.contents = some x) (hstages : s'.stages =
      Function.update s.stages f (.listed ⟨f, x.causes, s.now, s.installs.length⟩)) :
    s'.Sound := by
  refine h.still hstill (fun g r hr => ?_) fun g i hi => ?_
  · rw [hstages] at hr
    rcases stages_update hr with ⟨rfl, hlisted⟩ | ⟨-, hold⟩
    · cases hlisted
      refine .inr ⟨rfl, ⟨x, h.present.trans hx, rfl⟩, le_rfl, fun m i hi _ => ?_⟩
      obtain ⟨y, hy, -⟩ := (h.installed i (List.mem_of_getElem? hi)).categories
      exact Nat.le_sub_one_of_lt (lt_of_listingsAt hy)
    · exact .inl hold
  · rw [hstages] at hi
    rcases stages_update hi with ⟨-, htaken⟩ | ⟨-, hold⟩
    · cases htaken
    · exact .inl hold

/-- The categories are listed. -/
theorem Sound.completes (h : s.Sound) (hstill : Still s s') {f : Fetcher} {r : Listed}
    {x : Snapshot} (hr : s.stages f = .listed r) (hx : s.base.backing.contents = some x)
    (hstages : s'.stages = Function.update s.stages f (.taken ⟨r, x.categories, s.now⟩)) :
    s'.Sound := by
  obtain ⟨hf, hgenuine, hfollows⟩ := h.listed f r hr
  refine h.still hstill (fun g q hq => ?_) fun g i hi => ?_
  · rw [hstages] at hq
    rcases stages_update hq with ⟨-, hlisted⟩ | ⟨-, hold⟩
    · cases hlisted
    · exact .inl hold
  · rw [hstages] at hi
    rcases stages_update hi with ⟨rfl, htaken⟩ | ⟨-, hold⟩
    · cases htaken
      have hle : r.causesAt ≤ s.now := by
        obtain ⟨y, hy, -⟩ := hgenuine
        exact Nat.le_sub_one_of_lt (lt_of_listingsAt hy)
      exact .inr ⟨hf, ⟨hgenuine, ⟨x, h.present.trans hx, rfl⟩, hle⟩, hfollows⟩
    · exact .inl hold

/-- Whatever a step does, what holds goes on to hold. -/
theorem Sound.effect (h : s.Sound) (heffect : Effect s s') : s'.Sound := by
  cases heffect with
  | rests hstill hstages =>
    refine h.still hstill (fun f r hr => ?_) fun f i hi => ?_
    · rcases hstages f with hsame | ⟨hnot, -⟩
      · exact .inl (hsame ▸ hr)
      · exact absurd hr (hnot r)
    · rcases hstages f with hsame | ⟨-, hnot⟩
      · exact .inl (hsame ▸ hi)
      · exact absurd hi (hnot i)
  | writes b hbase hhistory hinstalls hstages => exact h.writes hbase hhistory hinstalls hstages
  | lists hstill f x hx hstages => exact h.lists hstill hx hstages
  | completes hstill f r x hr hx hstages => exact h.completes hstill hr hx hstages
  | installs f i hi hhistory hcontents hinstalls hheld hstages =>
    exact h.installs hi hhistory hcontents hinstalls hheld hstages

/-- At the beginning nothing is listed. -/
theorem sound_begun (k : KnowledgeBase) : (begun k).Sound where
  present := rfl
  held := rfl
  listed _ _ h := by cases h
  taken _ _ h := by cases h
  installed _ h := absurd h List.not_mem_nil
  ordered m _ i _ h := by cases h

/-- What holds after any steps. -/
theorem Sound.run (h : s.Sound) (steps : List TrafficStep) : (s.run steps).Sound := by
  induction steps generalizing s with
  | nil => exact h
  | cons e rest ih =>
    refine ih (s := (s.step? e).getD s) ?_
    cases hstep : s.step? e with
    | none => exact h
    | some s' => exact h.effect (effect_of_step hstep)

/-- Whatever steps there are, in whatever order, the cache holds the snapshot that was put into
it last. Each snapshot has the causes of one state, and the categories of this or a later one;
if the listings did not change in between, it is what they had then, and its categories are
those of its live causes. Of two snapshots, the second one is not from earlier states than the
first one if the first one was in the cache when the causes of the second one were listed, or
if both are of the updater. -/
theorem snapshots_of_run (k : KnowledgeBase) (steps : List TrafficStep) :
    let s := (begun k).run steps
    s.held = some (s.installs.getLast?.map (·.snapshot)) ∧
    (∀ i ∈ s.installs, i.Genuine s.history ∧
      (listingsAt s.history i.causesAt = listingsAt s.history i.categoriesAt →
        listingsAt s.history i.causesAt = some i.snapshot ∧
        i.categories = ((liveCauses i.causes).flatMap (·.categories)).toFinset.sort)) ∧
    ∀ (m n : Nat) i j, s.installs[m]? = some i → s.installs[n]? = some j → m < n →
      i.Before m j.toListed →
      i.causesAt ≤ i.categoriesAt ∧ i.categoriesAt ≤ j.causesAt ∧ j.causesAt ≤ j.categoriesAt := by
  intro s
  have hsound : s.Sound := (sound_begun k).run steps
  refine ⟨hsound.held, fun i hi => ⟨hsound.installed i hi, fun hsame => ?_⟩, ?_⟩
  · obtain ⟨⟨x, hx, hcauses⟩, ⟨y, hy, hcategories⟩, -⟩ := hsound.installed i hi
    have hxy : x = y := Option.some.inj (hx.symm.trans (hsame.trans hy))
    have hsnapshot : x = i.snapshot := by
      rw [Taken.snapshot, ← hcauses, ← hcategories, ← hxy]
    rw [hx, hsnapshot]
    exact ⟨rfl, categories_of_listingsAt (hsnapshot ▸ hx)⟩
  · intro m n i j hi hj hmn hbefore
    have hgenuine : ∀ (l : Nat) (i : Taken), s.installs[l]? = some i → i.Genuine s.history :=
      fun _ _ hi => hsound.installed _ (List.mem_of_getElem? hi)
    exact ⟨(hgenuine m i hi).le, hsound.ordered m n i j hi hj hmn hbefore, (hgenuine n j hj).le⟩

/-- A cause of one category. -/
def labelled (category : String) : FailureCause :=
  ⟨"a", "A", "", "", [category], [], none, [], none⟩

/-- The updater takes a snapshot before a cause is added, and one after that when it is asked
to. The second one is from the later state alone. -/
theorem snapshots_of_run_sample :
    let s := (begun (.ofFile .inMemory)).run (.steer .start :: fetches .updater ++
      [.write (.file ⟨[labelled "x"], none⟩), .steer (.signal .refresh), .steer .read,
        .steer .read] ++ fetches .updater)
    ∃ i j, s.installs = [i, j] ∧ i.Before 0 j.toListed ∧
      i.causesAt ≤ i.categoriesAt ∧ i.categoriesAt ≤ j.causesAt ∧ j.causesAt ≤ j.categoriesAt ∧
      listingsAt s.history j.causesAt = listingsAt s.history j.categoriesAt ∧
      listingsAt s.history j.causesAt = some j.snapshot ∧ j.snapshot = ⟨[labelled "x"], ["x"]⟩ := by
  intro s
  let i : Taken := ⟨⟨.updater, [], 0, 0⟩, [], 0⟩
  let j : Taken := ⟨⟨.updater, [labelled "x"], 1, 1⟩, ["x"], 1⟩
  have hinstalls : s.installs = [i, j] := by decide +kernel
  have hbefore : i.Before 0 j.toListed := .inl Nat.zero_lt_one
  have hsame : listingsAt s.history j.causesAt = listingsAt s.history j.categoriesAt := rfl
  obtain ⟨-, hfrom, horder⟩ := snapshots_of_run (.ofFile .inMemory) (.steer .start ::
    fetches .updater ++ [.write (.file ⟨[labelled "x"], none⟩), .steer (.signal .refresh),
      .steer .read, .steer .read] ++ fetches .updater)
  have hj : j ∈ s.installs := by rw [hinstalls]; simp
  obtain ⟨h₁, h₂, h₃⟩ := horder 0 1 i j (by rw [hinstalls]; rfl) (by rw [hinstalls]; rfl)
    Nat.zero_lt_one hbefore
  exact ⟨i, j, hinstalls, hbefore, h₁, h₂, h₃, hsame, ((hfrom j hj).2 hsame).1, rfl⟩

/-- The category of the cause is changed between the two listings of the updater. -/
def tornSteps : List TrafficStep :=
  [.steer .start, .listCauses .updater, .write (.file ⟨[labelled "y"], none⟩),
    .listCategories .updater, .install .updater]

/-- A reader lists an empty catalog, and puts that into the cache when a cause has been added
and the updater has put it there. -/
def lateSteps : List TrafficStep :=
  [.miss 0, .listCauses (.reader 0), .listCategories (.reader 0),
    .write (.file ⟨[labelled "x"], none⟩), .steer .start] ++ fetches .updater ++
    [.install (.reader 0)]

/-- A row that is listed, with a text that has a tombstone. -/
def struckRow : CauseTable :=
  ⟨[⟨"a", "A", false, ((labelled "x").bury ⟨"u", 1⟩).stored⟩], []⟩

/-- A write between the two listings leaves a snapshot that is none of the states; a reader that
is late puts an earlier state into the cache than the one that is there; and even if nobody
comes between, the categories of a listed cause with a tombstone are not listed. -/
theorem snapshots_mixed_and_backward :
    ((begun (.ofFile ⟨[labelled "x"], none⟩)).run tornSteps).held =
      some (some ⟨[labelled "x"], ["y"]⟩) ∧
    ((begun (.ofFile ⟨[labelled "x"], none⟩)).run tornSteps).history.map Backing.contents =
      [some ⟨[labelled "x"], ["x"]⟩, some ⟨[labelled "y"], ["y"]⟩] ∧
    ((begun (.ofFile .inMemory)).run lateSteps).installs.map
        (fun i => (i.fetcher, i.causesAt, i.categoriesAt)) =
      [(.updater, 1, 1), (.reader 0, 0, 0)] ∧
    ((begun (.ofFile .inMemory)).run lateSteps).history.map Backing.contents =
      [some ⟨[], []⟩, some ⟨[labelled "x"], ["x"]⟩] ∧
    ((begun (.ofFile .inMemory)).run lateSteps).held = some (some ⟨[], []⟩) ∧
    (KnowledgeBase.ofTable struckRow false false).cached.answers
        [.request .causes, .request .categories] =
      [.ok (.causes [(labelled "x").bury ⟨"u", 1⟩]), .ok (.categories [])] := by
  decide +kernel

end Traffic

end BuildTriage
