import BuildTriage.Proofs.KnowledgeBase.Cache.Serving
import Mathlib.Logic.Function.Basic

/-!
# Many who take snapshots at a time

Whoever takes a snapshot lists the causes, lists the categories, and puts both into the cache.
The updater does so again and again, and so does every reader that finds nothing in the cache.
Between any two of these steps others may take theirs, and the place where the causes are kept
may become another one. Steps that nobody comes between are a move of the updater
(`Traffic.move_in_a_row`), or what a reader does by itself (`Traffic.snapshot_in_a_row`).
-/

namespace BuildTriage

/-- Who takes a snapshot. -/
inductive Fetcher where
  | updater
  | reader (n : Nat)
  deriving DecidableEq

/-- Causes that are listed for a snapshot. -/
structure Listed where
  /-- Who has listed them. -/
  fetcher : Fetcher
  /-- The causes. -/
  causes : List FailureCause
  /-- The number of the state in which they were listed. -/
  causesAt : Nat
  /-- How many snapshots had been put into the cache then. -/
  behind : Nat
  deriving DecidableEq

/-- A snapshot, with the states from which it is. -/
structure Taken extends Listed where
  /-- The categories. -/
  categories : List String
  /-- The number of the state in which they were listed. -/
  categoriesAt : Nat
  deriving DecidableEq

/-- What is put into the cache. -/
def Taken.snapshot (i : Taken) : Snapshot := ⟨i.causes, i.categories⟩

/-- How far somebody is who takes a snapshot. -/
inductive FetchStage where
  /-- Nothing is done. -/
  | idle
  /-- Nothing was found in the cache. -/
  | missed
  /-- The causes are listed. -/
  | listed (r : Listed)
  /-- The categories are listed, too. -/
  | taken (i : Taken)

/-- What becomes of the updater apart from its snapshots. -/
inductive Steering where
  /-- It begins. -/
  | start
  /-- It is sent a signal. -/
  | signal (s : UpdaterSignal)
  /-- It has waited long enough. -/
  | expire
  /-- It reads a signal, or sees that there are no more. -/
  | read
  /-- It is gone after its end. -/
  | join

/-- The updater afterwards; nothing if that does not happen to it. -/
def Steering.steer : Steering → Option Updater → Option (Option Updater)
  | .start, none => some (some .begun)
  | .signal s, some u => some (some (u.send s))
  | .expire, some u => u.expire?.map some
  | .read, some u => u.read?.map some
  | .join, some u => if u.stage = .ended then some none else none
  | .start, some _ | .signal _, none | .expire, none | .read, none | .join, none => none

/-- A step of somebody. -/
inductive TrafficStep where
  /-- The place where the causes are kept becomes another one. -/
  | write (b : Backing)
  /-- Something becomes of the updater. -/
  | steer (s : Steering)
  /-- A reader finds nothing in the cache. -/
  | miss (n : Nat)
  /-- Somebody lists the causes. -/
  | listCauses (f : Fetcher)
  /-- Somebody lists the categories. -/
  | listCategories (f : Fetcher)
  /-- Somebody puts a snapshot into the cache. -/
  | install (f : Fetcher)

/-- A knowledge base with a cache before it, and those who take snapshots. -/
structure Traffic where
  /-- The knowledge base. -/
  base : KnowledgeBase
  /-- How far everybody is. -/
  stages : Fetcher → FetchStage
  /-- The states of the place where the causes are kept, the present one last. -/
  history : List Backing
  /-- What was put into the cache, the latest last. -/
  installs : List Taken

/-- The knowledge base when somebody has done with a snapshot: the updater waits. -/
def Fetcher.done (f : Fetcher) (k : KnowledgeBase) : KnowledgeBase :=
  match f with
  | .updater => k.setUpdater (k.updater.map fun u => u.fetched?.getD u)
  | .reader _ => k

/-- The knowledge base when a listing has failed: that of the updater is counted. -/
def Fetcher.fail (f : Fetcher) (k : KnowledgeBase) : KnowledgeBase :=
  match f with
  | .updater => k.onCache (·.fail)
  | .reader _ => k

namespace Traffic

/-- Nobody has done anything yet. -/
def begun (k : KnowledgeBase) : Traffic := ⟨k.cached, fun _ => .idle, [k.backing], []⟩

/-- The number of the present state. -/
def now (s : Traffic) : Nat := s.history.length - 1

/-- Somebody gets to a stage, which leaves a knowledge base. -/
def moved (s : Traffic) (f : Fetcher) (stage : FetchStage) (k : KnowledgeBase) : Traffic :=
  { s with base := k, stages := Function.update s.stages f stage }

/-- The updater may list the causes when it has to take a snapshot, and a reader when it has
found nothing in the cache. -/
def mayList (s : Traffic) (f : Fetcher) : Bool :=
  match f, s.stages f with
  | .updater, .idle => s.base.updater.any (·.stage = .fetching)
  | .reader _, .missed => true
  | _, _ => false

/-- A step, if it can be taken. -/
def step? (s : Traffic) : TrafficStep → Option Traffic
  | .write b =>
    some { s with base := { s.base with backing := b }, history := s.history ++ [b] }
  | .steer m => (m.steer s.base.updater).map fun u => { s with base := s.base.setUpdater u }
  | .miss n =>
    match s.stages (.reader n), s.base.cache.bind (·.snapshot) with
    | .idle, none => some (s.moved (.reader n) .missed s.base)
    | _, _ => none
  | .listCauses f =>
    if s.mayList f then
      match KnowledgeBase.keptCauses s.base with
      | .ok causes k => some (s.moved f (.listed ⟨f, causes, s.now, s.installs.length⟩) k)
      | .error _ k => some (s.moved f .idle (f.done (f.fail k)))
    else none
  | .listCategories f =>
    match s.stages f with
    | .listed r =>
      match KnowledgeBase.keptCategories s.base with
      | .ok categories k => some (s.moved f (.taken ⟨r, categories, s.now⟩) k)
      | .error _ k => some (s.moved f .idle (f.done (f.fail k)))
    | _ => none
  | .install f =>
    match s.stages f with
    | .taken i =>
      some { s.moved f .idle (f.done (s.base.onCache (·.install i.snapshot))) with
        installs := s.installs ++ [i] }
    | _ => none

/-- Some steps, one after the other; one that cannot be taken is left out. -/
def run (s : Traffic) (steps : List TrafficStep) : Traffic :=
  steps.foldl (fun s e => (s.step? e).getD s) s

/-- The three steps of somebody. -/
def fetches (f : Fetcher) : List TrafficStep := [.listCauses f, .listCategories f, .install f]

/-- What the cache holds, if there is a cache. -/
def held (s : Traffic) : Option (Option Snapshot) := s.base.cache.map (·.snapshot)

/-- Nothing has changed but how far everybody is. -/
structure Still (s s' : Traffic) : Prop where
  /-- The states are the same. -/
  history : s'.history = s.history
  /-- The place where the causes are kept has the same listings. -/
  contents : s'.base.backing.contents = s.base.backing.contents
  /-- Nothing else was put into the cache. -/
  installs : s'.installs = s.installs
  /-- The cache holds the same. -/
  held : s'.held = s.held

/-- What a step does. -/
inductive Effect (s s' : Traffic) : Prop where
  /-- Nothing is listed, and somebody may have failed to. -/
  | rests (h : Still s s') (hstages : ∀ f, s'.stages f = s.stages f ∨
      (∀ r, s'.stages f ≠ .listed r) ∧ ∀ i, s'.stages f ≠ .taken i)
  /-- There is another state. -/
  | writes (b : Backing) (hbase : s'.base = { s.base with backing := b })
    (hhistory : s'.history = s.history ++ [b]) (hinstalls : s'.installs = s.installs)
    (hstages : s'.stages = s.stages)
  /-- The causes are listed. -/
  | lists (h : Still s s') (f : Fetcher) (x : Snapshot) (hx : s.base.backing.contents = some x)
    (hstages : s'.stages =
      Function.update s.stages f (.listed ⟨f, x.causes, s.now, s.installs.length⟩))
  /-- The categories are listed. -/
  | completes (h : Still s s') (f : Fetcher) (r : Listed) (x : Snapshot)
    (hr : s.stages f = .listed r) (hx : s.base.backing.contents = some x)
    (hstages : s'.stages = Function.update s.stages f (.taken ⟨r, x.categories, s.now⟩))
  /-- A snapshot is put into the cache. -/
  | installs (f : Fetcher) (i : Taken) (hi : s.stages f = .taken i)
    (hhistory : s'.history = s.history)
    (hcontents : s'.base.backing.contents = s.base.backing.contents)
    (hinstalls : s'.installs = s.installs ++ [i])
    (hheld : s'.held = s.held.map fun _ => some i.snapshot)
    (hstages : s'.stages = Function.update s.stages f .idle)

variable {s s' : Traffic}

/-- What leaves the snapshot in the cache leaves what the cache holds. -/
theorem held_onCache {f : CauseCache → CauseCache} (hf : ∀ c, (f c).snapshot = c.snapshot)
    (k : KnowledgeBase) : (k.onCache f).cache.map (·.snapshot) = k.cache.map (·.snapshot) := by
  simp only [KnowledgeBase.onCache, Option.map_map, Function.comp_def, hf]

theorem held_setUpdater (u : Option Updater) (k : KnowledgeBase) :
    (k.setUpdater u).cache.map (·.snapshot) = k.cache.map (·.snapshot) :=
  held_onCache (f := fun c => { c with updater := u }) (fun _ => rfl) k

/-- Somebody who has done leaves the place where the causes are kept, and what the cache
holds. -/
theorem done_keeps (f : Fetcher) (k : KnowledgeBase) : (f.done k).backing = k.backing ∧
    (f.done k).cache.map (·.snapshot) = k.cache.map (·.snapshot) := by
  cases f with
  | updater => exact ⟨rfl, held_setUpdater _ k⟩
  | reader n => exact ⟨rfl, rfl⟩

theorem fail_keeps (f : Fetcher) (k : KnowledgeBase) : (f.fail k).backing = k.backing ∧
    (f.fail k).cache.map (·.snapshot) = k.cache.map (·.snapshot) := by
  cases f with
  | updater => exact ⟨rfl, held_onCache (f := (·.fail)) (fun _ => rfl) k⟩
  | reader n => exact ⟨rfl, rfl⟩

/-- Everybody is where they were, but the one who gets to another stage. -/
theorem stages_update {stages : Fetcher → FetchStage} {f g : Fetcher} {stage found : FetchStage}
    (h : Function.update stages f stage g = found) :
    g = f ∧ stage = found ∨ g ≠ f ∧ stages g = found := by
  by_cases hg : g = f
  · rw [hg, Function.update_self] at h
    exact .inl ⟨hg, h⟩
  · rw [Function.update_of_ne hg] at h
    exact .inr ⟨hg, h⟩

/-- Listing the causes gives what the listings have, and leaves all else as it is. -/
theorem keptCauses_ok {k t : KnowledgeBase} {causes : List FailureCause}
    (h : KnowledgeBase.keptCauses k = .ok causes t) :
    k.backing.contents = some ⟨causes, categoriesOf causes⟩ ∧
      t.backing.contents = k.backing.contents ∧ t.cache = k.cache := by
  rw [KnowledgeBase.keptCauses_eq] at h
  cases hlist : Backing.list k.backing with
  | error e b => rw [hlist] at h; cases h
  | ok causes' b =>
    rw [hlist] at h
    cases h
    exact ⟨Backing.list_ok hlist, Backing.contents_congr (Backing.reads_list.ok _ _ hlist).2, rfl⟩

theorem keptCauses_error {k t : KnowledgeBase} {e : KnowledgeBaseError}
    (h : KnowledgeBase.keptCauses k = .error e t) :
    t.backing.contents = k.backing.contents ∧ t.cache = k.cache := by
  rw [KnowledgeBase.keptCauses_eq] at h
  cases hlist : Backing.list k.backing with
  | ok causes b => rw [hlist] at h; cases h
  | error e' b =>
    rw [hlist] at h
    cases h
    exact ⟨Backing.contents_congr (Backing.reads_list.error _ _ hlist), rfl⟩

/-- Somebody who gets to a stage without listing anything. -/
theorem effect_moved (f : Fetcher) {stage : FetchStage} {t : KnowledgeBase}
    (hlisted : ∀ r, stage ≠ .listed r) (htaken : ∀ i, stage ≠ .taken i)
    (ht : t.backing.contents = s.base.backing.contents)
    (hheld : t.cache.map (·.snapshot) = s.held) : Effect s (s.moved f stage t) := by
  refine .rests ⟨rfl, ht, rfl, hheld⟩ fun g => ?_
  rcases stages_update (rfl : (s.moved f stage t).stages g = _) with ⟨-, hg⟩ | ⟨-, hg⟩
  · rw [← hg]
    exact .inr ⟨hlisted, htaken⟩
  · exact .inl hg.symm

/-- Somebody who has failed to list anything is idle again. -/
theorem effect_failed (f : Fetcher) {t : KnowledgeBase}
    (ht : t.backing.contents = s.base.backing.contents) (hcache : t.cache = s.base.cache) :
    Effect s (s.moved f .idle (f.done (f.fail t))) := by
  obtain ⟨hdone, hdoneHeld⟩ := done_keeps f (f.fail t)
  obtain ⟨hfail, hfailHeld⟩ := fail_keeps f t
  refine effect_moved f nofun nofun ?_ ?_
  · rw [hdone, hfail, ht]
  · rw [hdoneHeld, hfailHeld, hcache]
    rfl

/-- What a step does, if it can be taken. -/
theorem effect_of_step {e : TrafficStep} (h : s.step? e = some s') : Effect s s' := by
  cases e with
  | write b =>
    cases h
    exact .writes b rfl rfl rfl rfl
  | steer m =>
    obtain ⟨u, -, rfl⟩ := Option.map_eq_some_iff.mp h
    exact .rests ⟨rfl, rfl, rfl, held_setUpdater u s.base⟩ fun _ => .inl rfl
  | miss n =>
    simp only [step?] at h
    split at h
    · cases h
      refine .rests ⟨rfl, rfl, rfl, rfl⟩ fun g => ?_
      by_cases hg : g = .reader n
      · subst hg
        exact .inr (by simp [moved])
      · exact .inl (by simp [moved, hg])
    · cases h
  | listCauses f =>
    simp only [step?] at h
    split at h
    · cases hkept : KnowledgeBase.keptCauses s.base with
      | ok causes t =>
        obtain ⟨hx, ht, hcache⟩ := keptCauses_ok hkept
        rw [hkept] at h
        cases h
        exact .lists ⟨rfl, ht, rfl, by simp only [held, moved, hcache]⟩ f _ hx rfl
      | error e t =>
        obtain ⟨ht, hcache⟩ := keptCauses_error hkept
        rw [hkept] at h
        cases h
        exact effect_failed f ht hcache
    · cases h
  | listCategories f =>
    simp only [step?] at h
    split at h
    case h_1 r hr =>
      cases hkept : KnowledgeBase.keptCauses s.base with
      | ok causes t =>
        obtain ⟨hx, ht, hcache⟩ := keptCauses_ok hkept
        rw [KnowledgeBase.keptCategories, bind_ok hkept] at h
        cases h
        exact .completes ⟨rfl, ht, rfl, by simp only [held, moved, hcache]⟩ f r _ hr hx rfl
      | error e t =>
        obtain ⟨ht, hcache⟩ := keptCauses_error hkept
        rw [KnowledgeBase.keptCategories, bind_error hkept] at h
        cases h
        exact effect_failed f ht hcache
    case h_2 => cases h
  | install f =>
    simp only [step?] at h
    split at h
    case h_1 i hi =>
      cases h
      obtain ⟨hdone, hheld⟩ := done_keeps f (s.base.onCache (·.install i.snapshot))
      refine .installs f i hi rfl ?_ rfl ?_ rfl
      · simp only [moved, hdone]
        rfl
      · simp only [held, moved]
        rw [hheld, KnowledgeBase.onCache, Option.map_map, Option.map_map]
        rfl
    case h_2 => cases h

/-- The three steps in a row take a snapshot as it is taken when nobody else is there. -/
theorem fetch_in_a_row {f : Fetcher} (h : s.mayList f = true) :
    (s.run (fetches f)).base =
      match KnowledgeBase.fetch s.base with
      | .ok _ k => f.done k
      | .error _ k => f.done (f.fail k) := by
  cases hfirst : KnowledgeBase.keptCauses s.base with
  | error e t =>
    rw [KnowledgeBase.fetch, bind_error hfirst]
    simp [run, fetches, step?, h, hfirst, moved]
  | ok causes t =>
    rw [KnowledgeBase.fetch, bind_ok hfirst]
    cases hsecond : KnowledgeBase.keptCategories t with
    | error e u =>
      rw [bind_error hsecond]
      simp [run, fetches, step?, h, hfirst, hsecond, moved]
    | ok categories u =>
      rw [bind_ok hsecond]
      simp only [run, fetches, List.foldl_cons, List.foldl_nil, step?, h, hfirst, if_true, moved,
        Option.getD_some, Function.update_self, hsecond]
      rfl

/-- The steps of the updater in a row are a move of it. -/
theorem move_in_a_row (h : s.mayList .updater = true) :
    s.base.move? = some (s.run (fetches .updater)).base := by
  rw [fetch_in_a_row h]
  obtain ⟨u, hu, hstage⟩ : ∃ u, s.base.updater = some u ∧ u.stage = .fetching := by
    unfold mayList at h
    split at h
    · simpa [Option.any_eq_true] using h
    · next heq _ => cases heq
    · cases h
  have hfetched : u.fetched? = some { u with stage := .waiting } := if_pos hstage
  have hdone : ∀ k : KnowledgeBase, k.updater = some u →
      Fetcher.updater.done k = k.setUpdater (some { u with stage := .waiting }) := by
    intro k hk
    simp only [Fetcher.done, hk, Option.map_some, hfetched, Option.getD_some]
  unfold KnowledgeBase.move?
  simp only [hu, hfetched, KnowledgeBase.fetch_eq]
  obtain ⟨c, hcache, hupdater⟩ := Option.bind_eq_some_iff.mp hu
  cases Backing.visit s.base.backing with
  | ok x b =>
    dsimp only
    rw [hdone]
    simp [KnowledgeBase.updater, KnowledgeBase.onCache, CauseCache.install, hcache, hupdater]
  | error e b =>
    dsimp only
    rw [hdone]
    · rfl
    · simp [KnowledgeBase.updater, Fetcher.fail, KnowledgeBase.onCache, CauseCache.fail, hcache,
        hupdater]

/-- The steps of a reader in a row, which finds nothing in the cache, take a snapshot. -/
theorem snapshot_in_a_row {n : Nat} {c : CauseCache} (hidle : s.stages (.reader n) = .idle)
    (hcache : s.base.cache = some c) (hcold : c.snapshot = none) :
    (outcome (KnowledgeBase.snapshot c) s.base).2 =
      (s.run (.miss n :: fetches (.reader n))).base := by
  have hmiss : s.step? (.miss n) = some (s.moved (.reader n) .missed s.base) := by
    simp [step?, hidle, hcache, hcold]
  have hmay : (s.moved (.reader n) .missed s.base).mayList (.reader n) = true := by
    simp [mayList, moved]
  have hrun := fetch_in_a_row hmay
  have hfirst : s.run (.miss n :: fetches (.reader n)) =
      (s.moved (.reader n) .missed s.base).run (fetches (.reader n)) := by
    simp only [run, List.foldl_cons, hmiss, Option.getD_some]
  have hbase : (s.moved (.reader n) .missed s.base).base = s.base := rfl
  have hsnapshot : KnowledgeBase.snapshot c = KnowledgeBase.fetch := by
    rw [KnowledgeBase.snapshot, hcold]
  rw [hfirst, hrun, hbase, hsnapshot, outcome]
  cases KnowledgeBase.fetch s.base with
  | ok x k => rfl
  | error e k => rfl

end Traffic

end BuildTriage
