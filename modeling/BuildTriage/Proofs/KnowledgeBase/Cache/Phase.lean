import BuildTriage.Proofs.KnowledgeBase.Cache.Traffic

/-!
# What the updater of a cache is about

An updater that has to take a snapshot has not begun yet, has listed the causes, or has listed
the categories, too. Otherwise it waits, reads what has piled up behind a signal, or has ended.
Each step says where it finds the updater and where it leaves it; what readers do and what
becomes of the place where the causes are kept leave it where it is.
-/

namespace BuildTriage

/-- What an updater is about. -/
inductive Phase where
  /-- It has to take a snapshot, and has not begun. -/
  | due
  /-- It has listed the causes for one. -/
  | listed
  /-- It has listed the categories, too. -/
  | taken
  /-- It waits for a signal. -/
  | waiting
  /-- It reads what has piled up behind a signal. -/
  | collecting
  /-- It has ended. -/
  | ended
  deriving DecidableEq, Repr

namespace Phase

/-- What an updater does in a phase. -/
def stage : Phase → UpdaterStage
  | due | listed | taken => .fetching
  | waiting => .waiting
  | collecting => .collecting
  | ended => .ended

/-- How far the snapshot of the updater is in a phase. -/
def Fits : Phase → FetchStage → Prop
  | listed, s => ∃ r, s = .listed r
  | taken, s => ∃ i, s = .taken i
  | due, s | waiting, s | collecting, s | ended, s => s = .idle

/-- How many moves of its own an updater has before it in a phase at most, until it waits or
has ended, if it finds no signal. -/
def rank : Phase → Nat
  | collecting => 4
  | due => 3
  | listed => 2
  | taken => 1
  | waiting | ended => 0

/-- How many moves of its own an updater has before it at most that has not read some signals. -/
def ahead (p : Phase) (inbox : List UpdaterSignal) : Nat := 5 * inbox.length + p.rank

end Phase

namespace Traffic

/-- The updater is in a phase, and has not read some signals. -/
structure Stands (s : Traffic) (p : Phase) (inbox : List UpdaterSignal) : Prop where
  /-- What it does, and what it has not read. -/
  updater : s.base.updater = some ⟨p.stage, inbox⟩
  /-- How far its snapshot is. -/
  fits : p.Fits (s.stages .updater)

variable {s s' : Traffic} {p : Phase} {inbox : List UpdaterSignal}

theorem updater_setUpdater {k : KnowledgeBase} {u : Updater} (h : k.updater = some u)
    (v : Option Updater) : (k.setUpdater v).updater = v := by
  have hcache : ∃ c, k.cache = some c := by
    obtain ⟨c, hc, -⟩ := Option.bind_eq_some_iff.mp h
    exact ⟨c, hc⟩
  obtain ⟨c, hc⟩ := hcache
  simp only [KnowledgeBase.setUpdater, KnowledgeBase.onCache, KnowledgeBase.updater, hc,
    Option.map_some, Option.bind_some]

/-- What leaves the updater in the cache leaves the updater. -/
theorem updater_onCache {f : CauseCache → CauseCache} (hf : ∀ c, (f c).updater = c.updater)
    (k : KnowledgeBase) : (k.onCache f).updater = k.updater := by
  unfold KnowledgeBase.updater KnowledgeBase.onCache
  cases k.cache with
  | none => rfl
  | some c => exact hf c

/-- An updater that was taking a snapshot waits when it has done. -/
theorem updater_done {k : KnowledgeBase} (h : k.updater = some ⟨.fetching, inbox⟩) :
    (Fetcher.updater.done k).updater = some ⟨.waiting, inbox⟩ := by
  have hfetched : (⟨.fetching, inbox⟩ : Updater).fetched? = some ⟨.waiting, inbox⟩ := if_pos rfl
  simp only [Fetcher.done, h, Option.map_some, hfetched, Option.getD_some]
  exact updater_setUpdater h _

/-- What becomes of the updater apart from its snapshots. -/
theorem Stands.steer (h : s.Stands p inbox) {m : Steering} (hs : s.step? (.steer m) = some s') :
    ∃ u, m.steer (some ⟨p.stage, inbox⟩) = some u ∧ s'.base.updater = u ∧
      s'.stages = s.stages := by
  obtain ⟨u, hu, rfl⟩ := Option.map_eq_some_iff.mp hs
  rw [h.updater] at hu
  exact ⟨u, hu, updater_setUpdater h.updater u, rfl⟩

/-- A signal for the updater stands behind the others. -/
theorem Stands.signal (h : s.Stands p inbox) {x : UpdaterSignal}
    (hs : s.step? (.steer (.signal x)) = some s') : s'.Stands p (inbox ++ [x]) := by
  obtain ⟨u, hu, hupdater, hstages⟩ := h.steer hs
  have hsent : u = some ⟨p.stage, inbox ++ [x]⟩ := (Option.some.inj hu).symm
  constructor
  · rw [hupdater, hsent]
  · rw [hstages]
    exact h.fits

/-- Only an updater that waits without a signal has waited long enough. -/
theorem Stands.expire (h : s.Stands p inbox) (hs : s.step? (.steer .expire) = some s') :
    p = .waiting ∧ inbox = [] ∧ s'.Stands .due [] := by
  obtain ⟨u, hu, hupdater, hstages⟩ := h.steer hs
  simp only [Steering.steer, Updater.expire?] at hu
  split at hu
  · next hexpires =>
    have hp : p = .waiting := by
      cases p with
      | waiting => rfl
      | due | listed | taken | collecting | ended => exact absurd hexpires.1 nofun
    have hinbox : inbox = [] := List.isEmpty_iff.mp hexpires.2
    subst hp hinbox
    have hdue : u = some ⟨.fetching, []⟩ := (Option.some.inj hu).symm
    refine ⟨rfl, rfl, ?_, ?_⟩
    · rw [hupdater, hdue]
      rfl
    · rw [hstages]
      exact h.fits
  · exact absurd hu nofun

/-- An updater that waits or collects reads the oldest signal; one that collects and finds no
more has to take a snapshot. -/
inductive Reads : Phase → List UpdaterSignal → Phase → List UpdaterSignal → Prop where
  | refresh (p : Phase) (rest : List UpdaterSignal) (h : p = .waiting ∨ p = .collecting) :
    Reads p (.refresh :: rest) .collecting rest
  | stop (p : Phase) (rest : List UpdaterSignal) (h : p = .waiting ∨ p = .collecting) :
    Reads p (.stop :: rest) .ended rest
  | nothing : Reads .collecting [] .due []

theorem reads_of_read {u : Updater} (h : (⟨p.stage, inbox⟩ : Updater).read? = some u) :
    ∃ p' inbox', Reads p inbox p' inbox' ∧ u = ⟨p'.stage, inbox'⟩ := by
  match p, inbox with
  | .due, _ | .listed, _ | .taken, _ | .ended, _ => exact absurd h nofun
  | .waiting, [] => exact absurd h nofun
  | .waiting, .refresh :: rest =>
    exact ⟨.collecting, rest, .refresh _ _ (.inl rfl), (Option.some.inj h).symm⟩
  | .waiting, .stop :: rest =>
    exact ⟨.ended, rest, .stop _ _ (.inl rfl), (Option.some.inj h).symm⟩
  | .collecting, [] => exact ⟨.due, [], .nothing, (Option.some.inj h).symm⟩
  | .collecting, .refresh :: rest =>
    exact ⟨.collecting, rest, .refresh _ _ (.inr rfl), (Option.some.inj h).symm⟩
  | .collecting, .stop :: rest =>
    exact ⟨.ended, rest, .stop _ _ (.inr rfl), (Option.some.inj h).symm⟩

/-- Reading has nothing to do with snapshots. -/
theorem Reads.fits {p' : Phase} {inbox' : List UpdaterSignal} (h : Reads p inbox p' inbox')
    {stage : FetchStage} (hfits : p.Fits stage) : p'.Fits stage := by
  cases h with
  | refresh _ _ hp | stop _ _ hp => rcases hp with rfl | rfl <;> exact hfits
  | nothing => exact hfits

theorem Stands.read (h : s.Stands p inbox) (hs : s.step? (.steer .read) = some s') :
    ∃ p' inbox', Reads p inbox p' inbox' ∧ s'.Stands p' inbox' := by
  obtain ⟨u, hu, hupdater, hstages⟩ := h.steer hs
  obtain ⟨read, hread, rfl⟩ := Option.map_eq_some_iff.mp hu
  obtain ⟨p', inbox', hreads, hu'⟩ := reads_of_read hread
  refine ⟨p', inbox', hreads, ?_, ?_⟩
  · rw [hupdater, hu']
  · rw [hstages]
    exact hreads.fits h.fits

/-- A listing leaves the updater as it is. -/
theorem updater_keptCauses {k t : KnowledgeBase} {causes : List FailureCause}
    (h : KnowledgeBase.keptCauses k = .ok causes t) : t.updater = k.updater := by
  have hcache : t.cache = k.cache := (keptCauses_ok h).2.2
  rw [KnowledgeBase.updater, hcache, KnowledgeBase.updater]

theorem updater_keptCauses_error {k t : KnowledgeBase} {e : KnowledgeBaseError}
    (h : KnowledgeBase.keptCauses k = .error e t) : t.updater = k.updater := by
  have hcache : t.cache = k.cache := (keptCauses_error h).2
  rw [KnowledgeBase.updater, hcache, KnowledgeBase.updater]

theorem stages_moved (f : Fetcher) (stage : FetchStage) (k : KnowledgeBase) :
    (s.moved f stage k).stages f = stage := Function.update_self ..

theorem stages_moved_reader (n : Nat) (stage : FetchStage) (k : KnowledgeBase) :
    (s.moved (.reader n) stage k).stages .updater = s.stages .updater := by
  have hne : Fetcher.updater ≠ .reader n := nofun
  exact Function.update_of_ne hne stage s.stages

/-- An updater whose snapshot has failed waits. -/
theorem stands_failed {t : KnowledgeBase} (h : t.updater = some ⟨.fetching, inbox⟩) :
    (s.moved .updater .idle (Fetcher.updater.done (Fetcher.updater.fail t))).Stands
      .waiting inbox := by
  have hfail : (Fetcher.updater.fail t).updater = some ⟨.fetching, inbox⟩ :=
    (updater_onCache (f := (·.fail)) (fun _ => rfl) t).trans h
  constructor
  · exact updater_done hfail
  · exact stages_moved ..

/-- The causes for a snapshot of the updater are listed only when it has to take one. Then the
snapshot is under way, or has failed. -/
theorem Stands.begin (h : s.Stands p inbox) (hs : s.step? (.listCauses .updater) = some s') :
    p = .due ∧ ∃ p', (p' = .listed ∨ p' = .waiting) ∧ s'.Stands p' inbox := by
  simp only [step?] at hs
  split at hs
  · next hmay =>
    have hp : p = .due := by
      have hidle : s.stages .updater = .idle := by
        unfold mayList at hmay
        split at hmay
        · assumption
        · next heq _ => cases heq
        · cases hmay
      simp only [mayList, hidle, h.updater, Option.any_some, decide_eq_true_eq] at hmay
      have hfits := h.fits
      rw [hidle] at hfits
      cases p with
      | due => rfl
      | listed | taken => obtain ⟨_, hfits⟩ := hfits; cases hfits
      | waiting | collecting | ended => cases hmay
    subst hp
    refine ⟨rfl, ?_⟩
    cases hkept : KnowledgeBase.keptCauses s.base with
    | ok causes t =>
      rw [hkept] at hs
      obtain rfl := Option.some.inj hs
      refine ⟨.listed, .inl rfl, ?_, _, stages_moved ..⟩
      exact (updater_keptCauses hkept).trans h.updater
    | error e t =>
      rw [hkept] at hs
      obtain rfl := Option.some.inj hs
      refine ⟨.waiting, .inr rfl, stands_failed ?_⟩
      exact (updater_keptCauses_error hkept).trans h.updater
  · cases hs

/-- The categories are listed only behind the causes. -/
theorem Stands.complete (h : s.Stands p inbox)
    (hs : s.step? (.listCategories .updater) = some s') :
    p = .listed ∧ ∃ p', (p' = .taken ∨ p' = .waiting) ∧ s'.Stands p' inbox := by
  simp only [step?] at hs
  split at hs
  case h_1 r hr =>
    have hp : p = .listed := by
      have hfits := h.fits
      rw [hr] at hfits
      cases p with
      | listed => rfl
      | taken => obtain ⟨_, hfits⟩ := hfits; cases hfits
      | due | waiting | collecting | ended => cases hfits
    subst hp
    refine ⟨rfl, ?_⟩
    cases hkept : KnowledgeBase.keptCauses s.base with
    | ok causes t =>
      rw [KnowledgeBase.keptCategories, bind_ok hkept] at hs
      obtain rfl := Option.some.inj hs
      refine ⟨.taken, .inl rfl, ?_, _, stages_moved ..⟩
      exact (updater_keptCauses hkept).trans h.updater
    | error e t =>
      rw [KnowledgeBase.keptCategories, bind_error hkept] at hs
      obtain rfl := Option.some.inj hs
      refine ⟨.waiting, .inr rfl, stands_failed ?_⟩
      exact (updater_keptCauses_error hkept).trans h.updater
  case h_2 => cases hs

/-- A snapshot of the updater is put into the cache when both are listed. -/
theorem Stands.install (h : s.Stands p inbox) (hs : s.step? (.install .updater) = some s') :
    p = .taken ∧ s'.Stands .waiting inbox := by
  simp only [step?] at hs
  split at hs
  case h_1 i hi =>
    have hp : p = .taken := by
      have hfits := h.fits
      rw [hi] at hfits
      cases p with
      | taken => rfl
      | listed => obtain ⟨_, hfits⟩ := hfits; cases hfits
      | due | waiting | collecting | ended => cases hfits
    subst hp
    obtain rfl := Option.some.inj hs
    have hinstalled : (s.base.onCache (·.install i.snapshot)).updater =
        some ⟨.fetching, inbox⟩ :=
      (updater_onCache (f := (·.install i.snapshot)) (fun _ => rfl) s.base).trans h.updater
    refine ⟨rfl, ?_, ?_⟩
    · exact updater_done hinstalled
    · exact Function.update_self Fetcher.updater FetchStage.idle s.stages
  case h_2 => cases hs

/-- A step of somebody else, or none of a snapshot of the updater. -/
def Beside : TrafficStep → Prop
  | .write _ | .miss _ | .listCauses (.reader _) | .listCategories (.reader _)
  | .install (.reader _) => True
  | .steer _ | .listCauses .updater | .listCategories .updater | .install .updater => False

/-- A reader that has come further leaves the updater where it stands. -/
theorem Stands.moved_reader (h : s.Stands p inbox) (n : Nat) (stage : FetchStage)
    {k : KnowledgeBase} (hk : k.updater = s.base.updater) :
    (s.moved (.reader n) stage k).Stands p inbox := by
  constructor
  · exact hk.trans h.updater
  · rw [stages_moved_reader]
    exact h.fits

/-- What others do leaves the updater where it is. -/
theorem Stands.beside (h : s.Stands p inbox) {e : TrafficStep} (he : Beside e)
    (hs : s.step? e = some s') : s'.Stands p inbox := by
  cases e with
  | steer m => exact absurd he id
  | write b =>
    obtain rfl := Option.some.inj hs
    exact ⟨h.updater, h.fits⟩
  | miss n =>
    simp only [step?] at hs
    split at hs
    · obtain rfl := Option.some.inj hs
      exact h.moved_reader n .missed rfl
    · cases hs
  | listCauses f =>
    cases f with
    | updater => exact absurd he id
    | reader n =>
      simp only [step?] at hs
      split at hs
      · cases hkept : KnowledgeBase.keptCauses s.base with
        | ok causes t =>
          rw [hkept] at hs
          obtain rfl := Option.some.inj hs
          exact h.moved_reader n _ (updater_keptCauses hkept)
        | error e t =>
          rw [hkept] at hs
          obtain rfl := Option.some.inj hs
          exact h.moved_reader n _ (updater_keptCauses_error hkept)
      · cases hs
  | listCategories f =>
    cases f with
    | updater => exact absurd he id
    | reader n =>
      simp only [step?] at hs
      split at hs
      case h_1 r hr =>
        cases hkept : KnowledgeBase.keptCauses s.base with
        | ok causes t =>
          rw [KnowledgeBase.keptCategories, bind_ok hkept] at hs
          obtain rfl := Option.some.inj hs
          exact h.moved_reader n _ (updater_keptCauses hkept)
        | error e t =>
          rw [KnowledgeBase.keptCategories, bind_error hkept] at hs
          obtain rfl := Option.some.inj hs
          exact h.moved_reader n _ (updater_keptCauses_error hkept)
      case h_2 => cases hs
  | install f =>
    cases f with
    | updater => exact absurd he id
    | reader n =>
      simp only [step?] at hs
      split at hs
      case h_1 i hi =>
        obtain rfl := Option.some.inj hs
        have hmoved := h.moved_reader n .idle
          (updater_onCache (f := (·.install i.snapshot)) (fun _ => rfl) s.base)
        exact ⟨hmoved.updater, hmoved.fits⟩
      case h_2 => cases hs

/-- An updater that has to take a snapshot can list the causes. -/
theorem Stands.can_begin (h : s.Stands .due inbox) :
    ∃ s', s.step? (.listCauses .updater) = some s' := by
  have hmay : s.mayList .updater = true := by
    have hidle : s.stages .updater = .idle := h.fits
    simp only [mayList, hidle, h.updater, Option.any_some]
    rfl
  simp only [step?, hmay, if_true]
  cases KnowledgeBase.keptCauses s.base with
  | ok causes t => exact ⟨_, rfl⟩
  | error e t => exact ⟨_, rfl⟩

/-- One that has listed the causes can list the categories. -/
theorem Stands.can_complete (h : s.Stands .listed inbox) :
    ∃ s', s.step? (.listCategories .updater) = some s' := by
  obtain ⟨r, hr⟩ := h.fits
  simp only [step?, hr]
  cases KnowledgeBase.keptCategories s.base with
  | ok categories t => exact ⟨_, rfl⟩
  | error e t => exact ⟨_, rfl⟩

/-- One that has listed both can put them into the cache. -/
theorem Stands.can_install (h : s.Stands .taken inbox) :
    ∃ s', s.step? (.install .updater) = some s' := by
  obtain ⟨i, hi⟩ := h.fits
  simp only [step?, hi]
  exact ⟨_, rfl⟩

/-- One that reads can read on, and one that waits can read a signal that there is. -/
theorem Stands.can_read (h : s.Stands p inbox)
    (hp : p = .collecting ∨ p = .waiting ∧ inbox ≠ []) :
    ∃ s', s.step? (.steer .read) = some s' := by
  have hread : ∃ u, (⟨p.stage, inbox⟩ : Updater).read? = some u := by
    match p, inbox with
    | .collecting, [] | .collecting, .refresh :: _ | .collecting, .stop :: _
    | .waiting, .refresh :: _ | .waiting, .stop :: _ => exact ⟨_, rfl⟩
    | .waiting, [] | .due, _ | .listed, _ | .taken, _ | .ended, _ => simp at hp
  obtain ⟨u, hu⟩ := hread
  simp only [step?, Steering.steer, h.updater, hu, Option.map_some]
  exact ⟨_, rfl⟩

end Traffic

end BuildTriage
