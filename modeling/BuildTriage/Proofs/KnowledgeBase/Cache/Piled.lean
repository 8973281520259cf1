import BuildTriage.Proofs.KnowledgeBase.Cache.Vigil

/-!
# What has piled up when the updater begins to read

An updater that waits and finds a signal for a snapshot reads on until it finds no more. Then it
begins one snapshot for all that it has read. If it comes to the signal to end first, it ends and
begins none.
-/

namespace BuildTriage

namespace Vigil

/-- What has become, later on, of the signals for snapshots that a waiting updater found when it
began to read. The updater is then in a phase. -/
inductive Piled (v later : Vigil) (p : Phase) : Prop where
  /-- It still reads, or has found no more and has to begin a snapshot; then the signal to end did
  not stand behind them. -/
  | reading (rounds : later.rounds = v.rounds) (found : later.found = v.sent)
    (closing : v.closing.behind ≠ [] → later.closing.behind ≠ [])
    (phase : p = .collecting ∨ p = .due ∧ v.closing.behind = [])
  /-- It has begun a snapshot for all of them. -/
  | answered (r : Round) (back : List Round) (rounds : later.rounds = v.rounds ++ r :: back)
    (together : v.unread <+: r.batch) (opened : v.closing.behind = [])
  /-- It has ended without one. -/
  | ended (rounds : later.rounds = v.rounds) (phase : p = .ended)

variable {v w next : Vigil} {p : Phase} {inbox : List UpdaterSignal}

/-- A step in which the updater neither reads nor begins a snapshot. -/
structure Leaves (w next : Vigil) : Prop where
  /-- The snapshots that were begun. -/
  rounds : next.rounds = w.rounds
  /-- How many signals the updater found. -/
  found : next.found = w.found
  /-- An updater that was told to end stays so. -/
  closing : w.closing.behind ≠ [] → next.closing.behind ≠ []

theorem leaves_request (hs : w.step? .request = some next) : w.Leaves next := by
  simp only [step?] at hs
  split at hs
  · obtain ⟨t, -, rfl⟩ := Option.map_eq_some_iff.mp hs
    exact ⟨rfl, rfl, id⟩
  · obtain rfl := Option.some.inj hs
    exact ⟨rfl, rfl, id⟩

theorem leaves_seize (hs : w.step? .seize = some next) : w.Leaves next := by
  obtain ⟨huncalled, hnext⟩ := Option.ite_none_right_eq_some.mp hs
  obtain rfl := Option.some.inj hnext
  exact ⟨rfl, rfl, fun hbehind => absurd (congrArg Closing.behind huncalled) hbehind⟩

theorem leaves_tell (hs : w.step? .tell = some next) : w.Leaves next := by
  obtain ⟨hseized, hnext⟩ := Option.ite_none_right_eq_some.mp hs
  obtain ⟨t, -, rfl⟩ := Option.map_eq_some_iff.mp hnext
  exact ⟨rfl, rfl, fun hbehind => absurd (congrArg Closing.behind hseized) hbehind⟩

theorem leaves_expire (hs : w.step? .expire = some next) : w.Leaves next := by
  obtain ⟨t, -, rfl⟩ := Option.map_eq_some_iff.mp hs
  exact ⟨rfl, rfl, id⟩

theorem leaves_other {e : TrafficStep} (he : e ≠ .listCauses .updater)
    (hs : w.step? (.other e) = some next) : w.Leaves next := by
  obtain ⟨t, -, rfl⟩ := exists_of_other hs
  have hnote : w.note e = w := by
    unfold note
    split
    · exact absurd rfl he
    · rfl
  rw [hnote]
  exact ⟨rfl, rfl, id⟩

/-- It stays so with what has piled up while the updater does something else. -/
theorem Piled.leave (h : v.Piled w p) (hleaves : w.Leaves next) : v.Piled next p := by
  cases h with
  | reading rounds found closing phase =>
    exact .reading (hleaves.rounds.trans rounds) (hleaves.found.trans found)
      (hleaves.closing ∘ closing) phase
  | answered r back rounds together opened =>
    exact .answered r back (hleaves.rounds.trans rounds) together opened
  | ended rounds phase => exact .ended (hleaves.rounds.trans rounds) phase

/-- A snapshot that was begun for what had piled up stays so in any phase. -/
theorem Piled.proceed (h : v.Piled w p) (hp : p ≠ .collecting ∧ p ≠ .due ∧ p ≠ .ended)
    (hleaves : w.Leaves next) (p' : Phase) : v.Piled next p' := by
  obtain ⟨hcollecting, hdue, hended⟩ := hp
  cases h with
  | reading _ _ _ phase => exact (phase.elim hcollecting fun hp => hdue hp.1).elim
  | answered r back rounds together opened =>
    exact .answered r back (hleaves.rounds.trans rounds) together opened
  | ended _ phase => exact absurd phase hended

/-- What the updater has read when it begins the snapshot begins with what it found. -/
theorem unread_of_found (hv : v.rounds.flatMap (·.batch) ++ v.unread = List.range v.sent)
    (hw : w.Kept .due inbox) (hrounds : w.rounds = v.rounds) (hfound : w.found = v.sent) :
    v.unread <+: w.batch := by
  obtain ⟨hheard, -⟩ := eq_range_of_append hw.numbered
  have hle : v.sent ≤ w.heard.length := hfound ▸ hw.found_le_heard nofun
  have hfront : List.range v.sent <+: w.heard := by
    rw [hheard]
    exact ⟨(List.range (w.heard.length - v.sent)).map (v.sent + ·), by
      rw [← List.range_add, Nat.add_sub_cancel' hle]⟩
  rw [← hv, heard, hrounds] at hfront
  exact (List.prefix_append_right_inj _).mp hfront

/-- A read step goes on with what has piled up. -/
theorem Piled.read (h : v.Piled w p) (hw : w.Kept p inbox) (hs : w.step? .read = some next) :
    ∃ p' inbox', next.Kept p' inbox' ∧ v.Piled next p' := by
  obtain ⟨p', inbox', hreads, hkept⟩ := hw.read hs
  refine ⟨p', inbox', hkept, ?_⟩
  obtain ⟨t, -, rfl⟩ := Option.map_eq_some_iff.mp hs
  have hrounds : w.hear.rounds = w.rounds := by
    unfold hear
    split <;> rfl
  have hclosing : w.hear.closing = w.closing := by
    unfold hear
    split <;> rfl
  cases h with
  | reading rounds found closing phase =>
    cases hreads with
    | refresh _ rest hp =>
      obtain rfl : p = .collecting := by
        rcases phase with rfl | ⟨rfl, -⟩
        · rfl
        · exact absurd hp nofun
      have hfound : w.hear.found = w.found := by
        rw [hear_refresh hw.stands.updater]
        rfl
      refine .reading (hrounds.trans rounds) (hfound.trans found) (fun hbehind => ?_) (.inl rfl)
      dsimp only
      rw [hclosing]
      exact closing hbehind
    | stop => exact .ended (hrounds.trans rounds) rfl
    | nothing =>
      obtain ⟨-, hbehind, -⟩ := hw.all_heard nofun
      have hopened : v.closing.behind = [] := by
        by_contra hbehind'
        exact closing hbehind' hbehind
      rw [hear_other hw.stands.updater nofun]
      exact .reading rounds found closing (.inr ⟨rfl, hopened⟩)
  | answered r back rounds together opened =>
    exact .answered r back (hrounds.trans rounds) together opened
  | ended _ phase =>
    subst phase
    cases hreads with
    | refresh _ _ hp | stop _ _ hp => exact absurd hp nofun

/-- The snapshot that is begun next is the one for what has piled up. -/
theorem Piled.begin (h : v.Piled w p) (hw : w.Kept p inbox)
    (hv : v.rounds.flatMap (·.batch) ++ v.unread = List.range v.sent)
    (hs : w.step? (.other (.listCauses .updater)) = some next) :
    ∃ p' inbox', next.Kept p' inbox' ∧ v.Piled next p' := by
  obtain ⟨rfl, p', -, hkept⟩ := hw.begin hs
  refine ⟨p', inbox, hkept, ?_⟩
  obtain ⟨t, -, rfl⟩ := exists_of_other hs
  cases h with
  | reading rounds found closing phase =>
    obtain ⟨-, hopened⟩ := phase.resolve_left nofun
    refine .answered w.round [] ?_ (unread_of_found hv hw rounds found) hopened
    rw [← rounds]
    rfl
  | answered r back rounds together opened =>
    refine .answered r (back ++ [w.round]) ?_ together opened
    rw [← List.cons_append, ← List.append_assoc, ← rounds]
    rfl
  | ended _ phase => exact absurd phase nofun

/-- Every step leaves what has piled up so, or goes on with it. -/
theorem Piled.step (h : v.Piled w p) (hw : w.Kept p inbox)
    (hv : v.rounds.flatMap (·.batch) ++ v.unread = List.range v.sent) {e : VigilStep}
    (hs : w.step? e = some next) : ∃ p' inbox', next.Kept p' inbox' ∧ v.Piled next p' := by
  have hbeside : ∀ {e}, Traffic.Beside e → w.step? (.other e) = some next →
      ∃ p' inbox', next.Kept p' inbox' ∧ v.Piled next p' := by
    intro e he hs
    refine ⟨p, inbox, hw.beside he hs, h.leave (leaves_other ?_ hs)⟩
    rintro rfl
    exact he
  cases e with
  | request =>
    obtain ⟨inbox', hkept⟩ := hw.request hs
    exact ⟨p, inbox', hkept, h.leave (leaves_request hs)⟩
  | seize => exact ⟨p, inbox, hw.seize hs, h.leave (leaves_seize hs)⟩
  | tell => exact ⟨p, _, hw.tell hs, h.leave (leaves_tell hs)⟩
  | expire =>
    obtain ⟨t, ht, -⟩ := Option.map_eq_some_iff.mp hs
    obtain ⟨rfl, -, -⟩ := hw.stands.expire ht
    exact ⟨.due, [], hw.expire hs, h.proceed ⟨nofun, nofun, nofun⟩ (leaves_expire hs) _⟩
  | read => exact h.read hw hs
  | other e =>
    match e with
    | .steer _ => exact absurd hs nofun
    | .listCauses .updater => exact h.begin hw hv hs
    | .listCategories .updater =>
      obtain ⟨rfl, p', -, hkept⟩ := hw.complete hs
      exact ⟨p', inbox, hkept, h.proceed ⟨nofun, nofun, nofun⟩
        (leaves_other (e := .listCategories .updater) nofun hs) p'⟩
    | .install .updater =>
      obtain ⟨rfl, hkept⟩ := hw.install hs
      exact ⟨.waiting, inbox, hkept, h.proceed ⟨nofun, nofun, nofun⟩
        (leaves_other (e := .install .updater) nofun hs) .waiting⟩
    | .write b => exact hbeside (e := .write b) trivial hs
    | .miss n => exact hbeside (e := .miss n) trivial hs
    | .listCauses (.reader n) => exact hbeside (e := .listCauses (.reader n)) trivial hs
    | .listCategories (.reader n) => exact hbeside (e := .listCategories (.reader n)) trivial hs
    | .install (.reader n) => exact hbeside (e := .install (.reader n)) trivial hs

/-- Whatever happens later, it goes on with what has piled up, or leaves it so. -/
theorem Piled.run (h : v.Piled w p) (hw : w.Kept p inbox)
    (hv : v.rounds.flatMap (·.batch) ++ v.unread = List.range v.sent) (steps : List VigilStep) :
    ∃ p' inbox', (w.run steps).Kept p' inbox' ∧ v.Piled (w.run steps) p' := by
  induction steps generalizing w p inbox with
  | nil => exact ⟨p, inbox, hw, h⟩
  | cons e steps ih =>
    rw [Vigil.run, List.foldl_cons]
    cases hs : w.step? e with
    | none => exact ih h hw
    | some next =>
      obtain ⟨p', inbox', hkept, hpiled⟩ := h.step hw hv hs
      exact ih hpiled hkept

/-- A waiting updater that finds a signal for a snapshot begins to read what has piled up. -/
theorem Kept.piled {rest : List UpdaterSignal} (h : v.Kept .waiting (.refresh :: rest))
    (steps : List VigilStep) :
    ∃ p inbox, (v.run (.read :: steps)).Kept p inbox ∧ v.Piled (v.run (.read :: steps)) p := by
  have hv : v.rounds.flatMap (·.batch) ++ v.unread = List.range v.sent := by
    have hnumbered := h.numbered
    rwa [heard, (h.answered (.inr (.inr rfl))).1, List.append_nil] at hnumbered
  obtain ⟨t, ht⟩ := h.stands.can_read (.inr ⟨rfl, List.cons_ne_nil _ _⟩)
  have hs : v.step? .read = some { v.hear with traffic := t } := by
    simp only [step?, ht, Option.map_some]
  obtain ⟨p', inbox', hreads, hkept⟩ := h.read hs
  obtain ⟨rfl, rfl⟩ : p' = .collecting ∧ inbox' = rest := by
    cases hreads
    exact ⟨rfl, rfl⟩
  have hpiled : v.Piled { v.hear with traffic := t } .collecting := by
    rw [hear_refresh h.stands.updater]
    exact .reading rfl rfl id (.inl rfl)
  rw [Vigil.run, List.foldl_cons, hs]
  exact hpiled.run hkept hv steps

end Vigil

end BuildTriage
