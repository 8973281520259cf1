import BuildTriage.Proofs.KnowledgeBase.Cache.Piled

/-!
# No signal for a snapshot is lost

Every signal is read once, for the snapshot that is begun next; those that have piled up when
the updater begins to read are read for the same one and no other, unless the signal to end is
read behind them: then they are read for none. So when the updater waits with nothing to read, its
latest snapshot was begun after the last signal. Behind the signal to end at most one more is
begun. Left to itself the updater gets there: each of its own moves leaves it fewer.
-/

namespace BuildTriage

namespace Vigil

/-- What is true of the signals at any time. -/
structure Answered (v : Vigil) : Prop where
  /-- Every signal was read for one snapshot, or for the one that is to be begun, or was not
  read yet. -/
  numbered : v.heard ++ v.unread = List.range v.sent
  /-- What was not read is in the inbox, before the signal to end. -/
  queued : ∃ u, v.traffic.base.updater = some u ∧ (u.stage ≠ .ended →
    u.inbox = List.replicate v.unread.length .refresh ++ v.closing.behind)
  /-- What has piled up is read together. -/
  together : Together v.rounds
  /-- While the updater waits no signal that it has read is left without a snapshot. -/
  begun : ∀ inbox, v.traffic.base.updater = some ⟨.waiting, inbox⟩ → v.batch = []
  /-- Without a signal a snapshot is begun at first, and when the updater has waited long
  enough. -/
  unasked : v.rounds.countP (·.batch.isEmpty) ≤ v.expired + 1
  /-- An updater that waits with nothing to read has begun its latest snapshot after the last
  signal, and has begun one for every signal. -/
  latest : v.traffic.base.updater = some ⟨.waiting, []⟩ → ∃ r, v.rounds.getLast? = some r ∧
    r.sent = v.sent ∧ v.rounds.flatMap (·.batch) = List.range v.sent
  /-- Since the updater was told to end it has begun one snapshot at most. -/
  told : ∀ n, v.closing = .told n → v.rounds.length ≤ n + 1

/-- What has become of the signals for snapshots that a waiting updater found when it began to
read. As soon as it waits again it has begun exactly one snapshot for them. -/
inductive Collapsed (v later : Vigil) : Prop where
  /-- The updater still reads, or has to begin a snapshot. -/
  | reading (rounds : later.rounds = v.rounds)
    (updater : ∃ u, later.traffic.base.updater = some u ∧
      (u.stage = .collecting ∨ u.stage = .fetching))
  /-- The next snapshot that it has begun was begun for all of them, and no other was for any; the
  signal to end did not stand behind them when the updater began to read. -/
  | once (r : Round) (back : List Round) (rounds : later.rounds = v.rounds ++ r :: back)
    (together : v.unread <+: r.batch)
    (apart : ∀ r' ∈ v.rounds ++ back, ∀ i ∈ v.unread, i ∉ r'.batch)
    (opened : v.closing.behind = [])
  /-- The signal to end was read behind them, and no snapshot was begun. -/
  | dropped (rounds : later.rounds = v.rounds)
    (updater : ∃ inbox, later.traffic.base.updater = some ⟨.ended, inbox⟩)
    (told : later.closing.behind ≠ [])

/-- The updater has nothing to do: it has ended if it was told to, and otherwise waits with
nothing to read. -/
def Rests (v : Vigil) : Prop :=
  match v.closing with
  | .told _ => ∃ inbox, v.traffic.base.updater = some ⟨.ended, inbox⟩
  | .uncalled | .seized => v.traffic.base.updater = some ⟨.waiting, []⟩

variable {v next : Vigil} {p : Phase} {inbox : List UpdaterSignal}

/-- A phase in which the updater waits. -/
theorem eq_waiting {p : Phase} (h : p.stage = .waiting) : p = .waiting := by
  cases p with
  | waiting => rfl
  | due | listed | taken | collecting | ended => cases h

/-- An updater that has begun a snapshot for all signals has begun it after the last. -/
theorem Kept.latest (h : v.Kept .waiting []) : ∃ r, v.rounds.getLast? = some r ∧
    r.sent = v.sent ∧ v.rounds.flatMap (·.batch) = List.range v.sent := by
  obtain ⟨hbatch, hrounds⟩ := h.answered (.inr (.inr rfl))
  obtain ⟨hunread, -, -⟩ := h.all_heard nofun
  have hall : v.rounds.flatMap (·.batch) = List.range v.sent := by
    have hnumbered := h.numbered
    rw [heard, hbatch, hunread, List.append_nil, List.append_nil] at hnumbered
    exact hnumbered
  rcases List.eq_nil_or_concat v.rounds with hnil | ⟨front, r, hsplit⟩
  · exact absurd hnil hrounds
  · rw [List.concat_eq_append] at hsplit
    obtain ⟨n, hbatches, -, hn⟩ := h.together front r [] hsplit
    have hsent : r.sent ≤ v.sent := by
      refine h.sent_le r ?_
      rw [hsplit]
      exact List.mem_append_right front List.mem_cons_self
    have hcount : n = v.sent := by
      rw [hsplit, List.flatMap_append, List.flatMap_singleton, hbatches] at hall
      have hlength := congrArg List.length hall
      rwa [List.length_range, List.length_range] at hlength
    refine ⟨r, ?_, by omega, hall⟩
    rw [hsplit, List.getLast?_concat]

theorem Kept.answers (h : v.Kept p inbox) : v.Answered where
  numbered := h.numbered
  queued := by
    refine ⟨⟨p.stage, inbox⟩, h.stands.updater, fun hstage => h.inbox_eq ?_⟩
    rintro rfl
    exact hstage rfl
  together := h.together
  begun found hfound := by
    have hp : p = .waiting := by
      have hupdater := h.stands.updater.symm.trans hfound
      exact eq_waiting (congrArg Updater.stage (Option.some.inj hupdater))
    exact (h.answered (.inr (.inr hp))).1
  unasked := by
    have hunasked := h.unasked
    omega
  latest hfound := by
    have hupdater := Option.some.inj (h.stands.updater.symm.trans hfound)
    obtain rfl := eq_waiting (congrArg Updater.stage hupdater)
    obtain rfl : inbox = [] := congrArg Updater.inbox hupdater
    exact h.latest
  told n hn := by
    have htold := h.told_le n hn
    split at htold <;> omega

/-- A move of the updater leaves it fewer. -/
theorem Kept.own (h : v.Kept p inbox) {e : VigilStep} (he : e.isOwn = true)
    (hs : v.step? e = some next) :
    ∃ p' inbox', next.Kept p' inbox' ∧ p'.ahead inbox' < p.ahead inbox := by
  unfold VigilStep.isOwn at he
  split at he
  · obtain ⟨p', inbox', hreads, hkept⟩ := h.read hs
    refine ⟨p', inbox', hkept, ?_⟩
    cases hreads with
    | refresh | stop =>
      simp only [Phase.ahead, Phase.rank, List.length_cons]
      omega
    | nothing => simp only [Phase.ahead, Phase.rank, List.length_nil]; omega
  · obtain ⟨rfl, p', hp', hkept⟩ := h.begin hs
    refine ⟨p', inbox, hkept, ?_⟩
    rcases hp' with rfl | rfl <;> simp only [Phase.ahead, Phase.rank] <;> omega
  · obtain ⟨rfl, p', hp', hkept⟩ := h.complete hs
    refine ⟨p', inbox, hkept, ?_⟩
    rcases hp' with rfl | rfl <;> simp only [Phase.ahead, Phase.rank] <;> omega
  · obtain ⟨rfl, hkept⟩ := h.install hs
    refine ⟨.waiting, inbox, hkept, ?_⟩
    simp only [Phase.ahead, Phase.rank]
    omega
  · cases he

/-- Every step keeps it. -/
theorem Kept.step (h : v.Kept p inbox) {e : VigilStep} (hs : v.step? e = some next) :
    ∃ p' inbox', next.Kept p' inbox' := by
  have hown : e.isOwn = true → ∃ p' inbox', next.Kept p' inbox' := by
    intro he
    obtain ⟨p', inbox', hkept, -⟩ := h.own he hs
    exact ⟨p', inbox', hkept⟩
  cases e with
  | request =>
    obtain ⟨inbox', hkept⟩ := h.request hs
    exact ⟨p, inbox', hkept⟩
  | seize => exact ⟨p, inbox, h.seize hs⟩
  | tell => exact ⟨p, _, h.tell hs⟩
  | expire => exact ⟨.due, [], h.expire hs⟩
  | read => exact hown rfl
  | other e =>
    match e with
    | .steer _ => exact absurd hs nofun
    | .listCauses .updater | .listCategories .updater | .install .updater => exact hown rfl
    | .write b => exact ⟨p, inbox, h.beside (e := .write b) trivial hs⟩
    | .miss n => exact ⟨p, inbox, h.beside (e := .miss n) trivial hs⟩
    | .listCauses (.reader n) =>
      exact ⟨p, inbox, h.beside (e := .listCauses (.reader n)) trivial hs⟩
    | .listCategories (.reader n) =>
      exact ⟨p, inbox, h.beside (e := .listCategories (.reader n)) trivial hs⟩
    | .install (.reader n) => exact ⟨p, inbox, h.beside (e := .install (.reader n)) trivial hs⟩

theorem run_append (v : Vigil) (steps more : List VigilStep) :
    v.run (steps ++ more) = (v.run steps).run more := List.foldl_append

/-- Every run keeps it. -/
theorem Kept.run (h : v.Kept p inbox) (steps : List VigilStep) :
    ∃ p' inbox', (v.run steps).Kept p' inbox' := by
  induction steps generalizing v p inbox with
  | nil => exact ⟨p, inbox, h⟩
  | cons e steps ih =>
    rw [Vigil.run, List.foldl_cons]
    cases hs : v.step? e with
    | none => exact ih h
    | some next =>
      obtain ⟨p', inbox', hkept⟩ := h.step hs
      exact ih hkept

/-- An updater that has something to do can do it. -/
theorem Kept.exists_own (h : v.Kept p inbox) (hopen : p ≠ .ended)
    (hbusy : ¬ (p = .waiting ∧ inbox = [])) :
    ∃ e next, e.isOwn = true ∧ v.step? e = some next := by
  have hreads : (p = .collecting ∨ p = .waiting ∧ inbox ≠ []) →
      ∃ e next, e.isOwn = true ∧ v.step? e = some next := by
    intro hp
    obtain ⟨t, ht⟩ := h.stands.can_read hp
    refine ⟨.read, ?_⟩
    simp only [step?, ht, Option.map_some]
    exact ⟨_, rfl, rfl⟩
  cases p with
  | due =>
    obtain ⟨t, ht⟩ := h.stands.can_begin
    refine ⟨.other (.listCauses .updater), ?_⟩
    simp only [step?, ht, Option.map_some]
    exact ⟨_, rfl, rfl⟩
  | listed =>
    obtain ⟨t, ht⟩ := h.stands.can_complete
    refine ⟨.other (.listCategories .updater), ?_⟩
    simp only [step?, ht, Option.map_some]
    exact ⟨_, rfl, rfl⟩
  | taken =>
    obtain ⟨t, ht⟩ := h.stands.can_install
    refine ⟨.other (.install .updater), ?_⟩
    simp only [step?, ht, Option.map_some]
    exact ⟨_, rfl, rfl⟩
  | waiting => exact hreads (.inr ⟨rfl, fun hinbox => hbusy ⟨rfl, hinbox⟩⟩)
  | collecting => exact hreads (.inl rfl)
  | ended => exact absurd rfl hopen

/-- An updater that has ended was told to, and one that waits for good was not. -/
theorem Kept.rests (h : v.Kept p inbox) (hdone : p = .ended ∨ p = .waiting ∧ inbox = []) :
    v.Rests := by
  unfold Rests
  rcases hdone with rfl | ⟨rfl, rfl⟩
  · have hbehind := (h.ended rfl).1
    split
    · exact ⟨inbox, h.stands.updater⟩
    · next hclosing => rw [hclosing] at hbehind; exact absurd rfl hbehind
    · next hclosing => rw [hclosing] at hbehind; exact absurd rfl hbehind
  · obtain ⟨-, hbehind, -⟩ := h.all_heard nofun
    split
    · next hclosing => rw [hclosing] at hbehind; exact absurd hbehind nofun
    · exact h.stands.updater
    · exact h.stands.updater

/-- Left to itself the updater comes to rest. -/
theorem Kept.settles (h : v.Kept p inbox) :
    ∃ moves, (∀ e ∈ moves, VigilStep.isOwn e = true) ∧ (v.run moves).Rests := by
  -- The induction is on how many moves are before the updater at most.
  induction hn : p.ahead inbox using Nat.strong_induction_on generalizing v p inbox with
  | h n ih =>
    subst hn
    by_cases hdone : p = .ended ∨ p = .waiting ∧ inbox = []
    · exact ⟨[], nofun, h.rests hdone⟩
    · rw [not_or] at hdone
      obtain ⟨e, next, he, hs⟩ := h.exists_own hdone.1 hdone.2
      obtain ⟨p', inbox', hkept, hlt⟩ := h.own he hs
      obtain ⟨moves, hmoves, hrests⟩ := ih _ hlt hkept rfl
      refine ⟨e :: moves, List.forall_mem_cons.mpr ⟨he, hmoves⟩, ?_⟩
      rw [Vigil.run, List.foldl_cons, hs]
      exact hrests

/-- What was read for a snapshot was read for no other one. -/
theorem Kept.apart (h : v.Kept p inbox) {front back : List Round} {r : Round}
    (hrounds : v.rounds = front ++ r :: back) :
    ∀ r' ∈ front ++ back, ∀ i ∈ r.batch, i ∉ r'.batch := by
  have hnodup : (v.rounds.flatMap (·.batch)).Nodup := by
    have hall : (v.heard ++ v.unread).Nodup := h.numbered ▸ List.nodup_range
    rw [heard] at hall
    exact hall.of_append_left.of_append_left
  have hmoved : (v.rounds.flatMap (·.batch)).Perm
      (r.batch ++ (front ++ back).flatMap (·.batch)) := by
    rw [hrounds, ← List.flatMap_cons]
    exact List.perm_middle.flatMap_right _
  intro r' hr' i hi hi'
  have hdisjoint := (List.nodup_append.mp (hmoved.nodup_iff.mp hnodup)).2.2
  exact hdisjoint i hi i (List.mem_flatMap.mpr ⟨r', hr', hi'⟩) rfl

/-- What has piled up is read for one snapshot, or for none if the signal to end is read behind
it. -/
theorem Piled.collapse {w : Vigil} (h : v.Piled w p) (hw : w.Kept p inbox) : v.Collapsed w := by
  cases h with
  | reading rounds _ _ phase =>
    refine .reading rounds ⟨⟨p.stage, inbox⟩, hw.stands.updater, ?_⟩
    rcases phase with rfl | ⟨rfl, -⟩
    · exact .inl rfl
    · exact .inr rfl
  | answered r back rounds together opened =>
    exact .once r back rounds together
      (fun r' hr' i hi => hw.apart rounds r' hr' i (together.subset hi)) opened
  | ended rounds phase =>
    subst phase
    exact .dropped rounds ⟨inbox, hw.stands.updater⟩ (hw.ended rfl).1

/-- Whatever happens to a cache whose updater has begun, no signal for a snapshot is lost, and
behind the signal to end at most one snapshot is begun. From there the updater comes to rest by
moves of its own. If it waits and finds signals for snapshots when it begins to read, then
whatever happens next exactly one snapshot is begun for them all, or none if the signal to end is
read behind them. -/
theorem signals_of_run (k : KnowledgeBase) (c : CauseCache) (steps : List VigilStep) :
    ((begun k c).run steps).Answered ∧
      (∃ moves, (∀ e ∈ moves, VigilStep.isOwn e = true) ∧
        ((begun k c).run (steps ++ moves)).Rests) ∧
      ∀ rest more, ((begun k c).run steps).traffic.base.updater =
          some ⟨.waiting, .refresh :: rest⟩ →
        Collapsed ((begun k c).run steps) ((begun k c).run (steps ++ .read :: more)) := by
  obtain ⟨p, inbox, hkept⟩ := (kept_begun k c).run steps
  obtain ⟨moves, hmoves, hrests⟩ := hkept.settles
  refine ⟨hkept.answers, ⟨moves, hmoves, ?_⟩, fun rest more hfound => ?_⟩
  · rw [run_append]
    exact hrests
  · have hupdater := Option.some.inj (hkept.stands.updater.symm.trans hfound)
    obtain rfl := eq_waiting (congrArg Updater.stage hupdater)
    obtain rfl : inbox = .refresh :: rest := congrArg Updater.inbox hupdater
    obtain ⟨p', inbox', hlater, hpiled⟩ := hkept.piled more
    rw [run_append]
    exact hpiled.collapse hlater

/-- Two signals have piled up and a third comes while they are read: one snapshot is begun. -/
example :
    let v := (begun (KnowledgeBase.ofFile .inMemory).cached .cold).run
      [.other (.listCauses .updater), .other (.listCategories .updater),
        .other (.install .updater), .request, .request]
    (v.run [.read, .request, .read, .read, .read, .other (.listCauses .updater)]).rounds =
      [⟨[], 0, 0⟩, ⟨[0, 1, 2], 2, 3⟩] := by
  decide

/-- Two signals for snapshots have piled up, and the one to end behind them: the updater reads all
three and ends, and the only snapshot that it has ever begun is its first. A snapshot that is asked
for after the cache was stopped is not taken either. -/
theorem signals_dropped :
    let k : KnowledgeBase := (KnowledgeBase.ofFile .inMemory).cached
    let v := (begun k .cold).run [.other (.listCauses .updater),
      .other (.listCategories .updater), .other (.install .updater), .request, .request, .seize,
      .tell]
    let w := v.run [.read, .read, .read]
    let uses : Op KnowledgeBase Unit := do
      KnowledgeBase.start
      modify KnowledgeBase.stop
      KnowledgeBase.updateCache
    (v.traffic.base.updater = some ⟨.waiting, [.refresh, .refresh, .stop]⟩ ∧ v.unread = [0, 1] ∧
      w.traffic.base.updater = some ⟨.ended, []⟩ ∧ w.unread = [] ∧ w.rounds = [⟨[], 0, 0⟩]) ∧
      ∃ after, uses k = .ok () after ∧ after.cache.map (·.refreshes) = some 1 :=
  ⟨by decide, _, rfl, by decide⟩

end Vigil

end BuildTriage
