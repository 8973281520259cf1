import BuildTriage.Proofs.KnowledgeBase.Cache.Phase
import Mathlib.Data.List.Basic

/-!
# What an updater is asked for

A cache sends its updater a signal for each new snapshot it is asked for, and the call that
stops it sends the one to end. Signals may come at any time: while the updater takes a snapshot,
while it reads its inbox, or when it has seen that there are no more and has not begun yet. Every
step keeps that signals are read in the order in which they were sent, and that each snapshot is
begun for all that were read before it.
-/

namespace BuildTriage

/-- How far the call is that stops the cache. -/
inductive Closing where
  /-- It has not come. -/
  | uncalled
  /-- It has taken the updater from the cache, which has none to send a signal to any more. -/
  | seized
  /-- It has told the updater to end, which had begun so many snapshots then. -/
  | told (begun : Nat)
  deriving DecidableEq, Repr

/-- What stands behind the signals for snapshots. -/
def Closing.behind : Closing → List UpdaterSignal
  | .told _ => [.stop]
  | .uncalled | .seized => []

/-- A snapshot that the updater has begun. -/
structure Round where
  /-- The numbers of the signals that were read for it. -/
  batch : List Nat
  /-- How many signals had been sent when the updater last began to read. -/
  found : Nat
  /-- How many signals had been sent when it was begun. -/
  sent : Nat
  deriving DecidableEq, Repr

/-- A cache whose updater has begun, with what the updater was asked for. The signals for
snapshots are numbered from zero, in the order in which they were sent. -/
structure Vigil where
  /-- The cache, and those who take snapshots. -/
  traffic : Traffic
  /-- How far the call is that stops the cache. -/
  closing : Closing
  /-- How many signals were sent. -/
  sent : Nat
  /-- Those that the updater has not read. -/
  unread : List Nat
  /-- Those that it has read since it began its latest snapshot. -/
  batch : List Nat
  /-- How many had been sent when it last began to read. -/
  found : Nat
  /-- The snapshots that it has begun, the latest last. -/
  rounds : List Round
  /-- How often it has waited long enough. -/
  expired : Nat

/-- What can happen to a cache whose updater has begun. -/
inductive VigilStep where
  /-- The cache is asked for a new snapshot, and sends a signal if it has an updater. -/
  | request
  /-- The call that stops the cache takes the updater from it. -/
  | seize
  /-- That call tells the updater to end. -/
  | tell
  /-- The updater has waited long enough. -/
  | expire
  /-- The updater reads a signal, or sees that there are no more. -/
  | read
  /-- Somebody takes a part of a snapshot, or the place where the causes are kept becomes
  another one. -/
  | other (e : TrafficStep)

/-- The updater takes that step by itself. -/
def VigilStep.isOwn : VigilStep → Bool
  | .read | .other (.listCauses .updater) | .other (.listCategories .updater)
  | .other (.install .updater) => true
  | _ => false

namespace Vigil

/-- The updater of a cache begins. -/
def begun (k : KnowledgeBase) (c : CauseCache) : Vigil where
  traffic := { Traffic.begun k with
    base := ⟨k.backing, some { c with updater := some .begun }⟩ }
  closing := .uncalled
  sent := 0
  unread := []
  batch := []
  found := 0
  rounds := []
  expired := 0

/-- The updater reads the oldest signal in its inbox. -/
def hear (v : Vigil) : Vigil :=
  match v.traffic.base.updater with
  | some ⟨stage, .refresh :: _⟩ => { v with
      batch := v.batch ++ v.unread.take 1
      unread := v.unread.drop 1
      found := if stage = .waiting then v.sent else v.found }
  | _ => v

/-- The snapshot that the updater begins now, for what it has read. -/
def round (v : Vigil) : Round := ⟨v.batch, v.found, v.sent⟩

/-- The updater begins a snapshot, when it lists the causes. -/
def note (v : Vigil) : TrafficStep → Vigil
  | .listCauses .updater => { v with rounds := v.rounds ++ [v.round], batch := [] }
  | _ => v

/-- A step, if it can be taken. -/
def step? (v : Vigil) : VigilStep → Option Vigil
  | .request =>
    if v.closing = .uncalled then
      (v.traffic.step? (.steer (.signal .refresh))).map fun t =>
        { v with traffic := t, sent := v.sent + 1, unread := v.unread ++ [v.sent] }
    else some v
  | .seize => if v.closing = .uncalled then some { v with closing := .seized } else none
  | .tell =>
    if v.closing = .seized then
      (v.traffic.step? (.steer (.signal .stop))).map fun t =>
        { v with traffic := t, closing := .told v.rounds.length }
    else none
  | .expire => (v.traffic.step? (.steer .expire)).map fun t =>
    { v with traffic := t, expired := v.expired + 1 }
  | .read => (v.traffic.step? (.steer .read)).map fun t => { v.hear with traffic := t }
  | .other (.steer _) => none
  | .other e => (v.traffic.step? e).map fun t => { v.note e with traffic := t }

/-- Some steps, one after the other; one that cannot be taken is left out. -/
def run (v : Vigil) (steps : List VigilStep) : Vigil :=
  steps.foldl (fun v e => (v.step? e).getD v) v

/-- The signals that the updater has read. -/
def heard (v : Vigil) : List Nat := v.rounds.flatMap (·.batch) ++ v.batch

/-- All signals that had been sent when the updater began to read for a snapshot were read for
that one or an earlier one, and none that was sent after it was begun. -/
def Together (rounds : List Round) : Prop :=
  ∀ front r back, rounds = front ++ r :: back →
    ∃ n, front.flatMap (·.batch) ++ r.batch = List.range n ∧ r.found ≤ n ∧ n ≤ r.sent

/-- What every step keeps, of an updater in a phase that has not read some signals. -/
structure Kept (v : Vigil) (p : Phase) (inbox : List UpdaterSignal) : Prop where
  /-- The updater is in that phase, with those signals. -/
  stands : v.traffic.Stands p inbox
  /-- These are the signals for snapshots that it has not read, and then the one to end. -/
  inbox_eq : p ≠ .ended →
    inbox = List.replicate v.unread.length .refresh ++ v.closing.behind
  /-- An updater that has ended was told to, and has read all signals before that. -/
  ended : p = .ended → v.closing.behind ≠ [] ∧ v.unread = []
  /-- Every signal was read or not read yet, in the order in which they were sent. -/
  numbered : v.heard ++ v.unread = List.range v.sent
  /-- What has piled up is read together. -/
  together : Together v.rounds
  /-- No snapshot was begun after what has been sent. -/
  sent_le : ∀ r ∈ v.rounds, r.sent ≤ v.sent
  /-- Once a snapshot is begun, all signals that were read were read for one. -/
  answered : p = .listed ∨ p = .taken ∨ p = .waiting → v.batch = [] ∧ v.rounds ≠ []
  /-- The updater reads on only behind a signal. -/
  reading : p = .collecting → v.batch ≠ []
  /-- It begins a snapshot without a signal at first, and whenever it has waited long enough. -/
  unasked : v.rounds.countP (·.batch.isEmpty) + (if p = .due ∧ v.batch = [] then 1 else 0) =
    v.expired + 1
  /-- What had been sent when the updater began to read has been sent. -/
  found_le : v.found ≤ v.sent
  /-- It has been read, too, unless the updater still reads. -/
  found_le_heard : p ≠ .collecting → v.found ≤ v.heard.length
  /-- Since the updater was told to end it has begun one snapshot at most, and none if it has
  still to begin one. -/
  told_le : ∀ n, v.closing = .told n → v.rounds.length ≤ n + if p = .due then 0 else 1

variable {v next : Vigil} {p : Phase} {inbox : List UpdaterSignal}

/-- What comes first of the numbers up to some number are the numbers up to a smaller one. -/
theorem eq_range_of_append {xs ys : List Nat} {n : Nat} (h : xs ++ ys = List.range n) :
    xs = List.range xs.length ∧ xs.length ≤ n := by
  have hlength : xs.length ≤ n := by
    have hsum := congrArg List.length h
    rw [List.length_append, List.length_range] at hsum
    omega
  constructor
  · have htake : xs = (List.range n).take xs.length := by rw [← h, List.take_left]
    rw [List.take_range, Nat.min_eq_left hlength] at htake
    exact htake
  · exact hlength

/-- An updater that has just begun. -/
theorem kept_begun (k : KnowledgeBase) (c : CauseCache) : (begun k c).Kept .due [] where
  stands := ⟨rfl, rfl⟩
  inbox_eq _ := rfl
  ended h := by cases h
  numbered := rfl
  together front r back h := by simp [begun] at h
  sent_le r h := by simp [begun] at h
  answered h := by simp at h
  reading h := by cases h
  unasked := rfl
  found_le := le_rfl
  found_le_heard _ := le_rfl
  told_le n h := by cases h

/-- A signal for a snapshot is one more that the updater has not read. -/
theorem Kept.request (h : v.Kept p inbox) (hs : v.step? .request = some next) :
    ∃ inbox', next.Kept p inbox' := by
  simp only [step?] at hs
  split at hs
  · next huncalled =>
    obtain ⟨t, ht, rfl⟩ := Option.map_eq_some_iff.mp hs
    have hbehind : v.closing.behind = [] := by rw [huncalled]; rfl
    have hopen : p ≠ .ended := fun hp => (h.ended hp).1 hbehind
    have hinbox := h.inbox_eq hopen
    have hunread : inbox ++ [.refresh] =
        List.replicate (v.unread ++ [v.sent]).length .refresh ++ v.closing.behind := by
      rw [hbehind, List.append_nil] at hinbox
      simp only [hinbox, hbehind, List.append_nil, List.length_append, List.length_singleton,
        List.replicate_succ']
    have hnumbered : v.heard ++ (v.unread ++ [v.sent]) = List.range (v.sent + 1) := by
      rw [← List.append_assoc, h.numbered, List.range_succ]
    have hsent : ∀ r ∈ v.rounds, r.sent ≤ v.sent + 1 :=
      fun r hr => Nat.le_succ_of_le (h.sent_le r hr)
    exact ⟨inbox ++ [.refresh], { h with
      stands := h.stands.signal ht
      inbox_eq := fun _ => hunread
      ended := fun hp => absurd hp hopen
      numbered := hnumbered
      sent_le := hsent
      found_le := Nat.le_succ_of_le h.found_le }⟩
  · obtain rfl := Option.some.inj hs
    exact ⟨inbox, h⟩

/-- The call that stops the cache takes the updater from it. -/
theorem Kept.seize (h : v.Kept p inbox) (hs : v.step? .seize = some next) :
    next.Kept p inbox := by
  simp only [step?] at hs
  split at hs
  · next huncalled =>
    obtain rfl := Option.some.inj hs
    have hbehind : v.closing.behind = [] := by rw [huncalled]; rfl
    have hopen : p ≠ .ended := fun hp => (h.ended hp).1 hbehind
    have hinbox := h.inbox_eq hopen
    rw [hbehind] at hinbox
    exact { h with
      inbox_eq := fun _ => hinbox
      ended := fun hp => absurd hp hopen
      told_le := nofun }
  · exact absurd hs nofun

/-- The signal to end stands behind all others. -/
theorem Kept.tell (h : v.Kept p inbox) (hs : v.step? .tell = some next) :
    next.Kept p (inbox ++ [.stop]) := by
  simp only [step?] at hs
  split at hs
  · next hseized =>
    obtain ⟨t, ht, rfl⟩ := Option.map_eq_some_iff.mp hs
    have hbehind : v.closing.behind = [] := by rw [hseized]; rfl
    have hopen : p ≠ .ended := fun hp => (h.ended hp).1 hbehind
    have hinbox := h.inbox_eq hopen
    rw [hbehind, List.append_nil] at hinbox
    exact { h with
      stands := h.stands.signal ht
      inbox_eq := fun _ => congrArg (· ++ [.stop]) hinbox
      ended := fun hp => absurd hp hopen
      told_le := fun n hn => by
        have hcount : v.rounds.length = n := Closing.told.inj hn
        dsimp only
        omega }
  · exact absurd hs nofun

/-- An updater whose inbox is empty has read all signals, and was not told to end. -/
theorem Kept.all_heard (h : v.Kept p []) (hopen : p ≠ .ended) :
    v.unread = [] ∧ v.closing.behind = [] ∧ v.heard.length = v.sent := by
  have hinbox := h.inbox_eq hopen
  have hempty := List.append_eq_nil_iff.mp hinbox.symm
  have hunread : v.unread = [] := by
    have hlength := congrArg List.length hempty.1
    rw [List.length_replicate] at hlength
    exact List.length_eq_zero_iff.mp hlength
  have hheard : v.heard.length = v.sent := by
    have hlength := congrArg List.length h.numbered
    rw [hunread, List.append_nil, List.length_range] at hlength
    exact hlength
  exact ⟨hunread, hempty.2, hheard⟩

/-- An updater that has nothing to read has to take a snapshot. -/
theorem Kept.turn (h : v.Kept p []) (hopen : p ≠ .ended) {t : Traffic} (ht : t.Stands .due [])
    {expired : Nat} (hunasked : v.rounds.countP (·.batch.isEmpty) +
      (if v.batch = [] then 1 else 0) = expired + 1) :
    Kept { v with traffic := t, expired := expired } .due [] := by
  obtain ⟨hunread, hbehind, hheard⟩ := h.all_heard hopen
  have hfound : v.found ≤ v.heard.length := by
    have hle := h.found_le
    omega
  have huntold : ∀ n, v.closing ≠ .told n := by
    intro n hn
    rw [hn] at hbehind
    exact absurd hbehind nofun
  exact { h with
    stands := ht
    inbox_eq := fun _ => h.inbox_eq hopen
    ended := nofun
    answered := nofun
    reading := nofun
    unasked := by simpa only [true_and] using hunasked
    found_le_heard := fun _ => hfound
    told_le := fun n hn => absurd hn (huntold n) }

/-- An updater that waits without a signal takes a snapshot after a while. -/
theorem Kept.expire (h : v.Kept p inbox) (hs : v.step? .expire = some next) :
    next.Kept .due [] := by
  obtain ⟨t, ht, rfl⟩ := Option.map_eq_some_iff.mp hs
  obtain ⟨rfl, rfl, hstands⟩ := h.stands.expire ht
  have hbatch : v.batch = [] := (h.answered (.inr (.inr rfl))).1
  have hunasked := h.unasked
  rw [if_neg (fun hdue => nomatch hdue.1)] at hunasked
  refine h.turn nofun hstands ?_
  rw [if_pos hbatch]
  omega

/-- Reading a signal for a snapshot. -/
theorem hear_refresh {stage : UpdaterStage} {rest : List UpdaterSignal}
    (h : v.traffic.base.updater = some ⟨stage, .refresh :: rest⟩) :
    v.hear = { v with
      batch := v.batch ++ v.unread.take 1
      unread := v.unread.drop 1
      found := if stage = .waiting then v.sent else v.found } := by
  simp only [hear, h]

/-- Reading anything else. -/
theorem hear_other {stage : UpdaterStage} {inbox : List UpdaterSignal}
    (h : v.traffic.base.updater = some ⟨stage, inbox⟩)
    (hother : ∀ rest, inbox ≠ .refresh :: rest) : v.hear = v := by
  unfold hear
  split
  · next stage' rest hupdater =>
    rw [h] at hupdater
    exact absurd (congrArg Updater.inbox (Option.some.inj hupdater)) (hother rest)
  · rfl

/-- A signal for a snapshot is read. -/
theorem Kept.refresh {rest : List UpdaterSignal} (h : v.Kept p (.refresh :: rest))
    (hp : p = .waiting ∨ p = .collecting) {t : Traffic} (ht : t.Stands .collecting rest) :
    Kept { v.hear with traffic := t } .collecting rest := by
  have hopen : p ≠ .ended := by rcases hp with rfl | rfl <;> exact nofun
  have hdue : p ≠ .due := by rcases hp with rfl | rfl <;> exact nofun
  have hinbox := h.inbox_eq hopen
  cases hunread : v.unread with
  | nil =>
    -- Without a signal for a snapshot the first one would be that to end.
    rw [hunread] at hinbox
    cases hclosing : v.closing with
    | uncalled | seized | told => rw [hclosing] at hinbox; exact absurd hinbox nofun
  | cons i later =>
    rw [hear_refresh h.stands.updater, hunread]
    rw [hunread, List.length_cons, List.replicate_succ, List.cons_append] at hinbox
    have hnumbered := h.numbered
    rw [hunread] at hnumbered
    have happend : v.rounds.flatMap (·.batch) ++ (v.batch ++ [i]) ++ later =
        v.heard ++ i :: later := by
      simp only [heard, List.append_assoc, List.singleton_append]
    have hunasked := h.unasked
    rw [if_neg (fun hp => hdue hp.1)] at hunasked
    exact { h with
      stands := ht
      inbox_eq := fun _ => List.tail_eq_of_cons_eq hinbox
      ended := nofun
      numbered := happend.trans hnumbered
      answered := nofun
      reading := fun _ => List.append_ne_nil_of_right_ne_nil v.batch (List.cons_ne_nil i [])
      unasked := hunasked
      found_le := by
        have hle := h.found_le
        dsimp only
        split <;> omega
      found_le_heard := fun hp => absurd rfl hp
      told_le := fun n hn => by
        have hle := h.told_le n hn
        rw [if_neg hdue] at hle
        exact hle }

/-- The signal to end is read, behind all signals for snapshots. -/
theorem Kept.stop {rest : List UpdaterSignal} (h : v.Kept p (.stop :: rest))
    (hp : p = .waiting ∨ p = .collecting) {t : Traffic} (ht : t.Stands .ended rest) :
    Kept { v.hear with traffic := t } .ended rest := by
  have hopen : p ≠ .ended := by rcases hp with rfl | rfl <;> exact nofun
  have hdue : p ≠ .due := by rcases hp with rfl | rfl <;> exact nofun
  have hinbox := h.inbox_eq hopen
  have hunread : v.unread = [] := by
    cases hunread : v.unread with
    | nil => rfl
    | cons i later =>
      rw [hunread, List.length_cons, List.replicate_succ, List.cons_append] at hinbox
      exact absurd hinbox nofun
  have hbehind : v.closing.behind ≠ [] := by
    intro hbehind
    rw [hunread, hbehind] at hinbox
    exact absurd hinbox nofun
  have hheard : v.heard.length = v.sent := by
    have hlength := congrArg List.length h.numbered
    rw [hunread, List.append_nil, List.length_range] at hlength
    exact hlength
  rw [hear_other h.stands.updater nofun]
  have hfound : v.found ≤ v.heard.length := by
    have hle := h.found_le
    omega
  have hunasked := h.unasked
  rw [if_neg (fun hp => hdue hp.1)] at hunasked
  exact { h with
    stands := ht
    inbox_eq := fun hp => absurd rfl hp
    ended := fun _ => ⟨hbehind, hunread⟩
    answered := nofun
    reading := nofun
    unasked := hunasked
    found_le_heard := fun _ => hfound
    told_le := fun n hn => by
      have hle := h.told_le n hn
      rw [if_neg hdue] at hle
      exact hle }

/-- The updater reads a signal, or sees that there are no more. -/
theorem Kept.read (h : v.Kept p inbox) (hs : v.step? .read = some next) :
    ∃ p' inbox', Traffic.Reads p inbox p' inbox' ∧ next.Kept p' inbox' := by
  obtain ⟨t, ht, rfl⟩ := Option.map_eq_some_iff.mp hs
  obtain ⟨p', inbox', hreads, hstands⟩ := h.stands.read ht
  refine ⟨p', inbox', hreads, ?_⟩
  cases hreads with
  | refresh _ rest hp => exact h.refresh hp hstands
  | stop _ rest hp => exact h.stop hp hstands
  | nothing =>
    rw [hear_other h.stands.updater nofun]
    have hbatch : v.batch ≠ [] := h.reading rfl
    have hunasked := h.unasked
    rw [if_neg (fun hdue => nomatch hdue.1)] at hunasked
    refine h.turn nofun hstands ?_
    rw [if_neg hbatch]
    exact hunasked

/-- What a step of somebody who takes snapshots leaves. -/
theorem exists_of_other {e : TrafficStep} (hs : v.step? (.other e) = some next) :
    ∃ t, v.traffic.step? e = some t ∧ next = { v.note e with traffic := t } := by
  cases e with
  | steer m => exact absurd hs nofun
  | write | miss | listCauses | listCategories | install =>
    simp only [step?] at hs
    obtain ⟨t, ht, rfl⟩ := Option.map_eq_some_iff.mp hs
    exact ⟨t, ht, rfl⟩

/-- What was read together up to a snapshot is not changed by the next one. -/
theorem together_append {rounds : List Round} {r : Round} (h : Together rounds) {n : Nat}
    (hbatch : rounds.flatMap (·.batch) ++ r.batch = List.range n) (hfound : r.found ≤ n)
    (hsent : n ≤ r.sent) : Together (rounds ++ [r]) := by
  intro front r' back hsplit
  rcases List.eq_nil_or_concat back with rfl | ⟨middle, last, rfl⟩
  · obtain ⟨rfl, hlast⟩ := List.append_inj' hsplit rfl
    obtain rfl := List.head_eq_of_cons_eq hlast
    exact ⟨n, hbatch, hfound, hsent⟩
  · have hsplit' : rounds ++ [r] = (front ++ r' :: middle) ++ [last] := by
      rw [hsplit, List.concat_eq_append, List.append_assoc, List.cons_append]
    exact h front r' middle (List.append_inj' hsplit' rfl).1

/-- A snapshot is begun for all signals that were read. -/
theorem Kept.begin (h : v.Kept p inbox) (hs : v.step? (.other (.listCauses .updater)) = some next) :
    p = .due ∧ ∃ p', (p' = .listed ∨ p' = .waiting) ∧ next.Kept p' inbox := by
  obtain ⟨t, ht, rfl⟩ := exists_of_other hs
  obtain ⟨rfl, p', hp', hstands⟩ := h.stands.begin ht
  refine ⟨rfl, p', hp', ?_⟩
  have hopen : p' ≠ .ended := by rcases hp' with rfl | rfl <;> exact nofun
  have hdue : p' ≠ .due := by rcases hp' with rfl | rfl <;> exact nofun
  have hcollecting : p' ≠ .collecting := by rcases hp' with rfl | rfl <;> exact nofun
  obtain ⟨hheard, hle⟩ := eq_range_of_append h.numbered
  have hnumbered : (v.rounds ++ [v.round]).flatMap (·.batch) ++ [] = v.heard := by
    rw [List.append_nil, List.flatMap_append, List.flatMap_singleton]
    rfl
  have hcount : (v.rounds ++ [v.round]).countP (·.batch.isEmpty) =
      v.expired + 1 := by
    have hunasked := h.unasked
    rw [List.countP_append, List.countP_singleton]
    simpa only [true_and, List.isEmpty_iff, round] using hunasked
  constructor
  case stands => exact hstands
  case inbox_eq => exact fun _ => h.inbox_eq nofun
  case ended => exact fun hp => absurd hp hopen
  case numbered =>
    dsimp only [heard, note]
    rw [hnumbered]
    exact h.numbered
  case together => exact together_append h.together hheard (h.found_le_heard nofun) hle
  case sent_le =>
    intro r hr
    rcases List.mem_append.mp hr with hr | hr
    · exact h.sent_le r hr
    · obtain rfl := List.mem_singleton.mp hr
      exact le_rfl
  case answered => exact fun _ => ⟨rfl, List.append_ne_nil_of_right_ne_nil _ (List.cons_ne_nil _ _)⟩
  case reading => exact fun hp => absurd hp hcollecting
  case unasked =>
    rw [if_neg (fun hp => hdue hp.1)]
    exact hcount
  case found_le => exact h.found_le
  case found_le_heard =>
    intro _
    dsimp only [heard, note]
    rw [hnumbered]
    exact h.found_le_heard nofun
  case told_le =>
    intro n hn
    have htold := h.told_le n hn
    rw [if_pos rfl] at htold
    dsimp only [note]
    rw [if_neg hdue, List.length_append, List.length_singleton]
    omega

/-- Going on with a snapshot, or having done with it, leaves everything else. -/
theorem Kept.proceed (h : v.Kept p inbox) (hp : p = .listed ∨ p = .taken) {p' : Phase}
    (hp' : p' = .taken ∨ p' = .waiting) {t : Traffic} (ht : t.Stands p' inbox) :
    Kept { v with traffic := t } p' inbox := by
  have hopen : p ≠ .ended := by rcases hp with rfl | rfl <;> exact nofun
  have hdue : p ≠ .due := by rcases hp with rfl | rfl <;> exact nofun
  have hcollecting : p ≠ .collecting := by rcases hp with rfl | rfl <;> exact nofun
  have hopen' : p' ≠ .ended := by rcases hp' with rfl | rfl <;> exact nofun
  have hdue' : p' ≠ .due := by rcases hp' with rfl | rfl <;> exact nofun
  have hcollecting' : p' ≠ .collecting := by rcases hp' with rfl | rfl <;> exact nofun
  have hanswered : v.batch = [] ∧ v.rounds ≠ [] := h.answered (by
    rcases hp with rfl | rfl
    · exact .inl rfl
    · exact .inr (.inl rfl))
  have hunasked := h.unasked
  have htold := h.told_le
  rw [if_neg (fun hp => hdue hp.1)] at hunasked
  rw [if_neg hdue] at htold
  exact { h with
    stands := ht
    inbox_eq := fun _ => h.inbox_eq hopen
    ended := fun hp => absurd hp hopen'
    answered := fun _ => hanswered
    reading := fun hp => absurd hp hcollecting'
    unasked := by rwa [if_neg (fun hp => hdue' hp.1)]
    found_le_heard := fun _ => h.found_le_heard hcollecting
    told_le := by rwa [if_neg hdue'] }

/-- The categories are listed behind the causes. -/
theorem Kept.complete (h : v.Kept p inbox)
    (hs : v.step? (.other (.listCategories .updater)) = some next) :
    p = .listed ∧ ∃ p', (p' = .taken ∨ p' = .waiting) ∧ next.Kept p' inbox := by
  obtain ⟨t, ht, rfl⟩ := exists_of_other hs
  obtain ⟨rfl, p', hp', hstands⟩ := h.stands.complete ht
  exact ⟨rfl, p', hp', h.proceed (.inl rfl) hp' hstands⟩

/-- The updater waits when a snapshot of it is in the cache. -/
theorem Kept.install (h : v.Kept p inbox)
    (hs : v.step? (.other (.install .updater)) = some next) :
    p = .taken ∧ next.Kept .waiting inbox := by
  obtain ⟨t, ht, rfl⟩ := exists_of_other hs
  obtain ⟨rfl, hstands⟩ := h.stands.install ht
  exact ⟨rfl, h.proceed (.inr rfl) (.inr rfl) hstands⟩

/-- Snapshots of readers, and other causes, have nothing to do with the updater. -/
theorem Kept.beside (h : v.Kept p inbox) {e : TrafficStep} (he : Traffic.Beside e)
    (hs : v.step? (.other e) = some next) : next.Kept p inbox := by
  obtain ⟨t, ht, rfl⟩ := exists_of_other hs
  have hnote : v.note e = v := by
    cases e with
    | listCauses f =>
      cases f with
      | updater => exact absurd he id
      | reader n => rfl
    | steer | write | miss | listCategories | install => rfl
  rw [hnote]
  exact { h with stands := h.stands.beside he ht }

end Vigil

end BuildTriage
