import BuildTriage.Proofs.KnowledgeBase.Cache.Contents

/-!
# When a cache visits the place where causes are kept

A chronicle says which listings a cache serves with nothing of how its updater is asked. It
has the visits, each with the place where causes are kept as it was found, and what the visit
brought. Listings are those that the latest visit with success brought. A visit is made when
the cache is started, when it is asked for while the cache is running, after a change with
success while the cache is running, and by a listing as long as no visit had success.
-/

namespace BuildTriage

/-- What is done with a knowledge base that has a cache before it. -/
inductive Turn where
  /-- The cache is started. -/
  | start
  /-- The cache is stopped. -/
  | stop
  /-- The cache is asked for a new snapshot. -/
  | updateCache
  /-- Something is asked of the knowledge base. -/
  | request (r : Request)
  /-- The place where causes are kept becomes another one, or fails from now on. -/
  | outside (b : Backing)

namespace KnowledgeBase

/-- How a turn is answered, and the knowledge base once its updater waits. -/
def turn (k : KnowledgeBase) : Turn → Reply × KnowledgeBase
  | .start => outcome ((fun _ => .done) <$> start) k
  | .stop => (.ok .done, k.stop)
  | .updateCache => outcome ((fun _ => .done) <$> updateCache) k
  | .request r => outcome (perform r) k
  | .outside b => (.ok .done, { k with backing := b })

/-- The answers to some turns, one after the other. -/
def answers : KnowledgeBase → List Turn → List Reply
  | _, [] => []
  | k, t :: rest => (k.turn t).1 :: (k.turn t).2.answers rest

/-- The knowledge base after some turns. -/
def afterTurns (k : KnowledgeBase) (turns : List Turn) : KnowledgeBase :=
  turns.foldl (fun k t => (k.turn t).2) k

end KnowledgeBase

/-- Who visits the place where causes are kept. -/
inductive Visitor where
  | updater
  | listing
  deriving DecidableEq

/-- A visit to the place where causes are kept. -/
structure Visit where
  /-- Who visits it. -/
  visitor : Visitor
  /-- The place as it is found. -/
  found : Backing
  /-- The snapshot that is brought, if the visit has success. -/
  brought : Except KnowledgeBaseError Snapshot

/-- What has happened between a cache and the place where causes are kept. -/
structure Chronicle where
  /-- The place where causes are kept. -/
  backing : Backing
  /-- The cache is running. -/
  running : Bool
  /-- The visits, the latest first. -/
  visits : List Visit

namespace Chronicle

/-- Nothing has happened yet. -/
def begun (b : Backing) : Chronicle := ⟨b, false, []⟩

/-- What the latest visit with success brought. -/
def served (c : Chronicle) : Option Snapshot := c.visits.findSome? (·.brought.toOption)

/-- How many visits had success. -/
def taken (c : Chronicle) : Nat := c.visits.countP (·.brought.isOk)

/-- How many visits of the updater failed. -/
def failed (c : Chronicle) : Nat :=
  c.visits.countP fun v => decide (v.visitor = .updater) && !v.brought.isOk

/-- A visit. -/
def visit (visitor : Visitor) (c : Chronicle) : Except KnowledgeBaseError Snapshot × Chronicle :=
  let (brought, b) := outcome Backing.visit c.backing
  (brought, ⟨b, c.running, ⟨visitor, c.backing, brought⟩ :: c.visits⟩)

/-- The updater visits while the cache is running. -/
def refresh (c : Chronicle) : Chronicle := if c.running then (c.visit .updater).2 else c

/-- Something is asked of the place where causes are kept. -/
def ask (op : Op Backing Answer) (c : Chronicle) : Reply × Chronicle :=
  let (reply, b) := outcome op c.backing
  (reply, { c with backing := b })

/-- The causes are changed where they are kept; success is followed by a visit. -/
def change (op : Op Backing Answer) (c : Chronicle) : Reply × Chronicle :=
  let (reply, after) := c.ask op
  (reply, if reply.isOk then after.refresh else after)

/-- A listing is what the latest visit with success brought, or a visit is made for it. -/
def list (f : Snapshot → Answer) (c : Chronicle) : Reply × Chronicle :=
  match c.served with
  | some s => (.ok (f s), c)
  | none =>
    let (brought, after) := c.visit .listing
    (brought.map f, after)

/-- How a turn is answered, and what has happened then. -/
def turn (c : Chronicle) : Turn → Reply × Chronicle
  | .start => (.ok .done, if c.running then c else ({ c with running := true }.visit .updater).2)
  | .stop => (.ok .done, { c with running := false })
  | .updateCache => (.ok .done, c.refresh)
  | .outside b => (.ok .done, { c with backing := b })
  | .request (.add fresh cause) =>
    c.change (.cause <$> Backing.run fun _ => CauseStore.add fresh cause)
  | .request (.save fresh cause) =>
    c.change (.cause <$> Backing.run fun _ => CauseStore.save fresh cause)
  | .request (.remove id stone) =>
    c.change (.found <$> Backing.run fun _ => CauseStore.remove id stone)
  | .request (.lastSeen ids time) =>
    c.change ((fun _ => .done) <$> Backing.run fun _ => CauseStore.lastSeen ids time)
  | .request (.get id) => c.ask (.found <$> Backing.get id)
  | .request .causes => c.list fun s => .causes s.causes
  | .request .names => c.list fun s => .names (namesOf s.causes)
  | .request .shallow => c.list fun s => .shallow (shallowOf s.causes)
  | .request .categories => c.list fun s => .categories s.categories

/-- The answers to some turns, one after the other. -/
def answers : Chronicle → List Turn → List Reply
  | _, [] => []
  | c, t :: rest => (c.turn t).1 :: (c.turn t).2.answers rest

/-- What has happened after some turns. -/
def after (c : Chronicle) (turns : List Turn) : Chronicle :=
  turns.foldl (fun c t => (c.turn t).2) c

/-- Nothing but a change with success makes the listings others: a change that fails and
whatever happens from outside leave them as they are. -/
def Calm (c : Chronicle) : Turn → Prop
  | .outside b => b.contents = c.backing.contents
  | .request r => (c.turn (.request r)).1.isOk = false →
      (c.turn (.request r)).2.backing.contents = c.backing.contents
  | .start | .stop | .updateCache => True

instance (c : Chronicle) : (t : Turn) → Decidable (c.Calm t)
  | .outside b => inferInstanceAs (Decidable (b.contents = c.backing.contents))
  | .request r => inferInstanceAs (Decidable ((c.turn (.request r)).1.isOk = false →
      (c.turn (.request r)).2.backing.contents = c.backing.contents))
  | .start | .stop | .updateCache => inferInstanceAs (Decidable True)

/-- The turns since the latest visit are calm; before the first turn it is given whether they
have been. -/
def CalmSinceVisit : Chronicle → Prop → List Turn → Prop
  | _, calm, [] => calm
  | c, calm, t :: rest => (c.turn t).2.CalmSinceVisit
      (c.visits.length < (c.turn t).2.visits.length ∨ calm ∧ c.Calm t) rest

instance decidableCalmSinceVisit : (c : Chronicle) → (calm : Prop) → [Decidable calm] →
    (turns : List Turn) → Decidable (c.CalmSinceVisit calm turns)
  | _, calm, _, [] => inferInstanceAs (Decidable calm)
  | c, calm, _, t :: rest => decidableCalmSinceVisit (c.turn t).2
      (c.visits.length < (c.turn t).2.visits.length ∨ calm ∧ c.Calm t) rest

/-- The latest visit had success. -/
def fresh (c : Chronicle) : Bool := c.visits.head?.any (·.brought.isOk)

/-- A visit that had success brought what the listings had then. -/
def Truthful (c : Chronicle) : Prop :=
  ∀ v ∈ c.visits, ∀ s, v.brought = .ok s → v.found.contents = some s

/-- While the cache is running, what the latest visit brought is what the listings have. -/
def Current (c : Chronicle) : Prop :=
  c.running = true → ∀ v ∈ c.visits.head?, ∀ s, v.brought = .ok s → c.backing.contents = some s

variable {c : Chronicle}

/-- A visit with success brings what the listings have. -/
theorem visit_brought {b : Backing} {s : Snapshot} (h : (outcome Backing.visit b).1 = .ok s) :
    b.contents = some s := by
  obtain ⟨t, hrun⟩ := outcome_ok h
  exact Backing.visit_ok hrun

/-- A visit leaves a truthful chronicle truthful. -/
theorem Truthful.visit (h : c.Truthful) (visitor : Visitor) : (c.visit visitor).2.Truthful :=
  List.forall_mem_cons.mpr ⟨fun _ => visit_brought, h⟩

/-- After a visit a chronicle is current. -/
theorem current_visit (visitor : Visitor) (c : Chronicle) : (c.visit visitor).2.Current := by
  rintro - _ ⟨⟩ s hs
  exact (Backing.contents_outcome Backing.reads_visit).trans (visit_brought hs)

/-- What a turn does: a visit, or nothing that a cache that is running then has to know of. -/
inductive Moves (c : Chronicle) (t : Turn) (after : Chronicle) : Prop where
  /-- There is a visit. -/
  | visits (visitor : Visitor) (b : Backing) (running : Bool)
    (h : after = (Chronicle.visit visitor ⟨b, running, c.visits⟩).2)
  /-- There is none; a cache that is running then was running before, and the listings are
  the same if the turn is calm. -/
  | rests (b : Backing) (running : Bool) (h : after = ⟨b, running, c.visits⟩)
    (hrunning : running = true → c.running = true)
    (hsame : running = true → c.Calm t → b.contents = c.backing.contents)

/-- A refresh is a visit, or the cache is not running. -/
theorem moves_refresh (t : Turn) (b : Backing) :
    Moves c t (refresh ⟨b, c.running, c.visits⟩) := by
  unfold refresh
  split
  · exact .visits _ _ _ rfl
  · next h => exact .rests _ _ rfl id fun hrunning => absurd hrunning h

theorem moves_change {r : Request} {op : Op Backing Answer}
    (h : c.turn (.request r) = c.change op) :
    Moves c (.request r) (c.change op).2 := by
  have hcalm : c.Calm (.request r) → (c.change op).1.isOk = false →
      (c.change op).2.backing.contents = c.backing.contents := by
    rw [← h]
    exact id
  unfold change ask outcome at hcalm ⊢
  cases hop : op c.backing with
  | ok a b => exact moves_refresh _ b
  | error e b =>
    rw [hop] at hcalm
    exact .rests _ _ rfl id fun _ hc => hcalm hc rfl

theorem moves_ask (t : Turn) {op : Op Backing Answer}
    (h : Reads Backing.mended op c.backing) : Moves c t (c.ask op).2 :=
  .rests _ _ rfl id fun _ _ => Backing.contents_outcome h

theorem moves_list (t : Turn) (f : Snapshot → Answer) : Moves c t (c.list f).2 := by
  unfold list
  split
  · exact .rests _ _ rfl id fun _ _ => rfl
  · exact .visits _ _ _ rfl

/-- Whatever is done is a visit, or keeps the listings as they are for a cache that is
running. -/
theorem moves_turn (c : Chronicle) (t : Turn) : Moves c t (c.turn t).2 := by
  cases t with
  | start =>
    simp only [turn]
    split
    · exact .rests _ _ rfl id fun _ _ => rfl
    · exact .visits _ _ _ rfl
  | stop => exact .rests _ _ rfl nofun nofun
  | updateCache => exact moves_refresh _ c.backing
  | outside b => exact .rests _ _ rfl id fun _ => id
  | request r =>
    cases r with
    | add fresh cause => exact moves_change rfl
    | save fresh cause => exact moves_change rfl
    | remove id stone => exact moves_change rfl
    | lastSeen ids time => exact moves_change rfl
    | get id => exact moves_ask _ ((Backing.reads_get id).map _)
    | causes => exact moves_list _ _
    | names => exact moves_list _ _
    | shallow => exact moves_list _ _
    | categories => exact moves_list _ _

/-- One turn leaves a chronicle truthful. -/
theorem Truthful.turn (h : c.Truthful) (t : Turn) : (c.turn t).2.Truthful := by
  cases moves_turn c t with
  | visits visitor b running hafter =>
    rw [hafter]
    exact Truthful.visit (c := ⟨b, running, c.visits⟩) h visitor
  | rests b running hafter =>
    rw [hafter]
    exact h

/-- A turn with a visit leaves a chronicle current, and so does a calm one. -/
theorem current_turn {t : Turn} (h : c.visits.length < (c.turn t).2.visits.length ∨
    c.Current ∧ c.Calm t) : (c.turn t).2.Current := by
  cases moves_turn c t with
  | visits visitor b running hafter =>
    rw [hafter]
    exact current_visit visitor _
  | rests b running hafter hrunning hsame =>
    rw [hafter] at h ⊢
    obtain hmore | ⟨hcurrent, hcalm⟩ := h
    · exact absurd hmore (lt_irrefl _)
    · intro hnow v hv s hs
      exact (hsame hnow hcalm).trans (hcurrent (hrunning hnow) v hv s hs)

/-- Any turns leave a chronicle truthful. -/
theorem Truthful.after (h : c.Truthful) (turns : List Turn) : (c.after turns).Truthful := by
  induction turns generalizing c with
  | nil => exact h
  | cons t rest ih => exact ih (h.turn t)

/-- Turns that are calm since the latest visit leave a chronicle current. -/
theorem current_after {calm : Prop} (h : calm → c.Current) {turns : List Turn}
    (hcalm : c.CalmSinceVisit calm turns) : (c.after turns).Current := by
  induction turns generalizing c calm with
  | nil => exact h hcalm
  | cons t rest ih => exact ih (fun hturn => current_turn (hturn.imp_right (And.imp_left h))) hcalm

/-- What the latest visit brought, if it had success, is what is served. -/
theorem exists_of_fresh (h : c.fresh = true) :
    ∃ v ∈ c.visits.head?, ∃ s, v.brought = .ok s ∧ c.served = some s := by
  obtain ⟨backing, running, visits⟩ := c
  cases visits with
  | nil => cases h
  | cons v rest =>
    cases hbrought : v.brought with
    | ok s =>
      refine ⟨v, rfl, s, hbrought, ?_⟩
      simp only [served, List.findSome?_cons, hbrought, Except.toOption]
    | error e =>
      simp only [fresh, List.head?_cons, Option.any_some, hbrought, Except.isOk] at h
      cases h

end Chronicle

end BuildTriage
