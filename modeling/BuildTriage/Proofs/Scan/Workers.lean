import BuildTriage.Scan.Attempt

/-!
# The life of a worker

A worker is a thread with a queue of items and one of answers, and a scan that holds the
other ends of both. The scan gives a worker up in several moves: it takes a place in the
allowance, marks the worker, and closes the queue of items and then that of answers. The
thread looks at its mark only when it has come out of its loop, and gives the place back if
it is marked. Between any two of these moves anything else may happen.
-/

namespace BuildTriage.Scan

/-- What the thread of a worker does. -/
inductive Thread (α : Type) where
  /-- It waits for an item. -/
  | waiting
  /-- Its call of the matcher runs. -/
  | calling (item : α)
  /-- The call has returned, and the answer has to be sent. -/
  | answering (bytes : Option (Nat × Nat))
  /-- It has come out of its loop, and has to look at its mark. -/
  | leaving
  /-- It has seen that it is marked, and has to give its place back. -/
  | repaying
  /-- It has ended. -/
  | ended
  /-- Its call has crashed, and it does nothing any more. -/
  | crashed
  deriving DecidableEq, Repr

namespace Thread

variable {α : Type}

/-- The thread is in a call of the matcher. -/
def isCalling : Thread α → Bool
  | calling _ => true
  | _ => false

/-- A call of the matcher has crashed the thread. -/
def hasCrashed : Thread α → Bool
  | crashed => true
  | _ => false

/-- The thread has come out of its loop. -/
def hasLeft : Thread α → Bool
  | leaving | repaying | ended => true
  | _ => false

/-- The thread has ended, or has crashed. -/
def isOver : Thread α → Bool
  | ended | crashed => true
  | _ => false

end Thread

/-- How a scan stands to a worker. -/
inductive Bond where
  /-- It has the worker at hand. -/
  | idle
  /-- It waits for an answer. -/
  | awaiting
  /-- It has waited long enough, and has to see whether the worker can be abandoned. -/
  | late
  /-- It has taken a place for the worker: the worker is abandoned. -/
  | abandoned
  /-- There was no place: the worker is dropped. -/
  | refused
  /-- The scan has ended, or has seen that the worker is lost. -/
  | parted
  deriving DecidableEq, Repr

/-- A worker. -/
structure Worker (α : Type) where
  /-- How its scan stands to it. -/
  bond : Bond
  /-- What its thread does. -/
  thread : Thread α
  /-- The queues between them. -/
  mailbox : Mailbox α
  /-- The scan holds its end of the queue of items. -/
  itemsOpen : Bool
  /-- The scan holds its end of the queue of answers. -/
  answersOpen : Bool
  /-- The scan has marked it as abandoned. -/
  marked : Bool
  /-- How often it has given a place back. -/
  repaid : Nat
  deriving DecidableEq, Repr

/-- A move of a worker, or of its scan. -/
inductive Move (α : Type) where
  /-- The scan sends an item. -/
  | send (item : α)
  /-- The scan receives an answer. -/
  | receive
  /-- The scan sees that the worker is lost. -/
  | lose
  /-- The scan has waited long enough. -/
  | expire
  /-- The scan takes a place for the worker, if there is one. -/
  | abandon
  /-- The scan marks the worker. -/
  | mark
  /-- The scan ends with the worker at hand. -/
  | part
  /-- The scan closes the queue of items. -/
  | closeItems
  /-- The scan closes the queue of answers. -/
  | closeAnswers
  /-- The thread takes an item and calls the matcher. -/
  | take
  /-- The call returns. -/
  | answer (bytes : Option (Nat × Nat))
  /-- The call crashes. -/
  | crash
  /-- The thread sends its answer, or sees that nobody waits for it. -/
  | reply
  /-- The thread sees that there will be no more items. -/
  | stop
  /-- The thread looks at its mark. -/
  | look
  /-- The thread gives its place back. -/
  | repay
  deriving DecidableEq, Repr

/-- The move goes on with what was begun: it is no new item, no end of a wait, of a scan or
of a call of the matcher. -/
def Move.isUpkeep {α : Type} : Move α → Bool
  | send _ | expire | part | answer _ | crash => false
  | _ => true

namespace Worker

variable {α : Type}

/-- A worker that has just begun. -/
def begun : Worker α := ⟨.idle, .waiting, .empty, true, true, false, 0⟩

/-- The worker has a place that it has not given back. -/
def counts (w : Worker α) : Bool := w.bond == .abandoned && w.repaid == 0

/-- The scan has nothing to do with the worker but to close its queues. -/
def isLetGo (w : Worker α) : Bool :=
  match w.bond with
  | .abandoned => w.marked
  | .refused | .parted => true
  | .idle | .awaiting | .late => false

/-- A worker and the allowance after a move, if that is possible. -/
def move? (w : Worker α) (a : Allowance) : Move α → Option (Worker α × Allowance)
  | .send item =>
    if w.bond = .idle ∧ ¬w.thread.isOver then
      some ({ w with bond := .awaiting, mailbox := w.mailbox.send item }, a)
    else none
  | .receive =>
    if w.bond = .awaiting then
      w.mailbox.receive?.map fun r => ({ w with bond := .idle, mailbox := r.2 }, a)
    else none
  | .lose =>
    if (w.bond = .idle ∨ w.bond = .awaiting) ∧ w.thread.isOver then
      some ({ w with bond := .parted }, a)
    else none
  | .expire => if w.bond = .awaiting then some ({ w with bond := .late }, a) else none
  | .abandon =>
    if w.bond = .late then
      match a.abandon? with
      | some less => some ({ w with bond := .abandoned }, less)
      | none => some ({ w with bond := .refused }, a)
    else none
  | .mark =>
    if w.bond = .abandoned ∧ ¬w.marked then some ({ w with marked := true }, a) else none
  | .part => if w.bond = .idle then some ({ w with bond := .parted }, a) else none
  | .closeItems =>
    if w.isLetGo ∧ w.itemsOpen then some ({ w with itemsOpen := false }, a) else none
  | .closeAnswers =>
    if ¬w.itemsOpen ∧ w.answersOpen then some ({ w with answersOpen := false }, a) else none
  | .take =>
    match w.thread, w.mailbox.jobs with
    | .waiting, item :: rest =>
      some ({ w with thread := .calling item, mailbox := { w.mailbox with jobs := rest } }, a)
    | _, _ => none
  | .answer bytes =>
    if w.thread.isCalling then some ({ w with thread := .answering bytes }, a) else none
  | .crash => if w.thread.isCalling then some ({ w with thread := .crashed }, a) else none
  | .reply =>
    match w.thread with
    | .answering bytes =>
      if w.answersOpen then
        some ({ w with thread := .waiting,
                       mailbox := { w.mailbox with answers := w.mailbox.answers ++ [bytes] } }, a)
      else some ({ w with thread := .leaving }, a)
    | _ => none
  | .stop =>
    match w.thread with
    | .waiting =>
      if w.mailbox.jobs.isEmpty ∧ ¬w.itemsOpen then some ({ w with thread := .leaving }, a)
      else none
    | _ => none
  | .look =>
    match w.thread with
    | .leaving => some ({ w with thread := if w.marked then .repaying else .ended }, a)
    | _ => none
  | .repay =>
    match w.thread with
    | .repaying => some ({ w with thread := .ended, repaid := w.repaid + 1 }, a.release)
    | _ => none

/-- What holds of a worker at any time. -/
structure Sound (w : Worker α) : Prop where
  /-- The queue of items is closed only by a scan that has let go of the worker. -/
  letGo : w.itemsOpen = false → w.isLetGo = true
  /-- The queue of answers is closed after that of items. -/
  closed : w.answersOpen = false → w.itemsOpen = false
  /-- Only a worker that is abandoned is marked. -/
  marked : w.marked = true → w.bond = .abandoned
  /-- The thread comes out of its loop only when the queue of items is closed. -/
  left : w.thread.hasLeft = true → w.itemsOpen = false
  /-- A thread that gives its place back is marked. -/
  repaying : w.thread = .repaying → w.marked = true
  /-- A thread that has ended has given a place back once if it is marked, and else not. -/
  ended : w.thread = .ended → w.repaid = if w.marked then 1 else 0
  /-- Any other thread has not given a place back. -/
  running : w.thread ≠ .ended → w.repaid = 0

/-- A worker that has just begun is sound. -/
theorem sound_begun : (begun : Worker α).Sound where
  letGo := nofun
  closed := nofun
  marked := nofun
  left := nofun
  repaying := nofun
  ended := nofun
  running _ := rfl

/-- What a move does to a worker and the allowance: it leaves the place of the worker as it
is, takes one for it, or gives the one back that it has. -/
inductive Effect (w w' : Worker α) (a a' : Allowance) : Prop where
  /-- Neither is a place taken nor given back. -/
  | keeps (hcounts : w'.counts = w.counts) (ha : a' = a)
  /-- A place is taken. -/
  | takes (hbond : w.bond = .late) (hbond' : w'.bond = .abandoned) (hroom : a.running < a.cap)
      (hbefore : w.counts = false) (hafter : w'.counts = true)
      (ha : a' = { a with running := a.running + 1 })
  /-- The place is given back. -/
  | repays (hbefore : w.counts = true) (hafter : w'.counts = false) (ha : a' = a.release)

variable {w w' : Worker α} {a a' : Allowance}

/-- A scan that has not let go of a sound worker holds its ends of both queues, has not marked
the worker, and the thread is in its loop. -/
theorem Sound.held (h : w.Sound) (hheld : w.isLetGo = false) :
    w.itemsOpen = true ∧ w.answersOpen = true ∧ w.marked = false ∧ w.thread.hasLeft = false := by
  have hitems : w.itemsOpen = true := by
    cases hopen : w.itemsOpen with
    | true => rfl
    | false => exact absurd (h.letGo hopen) (by simp [hheld])
  refine ⟨hitems, ?_, ?_, ?_⟩
  · cases hopen : w.answersOpen with
    | true => rfl
    | false => exact absurd (h.closed hopen) (by simp [hitems])
  · cases hmarked : w.marked with
    | false => rfl
    | true => simp [isLetGo, h.marked hmarked, hmarked] at hheld
  · cases hleft : w.thread.hasLeft with
    | false => rfl
    | true => exact absurd (h.left hleft) (by simp [hitems])

/-- A scan that has not let go of a worker may stand to it in any way after a move. -/
theorem Sound.rebond (h : w.Sound) (hheld : w.isLetGo = false) (bond : Bond)
    (mailbox : Mailbox α) : Sound { w with bond, mailbox } := by
  obtain ⟨hitems, -, hmarked, -⟩ := h.held hheld
  exact
    { letGo := by simp [hitems]
      closed := h.closed
      marked := by simp [hmarked]
      left := h.left
      repaying := h.repaying
      ended := h.ended
      running := h.running }

/-- A thread that has not ended may do anything after a move but end or give a place back, and
may come out of its loop if the queue of items is closed. -/
theorem Sound.rethread (h : w.Sound) (hrunning : w.thread ≠ .ended) {thread : Thread α}
    (hleft : thread.hasLeft = true → w.itemsOpen = false) (hrepaying : thread ≠ .repaying)
    (hended : thread ≠ .ended) (mailbox : Mailbox α) : Sound { w with thread, mailbox } where
  letGo := h.letGo
  closed := h.closed
  marked := h.marked
  left := hleft
  repaying heq := absurd heq hrepaying
  ended heq := absurd heq hended
  running _ := h.running hrunning

/-- A move leaves a sound worker sound. -/
theorem Sound.move (h : w.Sound) {m : Move α} (hm : w.move? a m = some (w', a')) : w'.Sound := by
  cases m with
  | send | lose | expire | part =>
    simp only [move?] at hm
    split at hm
    · cases hm
      exact h.rebond (by grind [isLetGo]) _ _
    · cases hm
  | receive =>
    simp only [move?] at hm
    split at hm
    · obtain ⟨r, -, hr⟩ := Option.map_eq_some_iff.mp hm
      cases hr
      exact h.rebond (by grind [isLetGo]) _ _
    · cases hm
  | abandon =>
    simp only [move?] at hm
    split at hm
    · split at hm <;> cases hm <;> exact h.rebond (by grind [isLetGo]) _ _
    · cases hm
  | mark =>
    simp only [move?] at hm
    split at hm
    · next hbond =>
      cases hm
      obtain ⟨hitems, -, -, hleft⟩ := h.held (by grind [isLetGo])
      exact { h with
        letGo := by grind
        marked := fun _ => hbond.1
        repaying := fun _ => rfl
        ended := by grind [Thread.hasLeft] }
    · cases hm
  | closeItems =>
    simp only [move?] at hm
    split at hm
    · next hopen =>
      cases hm
      exact { h with letGo := fun _ => hopen.1, closed := fun _ => rfl, left := fun _ => rfl }
    · cases hm
  | closeAnswers =>
    simp only [move?] at hm
    split at hm
    · next hopen =>
      cases hm
      exact { h with closed := fun _ => Bool.not_eq_true _ ▸ hopen.1 }
    · cases hm
  | take =>
    simp only [move?] at hm
    split at hm
    · next hthread _ =>
      cases hm
      exact h.rethread (by simp [hthread]) (by nofun) (by nofun) (by nofun) _
    · cases hm
  | answer | crash =>
    simp only [move?] at hm
    split at hm
    · next hcalling =>
      cases hm
      exact h.rethread (by grind [Thread.isCalling]) (by nofun) (by nofun) (by nofun) _
    · cases hm
  | reply =>
    simp only [move?] at hm
    split at hm
    · next hthread =>
      have hrunning : w.thread ≠ .ended := by simp [hthread]
      split at hm
      · cases hm
        exact h.rethread hrunning (by nofun) (by nofun) (by nofun) _
      · next hclosed =>
        cases hm
        exact h.rethread hrunning (fun _ => h.closed (by simpa using hclosed))
          (by nofun) (by nofun) _
    · cases hm
  | stop =>
    simp only [move?] at hm
    split at hm
    · next hthread =>
      split at hm
      · next hdone =>
        cases hm
        exact h.rethread (by simp [hthread]) (fun _ => by simpa using hdone.2)
          (by nofun) (by nofun) _
      · cases hm
    · cases hm
  | look =>
    simp only [move?] at hm
    split at hm
    · next hthread =>
      cases hm
      have hitems : w.itemsOpen = false := h.left (by rw [hthread]; rfl)
      have hnone : w.repaid = 0 := h.running (by simp [hthread])
      exact { h with
        left := fun _ => hitems
        repaying := by grind
        ended := by grind
        running := fun _ => hnone }
    · cases hm
  | repay =>
    simp only [move?] at hm
    split at hm
    · next hthread =>
      cases hm
      have hmarked : w.marked = true := h.repaying hthread
      have hnone : w.repaid = 0 := h.running (by simp [hthread])
      exact { h with
        left := fun _ => h.left (by rw [hthread]; rfl)
        repaying := nofun
        ended := fun _ => by simp [hmarked, hnone]
        running := fun hne => absurd rfl hne }
    · cases hm

/-- A move does one of the three things. -/
theorem effect_of_move (h : w.Sound) {m : Move α} (hm : w.move? a m = some (w', a')) :
    Effect w w' a a' := by
  obtain ⟨hletGo, hclosed, hmarked, hleft, hrepaying, hended, hrunning⟩ := h
  cases m with
  | send | lose | expire | mark | part | closeItems | closeAnswers | answer | crash =>
    simp only [move?] at hm
    split at hm
    · cases hm
      exact .keeps (by grind [counts]) rfl
    · cases hm
  | receive =>
    simp only [move?] at hm
    split at hm
    · obtain ⟨r, -, hr⟩ := Option.map_eq_some_iff.mp hm
      cases hr
      exact .keeps (by grind [counts]) rfl
    · cases hm
  | abandon =>
    simp only [move?, Allowance.abandon?] at hm
    split at hm
    · next hlate =>
      by_cases hroom : a.running < a.cap
      · rw [if_pos hroom] at hm
        cases hm
        have hrepaid : w.repaid = 0 := by grind [isLetGo, Thread.hasLeft]
        exact .takes hlate rfl hroom (by grind [counts]) (by grind [counts]) rfl
      · rw [if_neg hroom] at hm
        cases hm
        exact .keeps (by grind [counts]) rfl
    · cases hm
  | take | look =>
    simp only [move?] at hm
    split at hm
    · cases hm
      exact .keeps rfl rfl
    · cases hm
  | reply | stop =>
    simp only [move?] at hm
    split at hm
    · split at hm <;> cases hm <;> exact .keeps rfl rfl
    · cases hm
  | repay =>
    simp only [move?] at hm
    split at hm
    · next hthread =>
      cases hm
      have hbond := hmarked (hrepaying hthread)
      exact .repays (by grind [counts]) (by grind [counts]) rfl
    · cases hm

/-- A worker gives a place back once if it is abandoned and has ended, and else not. -/
theorem Sound.repaid (h : w.Sound) :
    w.repaid ≤ 1 ∧ (w.repaid = 1 ↔ w.bond = .abandoned ∧ w.thread = .ended) := by
  by_cases hended : w.thread = .ended
  · have hletGo := h.letGo (h.left (by rw [hended]; rfl))
    have hmarked : w.marked = true ↔ w.bond = .abandoned :=
      ⟨h.marked, fun hb => by simpa only [isLetGo, hb] using hletGo⟩
    rw [h.ended hended, ← hmarked]
    cases w.marked <;> simp [hended]
  · rw [h.running hended]
    exact ⟨Nat.zero_le 1, nofun, fun hboth => absurd hboth.2 hended⟩

/-- How many moves of upkeep a worker has before it at most. -/
def distance (w : Worker α) : Nat :=
  (match w.bond with
    | .awaiting | .late => 2
    | .idle => 1
    | .abandoned | .refused | .parted => 0) +
  (match w.thread with
    | .calling _ => 5
    | .answering _ => 4
    | .waiting => 3
    | .leaving => 2
    | .repaying => 1
    | .ended | .crashed => 0) +
  3 * w.mailbox.jobs.length +
  ((if w.marked then 0 else 1) + (if w.itemsOpen then 1 else 0) + if w.answersOpen then 1 else 0)

/-- Upkeep comes to an end. -/
theorem distance_lt {m : Move α} (hup : m.isUpkeep = true) (hm : w.move? a m = some (w', a')) :
    w'.distance < w.distance := by
  cases m with
  | send | expire | part | answer | crash => exact absurd hup (by simp [Move.isUpkeep])
  | lose | mark | closeItems | closeAnswers =>
    simp only [move?] at hm
    split at hm
    · cases hm
      grind [distance]
    · cases hm
  | receive =>
    simp only [move?, Mailbox.receive?] at hm
    split at hm
    · obtain ⟨r, hr, he⟩ := Option.map_eq_some_iff.mp hm
      split at hr <;> cases hr
      cases he
      grind [distance]
    · cases hm
  | abandon =>
    simp only [move?] at hm
    split at hm
    · split at hm <;> cases hm <;> grind [distance]
    · cases hm
  | take | look | repay =>
    simp only [move?] at hm
    split at hm
    · cases hm
      grind [distance]
    · cases hm
  | reply | stop =>
    simp only [move?] at hm
    split at hm
    · split at hm <;> cases hm <;> grind [distance]
    · cases hm

/-- There is no upkeep to be done for a worker. -/
def Rests (w : Worker α) (a : Allowance) : Prop :=
  ∀ m : Move α, m.isUpkeep = true → w.move? a m = none

/-- An abandoned worker without upkeep is in a call of the matcher, has crashed in one, or has
ended. -/
theorem Rests.thread (hr : w.Rests a) (hb : w.bond = .abandoned) :
    w.thread.isCalling = true ∨ w.thread = .crashed ∨ w.thread = .ended := by
  have hmarked : w.marked = true := by
    have hmove := hr .mark rfl
    simp only [move?] at hmove
    grind
  have hitems : w.itemsOpen = false := by
    have hmove := hr .closeItems rfl
    simp only [move?] at hmove
    grind [isLetGo]
  cases hthread : w.thread with
  | calling item => exact .inl rfl
  | crashed => exact .inr (.inl rfl)
  | ended => exact .inr (.inr rfl)
  | waiting =>
    -- It takes an item, or sees that there are no more.
    cases hjobs : w.mailbox.jobs with
    | nil =>
      have hmove := hr .stop rfl
      simp only [move?, hthread, hjobs, hitems] at hmove
      simp at hmove
    | cons item rest =>
      have hmove := hr .take rfl
      simp only [move?, hthread, hjobs] at hmove
      cases hmove
  | answering bytes =>
    have hmove := hr .reply rfl
    simp only [move?, hthread] at hmove
    split at hmove <;> cases hmove
  | leaving =>
    have hmove := hr .look rfl
    simp only [move?, hthread] at hmove
    cases hmove
  | repaying =>
    have hmove := hr .repay rfl
    simp only [move?, hthread] at hmove
    cases hmove

/-- Without upkeep, the workers that count are those in a call of the matcher and those that
have crashed in one. -/
theorem Rests.counts_eq (h : w.Sound) (hr : w.Rests a) :
    w.counts = (w.bond == .abandoned && (w.thread.isCalling || w.thread.hasCrashed)) := by
  by_cases hbond : w.bond = .abandoned
  · obtain ⟨hle, hone⟩ := h.repaid
    obtain hcalling | hcrashed | hended := hr.thread hbond
    · have hrunning := h.running (by grind [Thread.isCalling])
      simp [counts, hbond, hrunning, hcalling]
    · have hrunning := h.running (by grind)
      simp [counts, hbond, hrunning, hcrashed, Thread.hasCrashed]
    · have hrepaid := hone.mpr ⟨hbond, hended⟩
      simp [counts, hbond, hrepaid, hended, Thread.isCalling, Thread.hasCrashed]
  · have hne : (w.bond == .abandoned) = false := beq_eq_false_iff_ne.mpr hbond
    simp only [counts, hne, Bool.false_and]

end Worker

end BuildTriage.Scan
