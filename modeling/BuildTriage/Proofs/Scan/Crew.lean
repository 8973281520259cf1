import BuildTriage.Proofs.Scan.Search
import BuildTriage.Proofs.Scan.Slots
import BuildTriage.Scan.Literal
import Mathlib.Logic.Relation

/-!
# What a crew sees of its workers

A crew knows of a worker only whether its scan waits for it, has abandoned it or has dropped
it, and gives it up or sees it leave in one step. Each move of a worker or its scan is such a
step, or some of them, or none. A scan that is alone abandons as many workers as it counts;
when they have all left, the ones that crashed are still counted.
-/

namespace BuildTriage.Scan

/-- A worker in the eyes of its scan. -/
def Bond.eye : Bond → MatchWorker
  | .idle | .awaiting | .late | .parted => .awaited
  | .abandoned => .abandoned
  | .refused => .dropped

namespace Crew

/-- A crew does one thing. -/
inductive Step : Crew → Crew → Prop where
  /-- A worker begins. -/
  | hire (c : Crew) : Step c c.hire
  /-- A scan gives a worker up. -/
  | giveUp {c c' : Crew} {i : Nat} (h : c.giveUp? i = some c') : Step c c'
  /-- A worker leaves. -/
  | leave {c c' : Crew} {i : Nat} {e : LastCall} (h : c.leave? i e = some c') : Step c c'

/-- A crew does some things, one after the other. -/
abbrev Leads : Crew → Crew → Prop := Relation.ReflTransGen Step

variable {a : Allowance}

/-- A worker that is awaited is given up. -/
theorem step_giveUp (front back : List MatchWorker) : Step ⟨a, front ++ .awaited :: back⟩
    (match a.abandon? with
      | some less => ⟨less, front ++ .abandoned :: back⟩
      | none => ⟨a, front ++ .dropped :: back⟩) := by
  refine .giveUp (i := front.length) ?_
  have hget : (front ++ MatchWorker.awaited :: back)[front.length]? = some .awaited := by simp
  simp only [giveUp?, hget, if_true]
  cases a.abandon? with
  | some less => simp
  | none => simp

/-- A worker leaves; if it is abandoned and returns, it gives its place back. -/
theorem step_leave (w : MatchWorker) (e : LastCall) (front back : List MatchWorker) :
    Step ⟨a, front ++ w :: back⟩
    (match w, e with
      | .abandoned, .returns => ⟨a.release, front ++ back⟩
      | _, _ => ⟨a, front ++ back⟩) := by
  refine .leave (i := front.length) (e := e) ?_
  have hget : (front ++ w :: back)[front.length]? = some w := by simp
  simp only [leave?, hget, Option.map_some]
  cases w <;> cases e <;> simp [List.eraseIdx_append_of_length_le]

end Crew

namespace Worker

variable {α : Type} {w w' : Worker α} {a a' : Allowance}

/-- What a crew sees of a worker: it is there until it has ended, or has crashed and its scan
has nothing to do with it any more. -/
def seen (w : Worker α) : List MatchWorker :=
  match w.thread, w.bond with
  | .ended, _ | .crashed, .abandoned | .crashed, .refused | .crashed, .parted => []
  | _, b => [b.eye]

/-- A worker that a crew sees leaves it, in a way that gives no place back. -/
theorem leads_gone {b : Bond} (e : LastCall) (hb : b = .abandoned → e = .crashes)
    (front back : List MatchWorker) :
    Crew.Leads ⟨a, front ++ [b.eye] ++ back⟩ ⟨a, front ++ [] ++ back⟩ := by
  have hstep := Crew.step_leave (a := a) b.eye e front back
  have hafter : (match b.eye, e with
      | .abandoned, .returns => (⟨a.release, front ++ back⟩ : Crew)
      | _, _ => ⟨a, front ++ back⟩) = ⟨a, front ++ back⟩ := by
    cases b <;> cases e <;> first | rfl | exact absurd (hb rfl) nofun
  rw [hafter] at hstep
  simpa using Relation.ReflTransGen.single hstep

/-- A worker whose scan has given it up is seen so, or leaves at once if it has crashed. -/
theorem leads_resolved {b : Bond} (hthread : w.thread ≠ .ended)
    (hb : b = .abandoned ∨ b = .refused) (front back : List MatchWorker) :
    Crew.Leads ⟨a, front ++ [b.eye] ++ back⟩
      ⟨a, front ++ ({ w with bond := b } : Worker α).seen ++ back⟩ := by
  by_cases hcrashed : w.thread = .crashed
  · have hseen : ({ w with bond := b } : Worker α).seen = [] := by
      obtain rfl | rfl := hb <;> simp only [seen, hcrashed]
    rw [hseen]
    exact leads_gone .crashes (fun _ => rfl) front back
  · have hseen : ({ w with bond := b } : Worker α).seen = [b.eye] := by grind [seen]
    rw [hseen]

/-- A scan whose worker is late gives it up. -/
theorem leads_abandon (h : w.Sound) (hm : w.move? a .abandon = some (w', a'))
    (front back : List MatchWorker) :
    Crew.Leads ⟨a, front ++ w.seen ++ back⟩ ⟨a', front ++ w'.seen ++ back⟩ := by
  obtain ⟨hletGo, hclosed, hmarked, hleft, hrepaying, hended, hrunning⟩ := h
  simp only [move?] at hm
  split at hm
  · next hlate =>
    have hopen : w.itemsOpen = true := by grind [isLetGo]
    have hthread : w.thread ≠ .ended := by grind [Thread.hasLeft]
    have hseen : w.seen = [.awaited] := by grind [seen, Bond.eye]
    have hgiven := Crew.step_giveUp (a := a) front back
    rw [hseen, List.append_assoc, List.singleton_append]
    cases hroom : a.abandon? with
    | some less =>
      rw [hroom] at hm hgiven
      cases hm
      refine (Relation.ReflTransGen.single hgiven).trans ?_
      simpa [Bond.eye] using leads_resolved hthread (.inl rfl) front back
    | none =>
      rw [hroom] at hm hgiven
      cases hm
      refine (Relation.ReflTransGen.single hgiven).trans ?_
      simpa [Bond.eye] using leads_resolved hthread (.inr rfl) front back
  · cases hm

/-- An abandoned worker gives its place back as it leaves. -/
theorem leads_repay (h : w.Sound) (hm : w.move? a .repay = some (w', a'))
    (front back : List MatchWorker) :
    Crew.Leads ⟨a, front ++ w.seen ++ back⟩ ⟨a', front ++ w'.seen ++ back⟩ := by
  obtain ⟨hletGo, hclosed, hmarked, hleft, hrepaying, hended, hrunning⟩ := h
  simp only [move?] at hm
  split at hm
  · next hthread =>
    cases hm
    have hbond := hmarked (hrepaying hthread)
    have hseen : w.seen = [.abandoned] := by simp only [seen, hthread, hbond, Bond.eye]
    have hstep := Crew.step_leave (a := a) .abandoned .returns front back
    rw [hseen]
    simpa [seen] using Relation.ReflTransGen.single hstep
  · cases hm

/-- A move of a worker, or of its scan, is what a crew does. -/
theorem crew_move (h : w.Sound) {m : Move α} (hm : w.move? a m = some (w', a'))
    (front back : List MatchWorker) :
    Crew.Leads ⟨a, front ++ w.seen ++ back⟩ ⟨a', front ++ w'.seen ++ back⟩ := by
  have hstill : w'.seen = w.seen → a' = a →
      Crew.Leads ⟨a, front ++ w.seen ++ back⟩ ⟨a', front ++ w'.seen ++ back⟩ := by
    intro hseen ha
    rw [hseen, ha]
  have hgone : ∀ e : LastCall, w.seen = [w.bond.eye] → w'.seen = [] → a' = a →
      (w.bond = .abandoned → e = .crashes) →
      Crew.Leads ⟨a, front ++ w.seen ++ back⟩ ⟨a', front ++ w'.seen ++ back⟩ := by
    intro e hseen hseen' ha hb
    rw [hseen, hseen', ha]
    exact leads_gone e hb front back
  have ⟨hletGo, hclosed, hmarked, hleft, hrepaying, hended, hrunning⟩ := h
  cases m with
  | send | expire | mark | closeItems | closeAnswers | answer =>
    simp only [move?] at hm
    split at hm
    · cases hm
      exact hstill (by grind [seen, Bond.eye, Thread.isOver, Thread.isCalling]) rfl
    · cases hm
  | receive =>
    simp only [move?] at hm
    split at hm
    · obtain ⟨r, -, hr⟩ := Option.map_eq_some_iff.mp hm
      cases hr
      exact hstill (by grind [seen, Bond.eye]) rfl
    · cases hm
  | lose | part =>
    -- The scan has nothing to do with the worker any more: if it has crashed, it is gone now.
    simp only [move?] at hm
    split at hm
    · cases hm
      by_cases hcrashed : w.thread = .crashed
      · exact hgone .crashes (by grind [seen, Bond.eye]) (by grind [seen]) rfl fun _ => rfl
      · exact hstill (by grind [seen, Bond.eye]) rfl
    · cases hm
  | abandon => exact leads_abandon h hm front back
  | take =>
    simp only [move?] at hm
    split at hm
    · cases hm
      exact hstill (by grind [seen, Bond.eye]) rfl
    · cases hm
  | crash =>
    simp only [move?] at hm
    split at hm
    · cases hm
      by_cases hwaits : w.bond = .idle ∨ w.bond = .awaiting ∨ w.bond = .late
      · exact hstill (by grind [seen, Bond.eye, Thread.isCalling]) rfl
      · exact hgone .crashes (by grind [seen, Bond.eye, Thread.isCalling])
          (by cases hbond : w.bond <;> grind [seen]) rfl fun _ => rfl
    · cases hm
  | reply | stop =>
    simp only [move?] at hm
    split at hm
    · split at hm <;> cases hm <;> exact hstill (by grind [seen, Bond.eye]) rfl
    · cases hm
  | look =>
    simp only [move?] at hm
    split at hm
    · next hleaving =>
      cases hm
      by_cases hmark : w.marked = true
      · exact hstill (by grind [seen, Bond.eye]) rfl
      · -- It is not abandoned, since an abandoned worker is marked before its queue closes.
        have hbond : w.bond ≠ .abandoned := by grind [isLetGo, Thread.hasLeft]
        exact hgone .returns (by grind [seen]) (by grind [seen]) rfl fun hb => absurd hb hbond
    · cases hm
  | repay => exact leads_repay h hm front back

end Worker

namespace Workshop

variable {α : Type} {s t : Workshop α} {cap : Nat}

/-- The crew of a workshop. -/
def crew (s : Workshop α) : Crew := ⟨s.allowance, s.workers.flatMap (·.seen)⟩

/-- Whatever happens in a workshop, its crew does it in some steps. -/
theorem leads_of_step (h : Kept cap s) {e : Event α} (hs : s.step e = some t) :
    Crew.Leads s.crew t.crew := by
  cases e with
  | hire =>
    cases hs
    have hcrew : crew { s with workers := s.workers ++ [.begun] } = s.crew.hire := by
      simp only [crew, Crew.hire, List.flatMap_append, List.flatMap_singleton]
      rfl
    rw [hcrew]
    exact .single (.hire _)
  | move i m =>
    obtain ⟨front, w, back, w', a, hsplit, hmove, rfl⟩ := exists_of_move hs
    have hmem : w ∈ front ++ w :: back := List.mem_append_right _ List.mem_cons_self
    have hw : w.Sound := h.sound w (hsplit ▸ hmem)
    have hleads := Worker.crew_move hw hmove (front.flatMap (·.seen)) (back.flatMap (·.seen))
    simpa only [crew, hsplit, List.flatMap_append, List.flatMap_cons, List.append_assoc]
      using hleads

/-- Any run of a workshop is one of its crew. -/
theorem leads_of_run (h : Kept cap s) {events : List (Event α)} (hs : s.run events = some t) :
    Crew.Leads s.crew t.crew := by
  induction events generalizing s with
  | nil => cases hs; exact .refl
  | cons e rest ih =>
    obtain ⟨u, hu, hrest⟩ := Option.bind_eq_some_iff.mp hs
    exact (leads_of_step h hu).trans (ih (h.step hu) hrest)

end Workshop

section Search

variable {α : Type} {hit : α → Option (Nat × Nat)} {worker : Option (Mailbox α)}

/-- A scan that is alone takes a place for each worker that it abandons. -/
theorem search_forsaken {turns : List (Turn α)} (h : ∀ t ∈ turns, t.outside = [])
    (hw : Idle worker) (progress : Progress) (a : Allowance) :
    (search hit turns worker progress a).allowance =
      { a with running := a.running + (forsaken hit turns a).length } := by
  induction turns generalizing worker progress a with
  | nil => rfl
  | cons t rest ih =>
    obtain ⟨ht, hrest⟩ := List.forall_mem_cons.mp h
    have halone : t.outside.foldl .shift a = a := by rw [ht]; rfl
    cases he : t.ending with
    | answered =>
      cases hhit : hit t.item with
      | some bytes =>
        simp only [search, attempt, forsaken, halone, he, serve_idle hw, hhit, Option.isSome_some,
          if_true, List.length_nil, Nat.add_zero]
      | none =>
        simp only [search, attempt, forsaken, halone, he, serve_idle hw, hhit, Option.isSome_none]
        exact ih hrest (fun m hm => (Option.some.inj hm).symm) progress a
    | overdue =>
      by_cases hroom : a.running < a.cap
      · have hless := abandon_of_lt hroom
        simp only [search, attempt, forsaken, halone, he, hless, List.length_cons]
        rw [ih hrest idle_none]
        simp only [Nat.add_assoc, Nat.add_comm 1]
      · have hfull := abandon_of_le (Nat.le_of_not_lt hroom)
        simp only [search, attempt, forsaken, halone, he, hfull, List.length_nil, Nat.add_zero]
    | exhausted =>
      by_cases hroom : a.running < a.cap
      · have hless := abandon_of_lt hroom
        simp only [search, attempt, forsaken, halone, he, hless, Option.getD_some,
          Option.isSome_some, if_true, List.length_singleton]
      · have hfull := abandon_of_le (Nat.le_of_not_lt hroom)
        simp only [search, attempt, forsaken, halone, he, hfull, Option.getD_none,
          Option.isSome_none, Bool.false_eq_true, if_false, List.length_nil, Nat.add_zero]
    | unstarted =>
      simp only [search, attempt, forsaken, halone, he, List.length_nil, Nat.add_zero]
    | crashed =>
      simp only [search, attempt, forsaken, halone, he, List.length_nil, Nat.add_zero]

end Search

namespace Crew

/-- Once all abandoned workers have left, the places of those that crashed are still taken. -/
theorem leaveFirst_ofAllowance (calls : List LastCall) (others cap : Nat) :
    (⟨⟨others + calls.length, cap⟩, List.replicate calls.length .abandoned⟩ :
        Crew).leaveFirst calls =
      ⟨⟨others + calls.count .crashes, cap⟩, []⟩ := by
  induction calls generalizing others with
  | nil => rfl
  | cons e rest ih =>
    have hleave : (⟨⟨others + (e :: rest).length, cap⟩,
        List.replicate (e :: rest).length .abandoned⟩ : Crew).leave? 0 e = some
          ⟨⟨others + (if e = .crashes then 1 else 0) + rest.length, cap⟩,
            List.replicate rest.length .abandoned⟩ := by
      cases e with
      | returns =>
        simp [leave?, List.replicate_succ, Allowance.release]
      | crashes =>
        simp [leave?, List.replicate_succ]
        omega
    rw [leaveFirst, hleave, Option.getD_some, ih]
    cases e
    · simp
    · simp
      omega

end Crew

/-- Nothing befalls the allowance from outside while a scan is alone. -/
theorem Limits.outside_turns {α : Type} (l : Limits) (effort : α → Effort) (spent : Nat)
    (items : List α) {done : List (Turn α)} (h : ∀ t ∈ done, t.outside = []) :
    ∀ t ∈ l.turns effort spent items done, t.outside = [] := by
  induction items generalizing spent done with
  | nil => exact fun t ht => h t (List.mem_reverse.mp ht)
  | cons item rest ih => exact ih _ (List.forall_mem_cons.mpr ⟨rfl, h⟩)

namespace Scanner

variable (s : Scanner) (matcher : Matcher) (effort : List Char → Effort) (mode : ReaderMode)
  (pattern : String) (lines : List String) (file : String) (a : Allowance)

/-- A scan that is alone takes a place for each of the workers that it abandons. -/
theorem run_taken : (s.run matcher effort mode pattern lines file a).2 =
    { a with running := a.running + (s.lastCalls matcher effort mode lines a).length } := by
  cases mode with
  | singleLine =>
    simp only [run, scanLines, conduct, lastCalls, List.length_map]
    refine search_forsaken (s.lineLimits.outside_turns _ 0 _ ?_) idle_none _ a
    exact fun _ ht => absurd ht List.not_mem_nil
  | multiLine =>
    simp only [run, scanBlocks, conduct, lastCalls, List.length_map]
    refine search_forsaken (s.blockLimits.outside_turns _ 0 _ ?_) idle_none _ a
    exact fun _ ht => absurd ht List.not_mem_nil

/-- Once the workers that a scan has abandoned have left, there is a place taken for each of
them that crashed, and for nobody else that was not there before. -/
theorem taken_after_leaving :
    (⟨(s.run matcher effort mode pattern lines file a).2,
      List.replicate (s.lastCalls matcher effort mode lines a).length .abandoned⟩ :
        Crew).leaveFirst (s.lastCalls matcher effort mode lines a) =
      ⟨⟨a.running + (s.lastCalls matcher effort mode lines a).count .crashes, a.cap⟩, []⟩ := by
  rw [run_taken]
  exact Crew.leaveFirst_ofAllowance _ _ _

/-- A worker that is abandoned before it crashes takes its place with it: once it has left,
nobody is at work, and there is still one place taken. What a crew counts here is what the moves
of workers and their scans lead to (`Workshop.leads_of_run`). -/
theorem place_lost_in_crash :
    let s := ofSettings { lineTimeout := 0 }
    let crash : List Char → Effort := fun _ => .crash
    let (report, left) :=
      s.run (Matcher.literal "hit") crash .singleLine "p" ["PANIC"] "log" (.fresh sharedCap)
    report.state = .notFound ∧ left.running = 1 ∧
    (Crew.ofAllowance left).leaveFirst
        (s.lastCalls (Matcher.literal "hit") crash .singleLine ["PANIC"] (.fresh sharedCap)) =
      ⟨⟨1, sharedCap⟩, []⟩ := by
  refine ⟨by decide, by decide, ?_⟩
  exact taken_after_leaving (ofSettings { lineTimeout := 0 }) (Matcher.literal "hit")
    (fun _ => .crash) .singleLine "p" ["PANIC"] "log" (.fresh sharedCap)

end Scanner

end BuildTriage.Scan
