import BuildTriage.Proofs.KnowledgeBase.Conversion.Slots

/-!
# A conversion saves one cause after the other

A knowledge base is converted by saving each live cause of another one. There is no
transaction around it: it stops at the first cause that cannot be saved, and those that come
before it are saved for good.
-/

namespace BuildTriage

/-- The slots after some causes were put under their ids, one after the other. -/
def enterAll (hold : FailureCause → Slot) (slots : String → Option Slot)
    (causes : List FailureCause) : String → Option Slot := causes.foldl (enter hold) slots

/-- The last cause of an id stays under it. -/
theorem enterAll_apply (hold : FailureCause → Slot) (slots : String → Option Slot)
    (causes : List FailureCause) (id : String) :
    enterAll hold slots causes id = match causes.reverse.find? (·.id == id) with
      | some c => some (hold c)
      | none => slots id := by
  unfold enterAll
  rw [← List.foldr_reverse]
  induction causes.reverse with
  | nil => rfl
  | cons c rest ih =>
    rw [List.foldr_cons, List.find?_cons]
    by_cases hid : id = c.id
    · rw [hid, enter_self]
      simp
    · have hne : (c.id == id) = false := beq_eq_false_iff_ne.mpr (Ne.symm hid)
      rw [enter_other _ _ hid, hne, ih]

namespace KnowledgeBase

/-- Copies the live causes of one knowledge base to another; answers how many there are. The
causes are listed once, before any of them is saved. -/
def transfer (fresh : Nat → String) (source target : KnowledgeBase) :
    Except KnowledgeBaseError Nat × KnowledgeBase × KnowledgeBase :=
  match causes source with
  | .ok live s =>
    ((outcome (convertFrom fresh live) target).1, s, (outcome (convertFrom fresh live) target).2)
  | .error e s => (.error e, s, target)

/-- Some causes as they are saved one after the other: new ones have a fresh id. -/
def identifiedAll (fresh : Nat → String) : List FailureCause → List FailureCause
  | [] => []
  | c :: rest => c.identified (fresh rest.length) :: identifiedAll fresh rest

/-- What is to be found under an id once some causes are saved: the last one of the id, or what
was found before. -/
def foundAfter (k : KnowledgeBase) (saved : List FailureCause) (id : String) :
    Except KnowledgeBaseError (Option FailureCause) :=
  match saved.reverse.find? (·.id == id) with
  | some c => .ok (some c)
  | none => k.found id

variable {k : KnowledgeBase}

/-- What is found in slots in which some causes were put. -/
theorem found_of_slot {t : KnowledgeBase} {saved : List FailureCause}
    (h : t.backing.slot = enterAll k.backing.hold k.backing.slot saved) (id : String) :
    t.found id = k.foundAfter saved id := by
  rw [found_eq, h, enterAll_apply, foundAfter]
  cases saved.reverse.find? (·.id == id) with
  | some c => exact Backing.read_hold _ c
  | none => exact (found_eq k id).symm

/-- Some causes are saved with success, one after the other. -/
structure SavedAll (fresh : Nat → String) (live : List FailureCause) (k t : KnowledgeBase) :
    Prop where
  /-- No save fails. -/
  run : saveAll fresh live k = .ok () t
  /-- Each is under its id then, and nothing else has changed. -/
  slot_eq : t.backing.slot = enterAll k.backing.hold k.backing.slot (identifiedAll fresh live)

/-- A cause is saved before others. -/
theorem saveAll_cons {fresh : Nat → String} {c a : FailureCause} {rest : List FailureCause}
    {t : KnowledgeBase} (h : save (fresh rest.length) c k = .ok a t) :
    saveAll fresh (c :: rest) k = saveAll fresh rest t := bind_ok h

/-- Causes are saved until one of them cannot be. -/
theorem saveAll_cases (fresh : Nat → String) (live : List FailureCause)
    (h : k.backing.OnFile → SparesAll fresh live k) :
    (∃ t, SavedAll fresh live k t) ∨
      ∃ front c back mid e t, live = front ++ c :: back ∧
        SavedAll (fun n => fresh (n + back.length + 1)) front k mid ∧
        save (fresh back.length) c mid = .error e t ∧ saveAll fresh live k = .error e t := by
  induction live generalizing k with
  | nil => exact .inl ⟨k, rfl, rfl⟩
  | cons c rest ih =>
    cases hsave : save (fresh rest.length) c k with
    | error e t => exact .inr ⟨[], c, rest, k, e, t, rfl, ⟨rfl, rfl⟩, hsave, bind_error hsave⟩
    | ok a t =>
      have hgrants := grants_save (fresh rest.length) c fun hfile hnew => (h hfile).1 hnew
      obtain ⟨-, ha, hslot, hhold, hfile⟩ := hgrants.ok a t hsave
      have hspares : t.backing.OnFile → SparesAll fresh rest t := by
        intro ht
        have hnext := (h (hfile ht)).2
        rw [hsave] at hnext
        exact hnext
      obtain ⟨u, hu⟩ | ⟨front, d, back, mid, e, u, hrest, hmid, hfails, hrun⟩ := ih hspares
      · refine .inl ⟨u, (saveAll_cons hsave).trans hu.run, ?_⟩
        rw [hu.slot_eq, hslot, hhold, ha]
        rfl
      · have hlength : rest.length = front.length + back.length + 1 := by
          rw [hrest, List.length_append, List.length_cons]
          omega
        have hfirst : save (fresh (front.length + back.length + 1)) c k = .ok a t :=
          hlength ▸ hsave
        refine .inr ⟨c :: front, d, back, mid, e, u, by rw [hrest, List.cons_append], ⟨?_, ?_⟩,
          hfails, (saveAll_cons hsave).trans hrun⟩
        · exact (bind_ok hfirst).trans hmid.run
        · rw [hmid.slot_eq, hslot, hhold, ha, hlength]
          rfl

/-- A cause with a blank name is refused before anything is done. -/
theorem save_blank {c : FailureCause} (hn : Text.allBlank c.name = true) (fresh : String)
    (k : KnowledgeBase) : save fresh c k = .error (.cause .emptyName) k := by
  have hfile : ∀ s, CauseFile.save fresh c s = .error (.cause .emptyName) s := by
    intro s
    unfold CauseFile.save CauseFile.add
    split <;> exact bind_error (checked_error hn s)
  have hdocument : ∀ {σ : Type} [DocumentStore σ] (b : DocumentBase σ),
      DocumentBase.save fresh c b = .error (.cause .emptyName) b := by
    intro σ _ b
    unfold DocumentBase.save DocumentBase.add
    split <;> exact bind_error (checked_error hn b)
  have hback : onBacking (Backing.run fun _ => CauseStore.save fresh c) k =
      .error (.cause .emptyName) k := by
    obtain ⟨backing, cache⟩ := k
    cases backing with
    | file b => exact congrArg (Backing.wrap _) (congrArg (Backing.wrap Backing.file) (hfile b))
    | table b =>
      exact congrArg (Backing.wrap _) (congrArg (Backing.wrap Backing.table) (hdocument b))
    | hash b =>
      exact congrArg (Backing.wrap _) (congrArg (Backing.wrap Backing.hash) (hdocument b))
  exact bind_error hback

/-- A save that fails changes nothing in tables, or over a link that is up or down for the
whole time. -/
theorem undone_save_steady (hk : k.backing.Steady) (fresh : String) (c : FailureCause) :
    Undone (save fresh c) k := by
  refine undone_change (Backing.undone_run hk
    (fun b _ => DocumentBase.undone_save (b.store.careful .json) fresh c) fun b hb => ?_)
  rw [hb] at hk
  exact DocumentBase.undone_save (CauseHash.careful hk) fresh c

/-- The outcome of a transfer whose source is listed. -/
theorem transfer_eq (fresh : Nat → String) {source s : KnowledgeBase} {live : List FailureCause}
    (h : causes source = .ok live s) (target : KnowledgeBase) :
    transfer fresh source target = match saveAll fresh live target with
      | .ok _ t => (.ok live.length, s, t)
      | .error e t => (.error e, s, t) := by
  rw [transfer, h]
  simp only [outcome, convertFrom]
  cases hrun : saveAll fresh live target with
  | ok a t => rw [bind_ok hrun]; rfl
  | error e t => rw [bind_error hrun]

/-- A transfer fails at once if its source cannot be listed, and then changes nothing in the
target. Else the live causes are saved one after the other. If all of them can be saved, their
number is answered, the last cause of each id is found under it, and any other id is as
before. If not, the error of the first save that fails is answered: the causes before that one
are saved, and none after it is. A blank name, or a save that fails in tables or over a link
that is up or down for the whole time, leaves the target as the saves before it have left it.
The target may be behind a cache, and anything may fail; new causes get ids that a file has
not in use. -/
theorem transfer_stops_at_failure (fresh : Nat → String) (source target : KnowledgeBase)
    (hfresh : target.backing.OnFile → ∀ live s, causes source = .ok live s →
      SparesAll fresh live target) :
    (∃ e s, causes source = .error e s ∧ transfer fresh source target = (.error e, s, target)) ∨
    ∃ live s, causes source = .ok live s ∧
      ((∃ t, transfer fresh source target = (.ok live.length, s, t) ∧
          ∀ id, t.found id = target.foundAfter (identifiedAll fresh live) id) ∨
        ∃ front c back mid e t, live = front ++ c :: back ∧
          saveAll (fun n => fresh (n + back.length + 1)) front target = .ok () mid ∧
          (∀ id, mid.found id = target.foundAfter
            (identifiedAll (fun n => fresh (n + back.length + 1)) front) id) ∧
          save (fresh back.length) c mid = .error e t ∧
          transfer fresh source target = (.error e, s, t) ∧
          (Text.allBlank c.name = true → e = .cause .emptyName ∧ t = mid) ∧
          (mid.backing.Steady → t = mid)) := by
  cases hlist : causes source with
  | error e s => exact .inl ⟨e, s, rfl, by rw [transfer, hlist]⟩
  | ok live s =>
    have htransfer := transfer_eq fresh hlist target
    refine .inr ⟨live, s, rfl, ?_⟩
    obtain ⟨t, ht⟩ | ⟨front, c, back, mid, e, t, hlive, hmid, hfails, hrun⟩ :=
      saveAll_cases fresh live fun hfile => hfresh hfile live s hlist
    · rw [ht.run] at htransfer
      exact .inl ⟨t, htransfer, found_of_slot ht.slot_eq⟩
    · rw [hrun] at htransfer
      refine .inr ⟨front, c, back, mid, e, t, hlive, hmid.run, found_of_slot hmid.slot_eq,
        hfails, htransfer, fun hn => ?_, fun hsteady => ?_⟩
      · rw [save_blank hn] at hfails
        cases hfails
        exact ⟨rfl, rfl⟩
      · exact undone_save_steady hsteady _ c e t hfails

/-- A cause without an id is copied to a file, between two causes of one id. -/
theorem transfer_stops_at_failure_sample :
    let live := [twin "a", FailureCause.named "B" "", twin "c"]
    let source := ofFile ⟨live, none⟩
    let target := ofFile ⟨[twin "d"], none⟩
    (target.backing.OnFile → ∀ found s, causes source = .ok found s →
      SparesAll (fun _ => "n") found target) ∧
    ∃ t, transfer (fun _ => "n") source target = (.ok 3, source, t) ∧
      ∀ id, t.found id =
        target.foundAfter [twin "a", (FailureCause.named "B" "").identified "n", twin "c"] id := by
  intro live source target
  have hspares : SparesAll (fun _ => "n") live target := by decide +kernel
  have hfresh : target.backing.OnFile → ∀ found s, causes source = .ok found s →
      SparesAll (fun _ => "n") found target := by
    rintro - found s ⟨⟩
    exact hspares
  have hanswer : (transfer (fun _ => "n") source target).1 = .ok 3 := by decide +kernel
  refine ⟨hfresh, ?_⟩
  obtain ⟨e, s, hfails, -⟩ | ⟨found, s, hlist, hcases⟩ :=
    transfer_stops_at_failure (fun _ => "n") source target hfresh
  · cases hfails
  · cases hlist
    obtain ⟨t, hrun, hfound⟩ | ⟨-, -, -, -, e, t, -, -, -, -, hrun, -⟩ := hcases
    · exact ⟨t, hrun, hfound⟩
    · rw [hrun] at hanswer
      cases hanswer

/-- The text of a catalog with a cause that cannot be saved after one that can. -/
def halfSound : String :=
  "[\x7b\"id\":\"a\",\"name\":\"A\"\x7d,\x7b\"id\":\"b\",\"name\":\" \"\x7d]"

/-- A transfer from a file that opens with a nameless cause fails, and leaves the cause before it
in a target that was empty; one from a file with two causes of one id answers that there are
two, and only the second is found in the target. -/
theorem copied_before_failure : ∃ f g,
    CauseFile.openDisk (.ofText "causes.json" (some halfSound)) = .ok f ∧
    CauseFile.openDisk (.ofText "causes.json" (some twins)) = .ok g ∧
    (let target := ofTable .empty false false
    let failed := transfer (fun _ => "n") (ofFile f) target
    let merged := transfer (fun _ => "n") (ofFile g) target
    target.replies [.get "a", .names] = [.ok (.found none), .ok (.names [])] ∧
    failed.1 = .error (.cause .emptyName) ∧
    failed.2.2.replies [.names] = [.ok (.names [⟨"a", "A"⟩])] ∧
    merged.1 = .ok 2 ∧ merged.2.2.replies [.names] = [.ok (.names [⟨"x", "b"⟩])]) := by
  have hopen : CauseFile.openDisk (.ofText "causes.json" (some halfSound)) =
      .ok ⟨[⟨"a", "A", "", "", [], [], none, [], none⟩, ⟨"b", " ", "", "", [], [], none, [], none⟩],
        some (.ofText "causes.json" (some halfSound))⟩ := by decide +kernel
  have htwins : CauseFile.openDisk (.ofText "causes.json" (some twins)) =
      .ok ⟨[twin "a", twin "b"], some (.ofText "causes.json" (some twins))⟩ := by decide +kernel
  exact ⟨_, _, hopen, htwins, by decide +kernel⟩

end KnowledgeBase

end BuildTriage
