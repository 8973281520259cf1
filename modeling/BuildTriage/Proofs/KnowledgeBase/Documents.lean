import BuildTriage.Proofs.KnowledgeBase.Ids.Runs
import BuildTriage.Proofs.KnowledgeBase.Refinement
import Mathlib.Data.UInt

/-!
# Tables keep their texts readable

Tables change the text of a cause in place and never read it as a cause to do so. Still,
through any run of requests that see causes at times below 2^63, each text reads as a cause
that agrees with the columns of its row. The last occurrence that it has is the latest of the
time with which the cause was entered and the times at which it was seen since, so that
no request finds a text that does not read.
-/

namespace BuildTriage

namespace Catalog

/-- A cause that is seen was last seen at the latest of all times at which it was seen. -/
theorem touch_lastOccurred {c : FailureCause} {times : List UInt64}
    (h : c.lastOccurred = times.max?) (time : UInt64) :
    (c.touch time).lastOccurred = (time :: times).max? := by
  have hseen := sighting_eq [c.id] time c
  rw [if_pos (List.mem_singleton.mpr rfl)] at hseen
  rw [← hseen, List.max?_cons, ← h, sighting, if_pos (List.mem_singleton.mpr rfl)]
  cases c.lastOccurred with
  | none => rfl
  | some last => exact congrArg some (max_comm last time)

/-- The causes were last seen at the latest of the times that count for their ids. -/
def Dated (cat : Catalog) (times : String → List UInt64) : Prop :=
  ∀ c ∈ cat.causes, c.lastOccurred = (times c.id).max?

end Catalog

/-- The times that count for the last occurrence of the cause of an id after a request and its
reply: a cause that is entered brings its own, and being seen adds one. -/
def Request.times (id : String) (times : List UInt64) : Request → Reply → List UInt64
  | .add _ _, .ok (.cause c) | .save _ _, .ok (.cause c) =>
    if c.id = id then c.lastOccurred.toList else times
  | .lastSeen ids time, .ok _ => if id ∈ ids then time :: times else times
  | _, _ => times

/-- Causes are seen at times below 2^63 only. -/
def Request.Timely : Request → Prop
  | .lastSeen _ time => time.toNat < 2 ^ 63
  | _ => True

instance : (request : Request) → Decidable request.Timely
  | .lastSeen _ time => inferInstanceAs (Decidable (time.toNat < 2 ^ 63))
  | .add _ _ | .save _ _ | .remove _ _ | .get _ | .causes | .names | .shallow | .categories =>
    inferInstanceAs (Decidable True)

namespace Catalog

variable {cat : Catalog} {times : String → List UInt64}

/-- A cause that is entered is dated by its own time. -/
theorem Dated.enter (h : cat.Dated times) (c : FailureCause) {other : Catalog}
    (ho : ∀ d ∈ other.causes, d = c ∨ d ∈ cat.causes ∧ d.id ≠ c.id) :
    other.Dated fun id => if c.id = id then c.lastOccurred.toList else times id := by
  intro d hd
  rcases ho d hd with rfl | ⟨hold, hid⟩
  · simp only [if_true]
    cases d.lastOccurred <;> rfl
  · simp only [Ne.symm hid, if_false]
    exact h d hold

/-- A cause under a new id stands beside the others. -/
theorem mem_add {c : FailureCause} (hid : c.id ∉ cat.ids) {d : FailureCause}
    (hd : d ∈ (cat.add c).causes) : d = c ∨ d ∈ cat.causes ∧ d.id ≠ c.id := by
  simp only [add, hid, dite_false, append, List.mem_append, List.mem_singleton] at hd
  rcases hd with hold | rfl
  · refine .inr ⟨hold, fun he => hid ?_⟩
    exact he ▸ List.mem_map.mpr ⟨d, hold, rfl⟩
  · exact .inl rfl

/-- A cause that is saved takes the place of the one of its id. -/
theorem mem_save {c d : FailureCause} (hd : d ∈ (cat.save c).causes) :
    d = c ∨ d ∈ cat.causes ∧ d.id ≠ c.id := by
  by_cases hid : c.id ∈ cat.ids
  · simp only [save, hid, dite_true, adjust, List.mem_map] at hd
    obtain ⟨old, hold, rfl⟩ := hd
    unfold replacement
    split
    · exact .inl rfl
    · next hne => exact .inr ⟨hold, hne⟩
  · have hsame : cat.save c = cat.add c := by
      simp only [save, add, hid, dite_false]
    exact mem_add hid (hsame ▸ hd)

/-- A tombstone leaves the last occurrences as they are. -/
theorem Dated.remove (h : cat.Dated times) (id : String) (stone : Tombstone) :
    (cat.remove id stone).Dated times := by
  intro d hd
  obtain ⟨c, hc, rfl⟩ := List.mem_map.mp hd
  unfold burial
  split
  · exact h c hc
  · exact h c hc

/-- Being seen adds a time for each of the causes that are seen. -/
theorem Dated.lastSeen (h : cat.Dated times) (ids : List String) (time : UInt64) :
    (cat.lastSeen ids time).Dated fun id => if id ∈ ids then time :: times id else times id := by
  intro d hd
  obtain ⟨c, hc, rfl⟩ := List.mem_map.mp hd
  have hkeep : (sighting ids time c).id = c.id := by unfold sighting; split <;> rfl
  simp only [hkeep]
  rw [sighting_eq]
  by_cases hid : c.id ∈ ids
  · rw [if_pos hid, if_pos hid]
    exact touch_lastOccurred (h c hc) time
  · rw [if_neg hid, if_neg hid]
    exact h c hc

/-- Whatever a catalog accepts dates its causes as the request and its reply say. -/
theorem Dated.perform (h : cat.Dated times) {request : Request} (hr : cat.Accepts request) :
    (cat.perform request).2.Dated fun id =>
      request.times id (times id) (cat.perform request).1 := by
  cases request with
  | add fresh cause =>
    simp only [Catalog.perform]
    split
    · exact h
    · exact h.enter _ fun d hd => mem_add hr hd
  | save fresh cause =>
    simp only [Catalog.perform]
    split
    · exact h
    · split
      · next hid =>
        have hentry : (entry fresh cause).id ∉ cat.ids := Accepts.entry_fresh hr hid
        exact h.enter _ fun d hd => mem_add hentry hd
      · exact h.enter _ fun d hd => mem_save hd
  | remove id stone => exact h.remove id stone
  | lastSeen ids time => exact h.lastSeen ids time
  | get | causes | names | shallow | categories => exact h

/-- What a catalog does not accept, of what is timely, is a cause under an id in use. -/
theorem exists_of_not_accepts {request : Request} (ht : request.Timely)
    (hr : ¬cat.Accepts request) :
    ∃ fresh cause, (entry fresh cause).id ∈ cat.ids ∧
      (request = .add fresh cause ∨ request = .save fresh cause ∧ cause.id = "") := by
  cases request with
  | add fresh cause => exact ⟨fresh, cause, not_not.mp hr, .inl rfl⟩
  | save fresh cause =>
    obtain ⟨hid, hfresh⟩ := Classical.not_imp.mp hr
    have hentry : (entry fresh cause).id ∈ cat.ids := by
      simp only [entry, hid, if_true]
      exact not_not.mp hfresh
    exact ⟨fresh, cause, hentry, .inr ⟨rfl, hid⟩⟩
  | lastSeen ids time => exact absurd ht hr
  | remove | get | causes | names | shallow | categories => exact absurd trivial hr

/-- A catalog refuses no request because of a text. -/
theorem perform_readable (cat : Catalog) (request : Request) (fault : Json.Fault) :
    (cat.perform request).1 ≠ .error (.unreadable fault) := by
  intro h
  cases request with
  | add fresh cause =>
    simp only [Catalog.perform] at h
    split at h <;> cases h
  | save fresh cause =>
    simp only [Catalog.perform] at h
    split at h
    · cases h
    · split at h <;> cases h
  | remove | lastSeen | get | causes | names | shallow | categories => cases h

end Catalog

/-- The causes are in tables. -/
def Backing.InTables : Backing → Prop
  | .table _ => True
  | .file _ | .hash _ => False

/-- No operation moves the causes out of the tables. -/
theorem Backing.leaves_inTables {α : Type} (op : (σ : Type) → [CauseStore σ] → Op σ α)
    {b : Backing} (hb : b.InTables) : Leaves InTables (run op) b fun _ _ => True := by
  cases b with
  | table b =>
    have hany : Leaves (fun _ => True) (op (DocumentBase CauseTable)) b fun _ _ => True :=
      ⟨fun _ _ _ => ⟨trivial, trivial⟩, fun _ _ _ => trivial⟩
    exact hany.wrap rfl (fun _ h => h) fun _ _ _ _ => trivial
  | file b => exact hb.elim
  | hash b => exact hb.elim

namespace DocumentBase

variable {b : DocumentBase CauseTable} {cat : Catalog}

/-- Tables refuse a cause under an id in use, if they have not refused it for its name. -/
theorem add_refused (hs : Stands CauseTable.Stands b cat) {fresh : String} {cause : FailureCause}
    (hid : (Catalog.entry fresh cause).id ∈ cat.ids) :
    ∃ e, add fresh cause b = .error e b ∧ ∀ fault, e ≠ .unreadable fault := by
  by_cases hn : Text.allBlank cause.name = true
  · exact ⟨_, bind_error (checked_error hn b), nofun⟩
  · exact ⟨_, add_of_refused hn (CauseTable.insert_known hs hid), nofun⟩

end DocumentBase

namespace KnowledgeBase

variable {k : KnowledgeBase} {cat : Catalog} {times : String → List UInt64}

/-- No request moves the causes out of the tables, or puts a cache before them. -/
theorem leaves_perform (hk : Plain Backing.InTables k) (request : Request) :
    Leaves (Plain Backing.InTables) (perform request) k fun _ _ => True := by
  have hchange : ∀ {α : Type} (op : (σ : Type) → [CauseStore σ] → Op σ α),
      Leaves (Plain Backing.InTables) (change op) k fun _ _ => True := fun op =>
    (leaves_change hk (Backing.leaves_inTables op hk.2)).mono fun _ _ _ _ => trivial
  have hask : ∀ {α : Type} (op : (σ : Type) → [CauseStore σ] → Op σ α),
      Leaves (Plain Backing.InTables) (onBacking (Backing.run op)) k fun _ _ => True := fun op =>
    (leaves_onBacking hk (Backing.leaves_inTables op hk.2)).mono fun _ _ _ _ => trivial
  have hcauses : Leaves (Plain Backing.InTables) causes k fun _ _ => True := by
    have hkept := hask fun _ => CauseStore.causes
    rw [← keptCauses] at hkept
    constructor
    · rw [causes_eq hk.1]; exact hkept.ok
    · rw [causes_eq hk.1]; exact hkept.error
  cases request with
  | add fresh cause => exact (hchange _).map _
  | save fresh cause => exact (hchange _).map _
  | remove id stone => exact (hchange _).map _
  | lastSeen ids time => exact (hchange _).map _
  | get id => exact (hask _).map _
  | causes => exact hcauses.map _
  | names => exact Leaves.map _ hcauses.answer
  | shallow => exact Leaves.map _ hcauses.answer
  | categories =>
    refine Leaves.map _ (Leaves.get_bind ?_)
    rw [hk.1]
    exact (hask fun _ => CauseStore.causes).answer

/-- Tables that refuse to add a cause under an id in use stay as they are. -/
theorem perform_refused (hk : Plain Backing.InTables k) (hs : Stands k cat) {request : Request}
    (ht : request.Timely) (hr : ¬cat.Accepts request) :
    ∃ e, perform request k = .error e k ∧ ∀ fault, e ≠ .unreadable fault := by
  obtain ⟨backing, cache⟩ := k
  obtain ⟨hcache, htables⟩ := hk
  simp only at hcache
  subst hcache
  cases backing with
  | file b => exact htables.elim
  | hash b => exact htables.elim
  | table b =>
    obtain ⟨fresh, cause, hid, hrequest⟩ := Catalog.exists_of_not_accepts ht hr
    obtain ⟨e, hadd, he⟩ := DocumentBase.add_refused hs.2 hid
    refine ⟨e, ?_, he⟩
    have hop : ∀ op : (σ : Type) → [CauseStore σ] → Op σ FailureCause,
        op (DocumentBase CauseTable) b = .error e b →
          (Answer.cause <$> change op) (⟨.table b, none⟩ : KnowledgeBase) =
            .error e ⟨.table b, none⟩ := by
      intro op hop
      have hback : onBacking (Backing.run op) ⟨.table b, none⟩ = .error e ⟨.table b, none⟩ := by
        simp only [onBacking, Backing.run, hop, Backing.wrap]
      rw [map_eq_pure_bind]
      exact bind_error (bind_error hback)
    rcases hrequest with rfl | ⟨rfl, hnew⟩
    · exact hop _ hadd
    · exact hop _ ((congrFun (DocumentBase.save_of_isNew hnew fresh) b).trans hadd)

/-- Tables without a cache keep a catalog whose causes are dated by the given times. -/
structure Dates (k : KnowledgeBase) (times : String → List UInt64) : Prop where
  /-- The causes are in tables, and there is no cache. -/
  plain : Plain Backing.InTables k
  /-- They are those of a catalog, dated by the times. -/
  dated : ∃ cat, Stands k cat ∧ cat.Dated times

/-- A request that is timely is not answered that a text does not read, and the causes are
dated by its reply. -/
theorem Dates.perform (h : Dates k times) {request : Request} (ht : request.Timely) :
    Dates (outcome (perform request) k).2
      (fun id => request.times id (times id) (outcome (perform request) k).1) ∧
    ∀ fault, (outcome (perform request) k).1 ≠ .error (.unreadable fault) := by
  obtain ⟨hk, cat, hs, hd⟩ := h
  have hplain := (leaves_perform hk request).outcome
  by_cases hr : cat.Accepts request
  · obtain ⟨hreply, hafter⟩ := (gives_perform request hs hr).outcome
    rw [hreply]
    exact ⟨⟨hplain, _, hafter, hd.perform hr⟩, cat.perform_readable request⟩
  · obtain ⟨e, hrun, he⟩ := perform_refused hk hs ht hr
    have hout : outcome (KnowledgeBase.perform request) k = (.error e, k) := by rw [outcome, hrun]
    rw [hout]
    refine ⟨⟨hk, cat, hs, fun c hc => ?_⟩, fun fault hf => he fault (Except.error.inj hf)⟩
    have hsame : request.times c.id (times c.id) (.error e) = times c.id := by
      cases request <;> rfl
    exact (hd c hc).trans (congrArg List.max? hsame.symm)

/-- The knowledge base after some requests, made one after the other. -/
def afterRequests (k : KnowledgeBase) (requests : List Request) : KnowledgeBase :=
  requests.foldl (fun k request => (outcome (KnowledgeBase.perform request) k).2) k

/-- The times that count for the last occurrence of the cause of an id after some requests, if
those given count before them. -/
def timesAfter (id : String) : List UInt64 → KnowledgeBase → List Request → List UInt64
  | times, _, [] => times
  | times, k, request :: rest =>
    timesAfter id (request.times id times (outcome (KnowledgeBase.perform request) k).1)
      (outcome (KnowledgeBase.perform request) k).2 rest

/-- The replies to a request and those after it. -/
theorem replies_cons (k : KnowledgeBase) (request : Request) (rest : List Request) :
    k.replies (request :: rest) = (outcome (KnowledgeBase.perform request) k).1 ::
      (outcome (KnowledgeBase.perform request) k).2.replies rest := by
  rw [replies, outcome]
  cases KnowledgeBase.perform request k with
  | ok a t => rfl
  | error e t => rfl

/-- Through any run of timely requests no text is found that does not read, and the causes are
dated by the replies. -/
theorem Dates.run (h : Dates k times) {requests : List Request}
    (ht : ∀ request ∈ requests, request.Timely) :
    Dates (k.afterRequests requests) (fun id => timesAfter id (times id) k requests) ∧
    ∀ reply ∈ k.replies requests, ∀ fault, reply ≠ .error (.unreadable fault) := by
  induction requests generalizing k times with
  | nil => exact ⟨h, nofun⟩
  | cons request rest ih =>
    obtain ⟨hfirst, hrest⟩ := List.forall_mem_cons.mp ht
    obtain ⟨hstep, hreply⟩ := h.perform hfirst
    obtain ⟨hrun, hreplies⟩ := ih hstep hrest
    rw [replies_cons]
    exact ⟨hrun, List.forall_mem_cons.mpr ⟨hreply, hreplies⟩⟩

/-- Through any run of requests that see causes at times below 2^63, tables that begin without
causes keep every text readable: it reads as a cause that has the id of its row and is removed
as its row says, and that was last seen at the latest of the time with which it was entered
and the times at which it was seen since. So every cause is found and listed, and no request
is answered that a text does not read. -/
theorem texts_readable (requests : List Request) (statistics successful : Bool)
    (h : ∀ request ∈ requests, request.Timely) :
    let begun := ofTable .empty statistics successful
    let k := begun.afterRequests requests
    (∃ b : DocumentBase CauseTable, k = ⟨.table b, none⟩ ∧ ∀ r ∈ b.store.rows, ∃ c,
      Json.decodeText FailureCause.decoder r.text = .ok c ∧ c.id = r.id ∧
      c.isRemoved = r.removed ∧ c.lastOccurred = (timesAfter r.id [] begun requests).max?) ∧
    (∀ id, ∃ found, (outcome (getCause id) k).1 = .ok found) ∧
    (∃ live, (outcome causes k).1 = .ok live) ∧
    ∀ reply ∈ begun.replies requests, ∀ fault, reply ≠ .error (.unreadable fault) := by
  intro begun k
  have hbegun : Dates begun fun _ => [] := ⟨⟨rfl, trivial⟩, .empty, ⟨rfl, .nil⟩, nofun⟩
  obtain ⟨⟨hplain, cat, hs, hdated⟩, hreplies⟩ := hbegun.run h
  have hget : ∀ id, Gives Stands (getCause id) k (.ok (cat.get id)) cat := fun id =>
    gives_onBacking (fun _ _ _ hf _ hk => hf.get id hk) hs
  refine ⟨?_, fun id => ⟨_, (hget id).outcome.1⟩, ⟨_, (gives_causes hs).outcome.1⟩, hreplies⟩
  change Plain Backing.InTables k at hplain
  change Stands k cat at hs
  clear_value k
  obtain ⟨backing, cache⟩ := k
  obtain ⟨hcache, htables⟩ := hplain
  simp only at hcache
  subst hcache
  cases backing with
  | file b => exact htables.elim
  | hash b => exact htables.elim
  | table b =>
    refine ⟨b, rfl, fun r hr => ?_⟩
    obtain ⟨c, hc, hkeeps⟩ := CauseTable.keeps_of_mem hs.2 hr
    obtain ⟨v, hv, hdepicts⟩ := hkeeps.depicts
    refine ⟨c, ?_, hkeeps.id_eq.symm, hkeeps.removed_eq.symm, ?_⟩
    · rw [hv, Json.decodeText_compact _ v hdepicts.exact, hdepicts.reads]
    · rw [hkeeps.id_eq]
      exact hdated c hc

/-- A cause that was seen later than any signed number says is added and seen again, and one
under the same id is refused. -/
def sampleSightings : List Request :=
  [.add "a" ⟨"", "A", "", "", [], [], some (2 ^ 64 - 1), [], none⟩, .lastSeen ["a", "b"] 5,
    .add "a" ⟨"", "B", "", "", [], [], none, [], none⟩]

/-- Two times count for the cause in the end: its own, and the one at which it was seen since. -/
theorem texts_readable_sample :
    let begun := ofTable .empty false false
    let k := begun.afterRequests sampleSightings
    (∀ request ∈ sampleSightings, request.Timely) ∧
    timesAfter "a" [] begun sampleSightings = [5, 2 ^ 64 - 1] ∧
    (∃ b : DocumentBase CauseTable, k = ⟨.table b, none⟩ ∧ ∀ r ∈ b.store.rows, ∃ c,
      Json.decodeText FailureCause.decoder r.text = .ok c ∧ c.id = r.id ∧
      c.isRemoved = r.removed ∧
      c.lastOccurred = (timesAfter r.id [] begun sampleSightings).max?) := by
  intro begun k
  have htimely : ∀ request ∈ sampleSightings, request.Timely := by decide +kernel
  have htimes : timesAfter "a" [] begun sampleSightings = [5, 2 ^ 64 - 1] := by
    decide +kernel
  obtain ⟨hrows, -⟩ := texts_readable sampleSightings false false htimely
  exact ⟨htimely, htimes, hrows⟩

/-- A cause that has not been seen before and is seen at the time 2^63 can no longer be read:
the time is written as a negative number. Neither is the cause found, nor any cause listed. -/
theorem unreadable_after_late_sighting :
    let k := (ofTable .empty false false).afterRequests
      [.add "a" ⟨"", "A", "", "", [], [], none, [], none⟩, .lastSeen ["a"] (2 ^ 63)]
    (outcome (getCause "a") k).1 = .error (.unreadable .mismatch) ∧
    (outcome causes k).1 = .error (.unreadable .mismatch) := by
  decide +kernel

end KnowledgeBase

end BuildTriage
