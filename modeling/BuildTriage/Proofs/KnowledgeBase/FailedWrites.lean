import BuildTriage.KnowledgeBase.Outside
import BuildTriage.Proofs.KnowledgeBase.Documents

/-!
# A file that cannot be written falls behind its causes

Whatever is asked of causes on a file, they are changed in memory first and written once
afterwards. So a write that fails makes an error of the answer and leaves the file as it was,
while the causes in memory go on as if there were no file. The next write that succeeds
brings the file in step again.
-/

namespace BuildTriage

variable {σ α β : Type}

/-- A write puts the text in its place, or fails and leaves what is there; the path stays. -/
theorem CauseDisk.write_cases (d : CauseDisk) (text : String) :
    (d.write text).1.path = d.path ∧
      (((d.write text).2 = none ∧ (d.write text).1.text = some text) ∨
        ∃ reason, (d.write text).2 = some reason ∧ (d.write text).1.text = d.text) := by
  obtain ⟨path, old, beside, barrier, outcomes⟩ := d
  cases barrier with
  | some reason => exact ⟨rfl, .inr ⟨reason, rfl, rfl⟩⟩
  | none =>
    cases outcomes with
    | nil => exact ⟨rfl, .inl ⟨rfl, rfl⟩⟩
    | cons o rest =>
      cases o with
      | done => exact ⟨rfl, .inl ⟨rfl, rfl⟩⟩
      | writeFails left => exact ⟨rfl, .inr ⟨_, rfl, rfl⟩⟩
      | renameFails => exact ⟨rfl, .inr ⟨_, rfl, rfl⟩⟩

namespace CauseFile

/-- Causes are put into memory and written, if there is a file; they are answered for unless
the write fails. -/
def put (a : α) (now : List FailureCause) :
    Option CauseDisk → Except KnowledgeBaseError α × CauseFile
  | none => (.ok a, ⟨now, none⟩)
  | some d =>
    match d.write (textOf now) with
    | (written, none) => (.ok a, ⟨now, some written⟩)
    | (written, some reason) => (.error (.file d.path reason), ⟨now, some written⟩)

/-- On some causes, an operation does the same whatever the file is: it leaves all as it was,
or it changes the causes and writes them once. -/
inductive OneWrite (into : CauseFile → σ) (op : Op σ α) (causes : List FailureCause) : Prop where
  /-- Nothing is changed. -/
  | idle (out : Except KnowledgeBaseError α)
      (h : ∀ disk, outcome op (into ⟨causes, disk⟩) = (out, into ⟨causes, disk⟩))
  /-- The causes are changed and written. -/
  | writes (a : α) (now : List FailureCause)
      (h : ∀ disk, outcome op (into ⟨causes, disk⟩) =
        ((put a now disk).1, into (put a now disk).2))

section OneWrite

variable {into : CauseFile → σ} {op : Op σ α} {causes : List FailureCause}

/-- What an operation does on some causes is told by another that does the same there. -/
theorem OneWrite.congr {other : Op σ α} (hother : OneWrite into other causes)
    (h : ∀ disk, op (into ⟨causes, disk⟩) = other (into ⟨causes, disk⟩)) :
    OneWrite into op causes := by
  have hsame : ∀ disk, outcome op (into ⟨causes, disk⟩) = outcome other (into ⟨causes, disk⟩) :=
    fun disk => by unfold outcome; rw [h disk]
  cases hother with
  | idle out hidle => exact .idle out fun disk => (hsame disk).trans (hidle disk)
  | writes a now hwrites => exact .writes a now fun disk => (hsame disk).trans (hwrites disk)

theorem oneWrite_pure (a : α) : OneWrite into (pure a) causes := .idle (.ok a) fun _ => rfl

/-- What is answered is answered for by the write. -/
theorem put_map (f : α → β) (a : α) (now : List FailureCause) (disk : Option CauseDisk) :
    put (f a) now disk = ((put a now disk).1.map f, (put a now disk).2) := by
  cases disk with
  | none => rfl
  | some d =>
    simp only [put]
    cases d.write (textOf now) with
    | mk written failure => cases failure <;> rfl

theorem OneWrite.map (f : α → β) (h : OneWrite into op causes) :
    OneWrite into (f <$> op) causes := by
  cases h with
  | idle out h => exact .idle (out.map f) fun disk => by rw [outcome_map, h disk]
  | writes a now h =>
    exact .writes (f a) now fun disk => by rw [outcome_map, h disk, put_map]

/-- A cause is refused with nothing changed, or what follows the check is done. -/
theorem OneWrite.checked {cause : FailureCause} {f : Unit → Op σ α}
    (h : OneWrite into (f ()) causes) : OneWrite into (cause.checked >>= f) causes := by
  by_cases hn : Text.allBlank cause.name = true
  · exact .idle (.error (.cause .emptyName)) fun disk => by
      unfold outcome
      rw [bind_error (checked_error hn _)]
  · exact h.congr fun _ => bind_ok (checked_ok hn _)

/-- An operation on a part of a larger state. -/
theorem OneWrite.wrap {τ : Type} {large : Op τ α} (h : OneWrite into op causes) (f : σ → τ)
    (hop : ∀ disk, large (f (into ⟨causes, disk⟩)) = Backing.wrap f (op (into ⟨causes, disk⟩))) :
    OneWrite (fun s => f (into s)) large causes := by
  have hlarge : ∀ disk, outcome large (f (into ⟨causes, disk⟩)) =
      ((outcome op (into ⟨causes, disk⟩)).1, f (outcome op (into ⟨causes, disk⟩)).2) := by
    intro disk
    unfold outcome
    rw [hop disk]
    cases op (into ⟨causes, disk⟩) <;> rfl
  cases h with
  | idle out h => exact .idle out fun disk => by rw [hlarge, h disk]
  | writes a now h => exact .writes a now fun disk => by rw [hlarge, h disk]

end OneWrite

variable {causes : List FailureCause}

/-- A change of the causes puts them into memory and writes them. -/
theorem outcome_change (f : List FailureCause → List FailureCause) (s : CauseFile) :
    outcome (change f) s = put () (f s.causes) s.disk := by
  obtain ⟨causes, disk⟩ := s
  cases disk with
  | none => rfl
  | some d =>
    have hpersist : outcome persist ⟨f causes, some d⟩ = put () (f causes) (some d) := by
      unfold outcome persist
      rw [bind_ok (get_ok _)]
      simp only [put]
      cases d.write (textOf (f causes)) with
      | mk written failure => cases failure <;> rfl
    exact hpersist

theorem oneWrite_change (f : List FailureCause → List FailureCause) :
    OneWrite id (change f) causes :=
  .writes () (f causes) fun disk => outcome_change f ⟨causes, disk⟩

theorem oneWrite_add (fresh : String) (cause : FailureCause) :
    OneWrite id (add fresh cause) causes := by
  refine .checked ?_
  exact (oneWrite_change _).map fun _ => cause.identified fresh

theorem oneWrite_save (fresh : String) (cause : FailureCause) :
    OneWrite id (save fresh cause) causes := by
  unfold save
  split
  · exact oneWrite_add fresh cause
  · refine .checked ?_
    cases hfind : find? cause.id causes with
    | some old =>
      have hreplace : OneWrite id (change (updateFirst cause.id fun _ => cause)) causes :=
        oneWrite_change _
      refine (hreplace.map fun _ => cause).congr fun disk => ?_
      rw [bind_ok (get_ok _)]
      simp only [id, hfind]
      rfl
    | none =>
      have happend : OneWrite id (change (· ++ [cause])) causes := oneWrite_change _
      refine (happend.map fun _ => cause).congr fun disk => ?_
      rw [bind_ok (get_ok _)]
      simp only [id, hfind]
      rfl

theorem oneWrite_remove (target : String) (stone : Tombstone) :
    OneWrite id (remove target stone) causes := by
  unfold remove
  cases hfind : find? target causes with
  | none =>
    refine (oneWrite_pure none).congr fun disk => ?_
    rw [bind_ok (get_ok _)]
    simp only [id, hfind]
  | some old =>
    have hbury : OneWrite id (change (updateFirst target (·.bury stone))) causes :=
      oneWrite_change _
    refine (hbury.map fun _ => some (old.bury stone)).congr fun disk => ?_
    rw [bind_ok (get_ok _)]
    simp only [id, hfind]
    rfl

theorem oneWrite_lastSeen (ids : List String) (time : UInt64) :
    OneWrite id (lastSeen ids time) causes := by
  unfold lastSeen
  by_cases hany : (causes.any fun c => ids.contains c.id && c.touches time) = true
  · have hsee : OneWrite id
        (change (List.map fun c => if ids.contains c.id then c.touch time else c)) causes :=
      oneWrite_change _
    refine hsee.congr fun disk => ?_
    rw [bind_ok (get_ok _), id, if_pos hany]
  · refine (oneWrite_pure ()).congr fun disk => ?_
    rw [bind_ok (get_ok _), id, if_neg hany]

end CauseFile

namespace KnowledgeBase

open CauseFile

variable {causes : List FailureCause}

/-- What a file does, a knowledge base on it does. -/
theorem oneWrite_onBacking {op : (σ : Type) → [CauseStore σ] → Op σ α}
    (h : OneWrite id (op CauseFile) causes) :
    OneWrite ofFile (onBacking (Backing.run op)) causes := by
  have hrun : OneWrite Backing.file (Backing.run op) causes := h.wrap Backing.file fun _ => rfl
  exact hrun.wrap (fun b => (⟨b, none⟩ : KnowledgeBase)) fun _ => rfl

/-- Without a cache a refresh changes nothing. -/
theorem updateCache_plain {k : KnowledgeBase} (h : k.cache = none) :
    updateCache k = .ok () k := by
  obtain ⟨backing, cache⟩ := k
  simp only at h
  subst h
  rfl

/-- There is no cache to refresh after a change. -/
theorem oneWrite_change {op : (σ : Type) → [CauseStore σ] → Op σ α}
    (h : OneWrite id (op CauseFile) causes) : OneWrite ofFile (change op) causes := by
  refine (oneWrite_onBacking h).congr fun disk => ?_
  cases hrun : onBacking (Backing.run op) (ofFile ⟨causes, disk⟩) with
  | error e t => exact bind_error hrun
  | ok a t =>
    have hcache : t.cache = none := by
      simp only [onBacking, Backing.run, ofFile] at hrun
      cases hop : op CauseFile ⟨causes, disk⟩ with
      | ok b u => rw [hop] at hrun; cases hrun; rfl
      | error e u => rw [hop] at hrun; cases hrun
    rw [change, bind_ok hrun, bind_ok (updateCache_plain hcache)]
    rfl

/-- The causes are listed from memory. -/
theorem oneWrite_causes : OneWrite ofFile KnowledgeBase.causes causes :=
  .idle (.ok (liveCauses causes)) fun _ => rfl

/-- Whatever is asked is answered from memory, and written once if it changes anything. -/
theorem oneWrite_perform (r : Request) : OneWrite ofFile (perform r) causes := by
  cases r with
  | add fresh cause => exact (oneWrite_change (oneWrite_add fresh cause)).map _
  | save fresh cause => exact (oneWrite_change (oneWrite_save fresh cause)).map _
  | remove id stone => exact (oneWrite_change (oneWrite_remove id stone)).map _
  | lastSeen ids time => exact (oneWrite_change (oneWrite_lastSeen ids time)).map _
  | get id => exact .idle (.ok (.found (find? id causes))) fun _ => rfl
  | causes => exact oneWrite_causes.map _
  | names => exact (oneWrite_causes.map namesOf).map _
  | shallow => exact (oneWrite_causes.map shallowOf).map _
  | categories => exact .idle (.ok (.categories (categoriesOf (liveCauses causes)))) fun _ => rfl

/-- A reply says that a file could not be written. -/
def Unwritten (path : String) (reply : Reply) : Prop := ∃ reason, reply = .error (.file path reason)

/-- What a request does to causes on a file, beside what it does to the same causes without
one: nothing, or a change that is in the file too, or a change that is not. -/
theorem perform_onFile (causes : List FailureCause) (d : CauseDisk) (r : Request) :
    (∃ reply, outcome (perform r) (ofFile ⟨causes, none⟩) = (reply, ofFile ⟨causes, none⟩) ∧
      outcome (perform r) (ofFile ⟨causes, some d⟩) = (reply, ofFile ⟨causes, some d⟩)) ∨
    ∃ answer now written,
      outcome (perform r) (ofFile ⟨causes, none⟩) = (.ok answer, ofFile ⟨now, none⟩) ∧
      written.path = d.path ∧
      ((outcome (perform r) (ofFile ⟨causes, some d⟩) = (.ok answer, ofFile ⟨now, some written⟩) ∧
          written.text = some (textOf now)) ∨
        ∃ reason, outcome (perform r) (ofFile ⟨causes, some d⟩) =
          (.error (.file d.path reason), ofFile ⟨now, some written⟩) ∧ written.text = d.text) := by
  have hone : OneWrite ofFile (perform r) causes := oneWrite_perform r
  cases hone with
  | idle out h => exact .inl ⟨out, h none, h (some d)⟩
  | writes a now h =>
    obtain ⟨hpath, hcases⟩ := d.write_cases (textOf now)
    have hput := h (some d)
    simp only [put] at hput
    refine .inr ⟨a, now, (d.write (textOf now)).1, h none, hpath, ?_⟩
    cases hw : d.write (textOf now) with
    | mk written failure =>
      rw [hw] at hput hcases
      cases failure with
      | none =>
        obtain ⟨-, htext⟩ | ⟨reason, hfails, -⟩ := hcases
        · exact .inl ⟨hput, htext⟩
        · cases hfails
      | some reason =>
        obtain ⟨hdone, -⟩ | ⟨-, -, htext⟩ := hcases
        · cases hdone
        · exact .inr ⟨reason, hput, htext⟩

/-- The file is as it was before some requests, or has the causes that were in memory at some
time; unless a write has failed since, these are the causes in memory in the end. -/
def Lags (causes : List FailureCause) (d : CauseDisk) (requests : List Request)
    (now : List FailureCause) (later : CauseDisk) : Prop :=
  ∃ before rest past, requests = before ++ rest ∧
    (ofFile ⟨causes, none⟩).afterRequests before = ofFile ⟨past, none⟩ ∧
    (later.text = some (textOf past) ∨ before = [] ∧ later.text = d.text) ∧
    ((∀ reply ∈ ((ofFile ⟨causes, some d⟩).afterRequests before).replies rest,
      ¬Unwritten d.path reply) → past = now)

/-- Where a file and its causes are after some requests, beside what the same requests make of
the causes without a file. -/
structure Trails (causes : List FailureCause) (d : CauseDisk) (requests : List Request)
    (now : List FailureCause) (later : CauseDisk) : Prop where
  /-- The causes without a file. -/
  unfiled : (ofFile ⟨causes, none⟩).afterRequests requests = ofFile ⟨now, none⟩
  /-- The causes in memory are the same. -/
  filed : (ofFile ⟨causes, some d⟩).afterRequests requests = ofFile ⟨now, some later⟩
  /-- The path of the file. -/
  path_eq : later.path = d.path
  /-- The replies are the same, except that writing fails in the place of some successes. -/
  replies : List.Forall₂ (fun reply plain => reply = plain ∨
      (Unwritten d.path reply ∧ ∃ answer, plain = .ok answer))
    ((ofFile ⟨causes, some d⟩).replies requests) ((ofFile ⟨causes, none⟩).replies requests)
  /-- The file is where the writes have brought it. -/
  text : Lags causes d requests now later

theorem causes_of_ofFile {causes other : List FailureCause} {disk disk' : Option CauseDisk}
    (h : ofFile ⟨causes, disk⟩ = ofFile ⟨other, disk'⟩) : causes = other := by
  injection h with h
  injection h with h
  injection h

section Cons

variable {causes next now : List FailureCause} {d written later : CauseDisk} {r : Request}
  {rest : List Request} {reply plain : Reply}

/-- The first request makes causes of which the file has all, or it leaves the file as it is:
then writing fails, or the causes stay too. -/
theorem Lags.cons
    (hunfiled : outcome (perform r) (ofFile ⟨causes, none⟩) = (plain, ofFile ⟨next, none⟩))
    (hfiled : outcome (perform r) (ofFile ⟨causes, some d⟩) =
      (reply, ofFile ⟨next, some written⟩))
    (hpath : written.path = d.path)
    (htext : (written.text = some (textOf next)) ∨
      (written.text = d.text ∧ (Unwritten d.path reply ∨ causes = next)))
    (h : Lags next written rest now later) : Lags causes d (r :: rest) now later := by
  obtain ⟨before, after, past, hrest, hpast, hlater, hsince⟩ := h
  have hunfiled' : (ofFile ⟨causes, none⟩).afterRequests (r :: before) =
      (ofFile ⟨next, none⟩).afterRequests before := by
    rw [afterRequests, List.foldl_cons, hunfiled]; rfl
  have hfiled' : (ofFile ⟨causes, some d⟩).afterRequests (r :: before) =
      (ofFile ⟨next, some written⟩).afterRequests before := by
    rw [afterRequests, List.foldl_cons, hfiled]; rfl
  rw [hpath] at hsince
  have hwritten : later.text = some (textOf past) → Lags causes d (r :: rest) now later :=
    fun hpasttext => ⟨r :: before, after, past, by rw [hrest, List.cons_append],
      hunfiled'.trans hpast, .inl hpasttext, by rw [hfiled']; exact hsince⟩
  obtain hpasttext | ⟨rfl, hfirst⟩ := hlater
  · exact hwritten hpasttext
  · have hnext : next = past := causes_of_ofFile hpast
    obtain hall | ⟨hsame, hcause⟩ := htext
    · exact hwritten (by rw [hfirst, hall, hnext])
    · refine ⟨[], r :: rest, causes, rfl, rfl, .inr ⟨rfl, hfirst.trans hsame⟩, fun hnone => ?_⟩
      rw [afterRequests, List.foldl_nil, replies_cons, hfiled, List.forall_mem_cons] at hnone
      obtain hfails | hstill := hcause
      · exact absurd hfails hnone.1
      · rw [hstill, hnext]
        rw [List.nil_append] at hrest
        exact hsince (hrest ▸ hnone.2)

/-- One request comes before the others. -/
theorem Trails.cons
    (hunfiled : outcome (perform r) (ofFile ⟨causes, none⟩) = (plain, ofFile ⟨next, none⟩))
    (hfiled : outcome (perform r) (ofFile ⟨causes, some d⟩) =
      (reply, ofFile ⟨next, some written⟩))
    (hpath : written.path = d.path)
    (hreply : reply = plain ∨ (Unwritten d.path reply ∧ ∃ answer, plain = .ok answer))
    (htext : (written.text = some (textOf next)) ∨
      (written.text = d.text ∧ (Unwritten d.path reply ∨ causes = next)))
    (h : Trails next written rest now later) : Trails causes d (r :: rest) now later where
  unfiled := by
    rw [afterRequests, List.foldl_cons, hunfiled]
    exact h.unfiled
  filed := by
    rw [afterRequests, List.foldl_cons, hfiled]
    exact h.filed
  path_eq := h.path_eq.trans hpath
  replies := by
    rw [replies_cons, replies_cons, hunfiled, hfiled]
    exact .cons hreply (hpath ▸ h.replies)
  text := h.text.cons hunfiled hfiled hpath htext

end Cons

/-- Through any run of requests, with any writes failing, a file trails its causes. -/
theorem trails (causes : List FailureCause) (d : CauseDisk) (requests : List Request) :
    ∃ now later, Trails causes d requests now later := by
  induction requests generalizing causes d with
  | nil =>
    exact ⟨causes, d, rfl, rfl, rfl, .nil, [], [], causes, rfl, rfl, .inr ⟨rfl, rfl⟩, fun _ => rfl⟩
  | cons r rest ih =>
    obtain ⟨reply, hunfiled, hfiled⟩ | ⟨answer, next, written, hunfiled, hpath, hwrite⟩ :=
      perform_onFile causes d r
    · obtain ⟨now, later, h⟩ := ih causes d
      exact ⟨now, later, h.cons hunfiled hfiled rfl (.inl rfl) (.inr ⟨rfl, .inr rfl⟩)⟩
    · obtain ⟨now, later, h⟩ := ih next written
      obtain ⟨hfiled, htext⟩ | ⟨reason, hfiled, htext⟩ := hwrite
      · exact ⟨now, later, h.cons hunfiled hfiled hpath (.inl rfl) (.inl htext)⟩
      · have hfails : Unwritten d.path (.error (.file d.path reason)) := ⟨reason, rfl⟩
        exact ⟨now, later, h.cons hunfiled hfiled hpath (.inr ⟨hfails, answer, rfl⟩)
          (.inr ⟨htext, .inl hfails⟩)⟩

/-- What is opened from a file depends on the text that is there. -/
theorem openDisk_of_text {d other : CauseDisk} {f : CauseFile} (h : openDisk d = .ok f)
    (htext : other.text = d.text) : openDisk other = .ok ⟨f.causes, some other⟩ := by
  unfold openDisk at h ⊢
  rw [htext]
  split at h
  case h_1 hnone => cases h; rfl
  case h_2 text hsome =>
    split at h
    case h_1 causes hcauses => cases h; rfl
    case h_2 => cases h

/-- If a request to causes on a file answers an error, either the request is refused without a
file as well and nothing is changed, or writing has failed. In that case the file opens with
the causes that it had before, and the causes in memory are changed as the request changes
them without a file, where it succeeds. Through any run of requests the causes in memory stay
those of a knowledge base without a file, and the file trails them: it has the causes that were
there when it was written last, which are those in memory unless a write has failed since. -/
theorem failed_writes_trail (causes : List FailureCause) (d : CauseDisk) (r : Request)
    (requests : List Request) :
    (∀ e t, outcome (perform r) (ofFile ⟨causes, some d⟩) = (.error e, t) →
      (outcome (perform r) (ofFile ⟨causes, none⟩) = (.error e, ofFile ⟨causes, none⟩) ∧
        t = ofFile ⟨causes, some d⟩) ∨
      ∃ reason answer now later, e = .file d.path reason ∧ t = ofFile ⟨now, some later⟩ ∧
        outcome (perform r) (ofFile ⟨causes, none⟩) = (.ok answer, ofFile ⟨now, none⟩) ∧
        later.text = d.text ∧
        ∀ f, openDisk d = .ok f → t.reopen true true = .ok (ofFile ⟨f.causes, some later⟩)) ∧
    ∃ now later, Trails causes d requests now later := by
  refine ⟨fun e t hrun => ?_, trails causes d requests⟩
  obtain ⟨reply, hunfiled, hfiled⟩ | ⟨answer, now, written, hunfiled, -, hwrite⟩ :=
    perform_onFile causes d r
  · rw [hfiled] at hrun
    cases hrun
    exact .inl ⟨hunfiled, rfl⟩
  · obtain ⟨hfiled, -⟩ | ⟨reason, hfiled, htext⟩ := hwrite
    · rw [hfiled] at hrun
      cases hrun
    · rw [hfiled] at hrun
      cases hrun
      refine .inr ⟨reason, answer, now, written, rfl, rfl, hunfiled, htext, fun f hopen => ?_⟩
      simp only [reopen, ofFile, openDisk_of_text hopen htext]
      rfl

/-- A catalog without causes, on a file that is not there yet; the first text that is written
beside it cannot take its place. -/
def besideOnly : CauseDisk := ⟨"causes.json", none, none, none, [.renameFails]⟩

/-- A cause whose file cannot be written is saved as it is without a file, and the file opens
without it. -/
theorem failed_writes_trail_sample : ∃ t answer now later,
    outcome (perform (.save "n" (.named "A" ""))) (ofFile ⟨[], some besideOnly⟩) =
      (.error (.file "causes.json" "write failed"), t) ∧
    outcome (perform (.save "n" (.named "A" ""))) (ofFile ⟨[], none⟩) =
      (.ok answer, ofFile ⟨now, none⟩) ∧
    t = ofFile ⟨now, some later⟩ ∧ t.reopen true true = .ok (ofFile ⟨[], some later⟩) := by
  have hfails : (outcome (perform (.save "n" (.named "A" ""))) (ofFile ⟨[], some besideOnly⟩)).1 =
      .error (.file "causes.json" "write failed") := by decide +kernel
  have hunfiled : (outcome (perform (.save "n" (.named "A" ""))) (ofFile ⟨[], none⟩)).1 =
      .ok (.cause ⟨"n", "A", "", "", [], [], none, [], none⟩) := by decide +kernel
  obtain ⟨hstep, -⟩ := failed_writes_trail [] besideOnly (.save "n" (.named "A" "")) []
  obtain ⟨hrefused, -⟩ | ⟨reason, answer, now, later, -, ht, hsaved, -, hopen⟩ :=
    hstep _ _ (Prod.ext hfails rfl)
  · rw [hrefused] at hunfiled
    cases hunfiled
  · exact ⟨_, answer, now, later, Prod.ext hfails rfl, hsaved, ht, hopen _ rfl⟩

/-- A cause that cannot be written is found and listed although saving it has failed, where
nothing was before; and it is gone when the file is opened again. -/
theorem listed_though_unwritten :
    let k := ofFile ⟨[], some besideOnly⟩
    let failed := k.afterRequests [.save "n" (.named "A" "")]
    k.replies [.get "n", .names] = [.ok (.found none), .ok (.names [])] ∧
    k.replies [.save "n" (.named "A" "")] = [.error (.file "causes.json" "write failed")] ∧
    failed.replies [.get "n", .names] =
      [.ok (.found (some ⟨"n", "A", "", "", [], [], none, [], none⟩)), .ok (.names [⟨"n", "A"⟩])] ∧
    (failed.reopen true true).map (·.replies [.names]) = .ok [.ok (.names [])] := by
  decide +kernel

end KnowledgeBase

end BuildTriage
