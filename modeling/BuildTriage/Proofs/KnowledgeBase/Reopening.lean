import BuildTriage.KnowledgeBase.Outside
import BuildTriage.Proofs.Formats
import BuildTriage.Proofs.KnowledgeBase.Ids.Runs

/-!
# A knowledge base on a file can be dropped and opened again

As long as files can be written, the file of a knowledge base reads back as the causes in
memory after everything that is asked of it: what changes a cause also writes the file, and
what does not write leaves the causes as they are. So it makes no difference whether the
knowledge base goes on or is dropped and opened again.
-/

namespace BuildTriage

open Json

/-- The text takes its place, and nothing is left beside it. -/
theorem CauseDisk.Writable.written {d : CauseDisk} (h : d.Writable) (text : String) :
    (d.write text).1 =
      { d with text := some text, beside := none, outcomes := d.outcomes.tail } := by
  obtain ⟨path, old, beside, barrier, outcomes⟩ := d
  obtain ⟨hbarrier, hdone⟩ := h
  simp only at hbarrier hdone
  subst hbarrier
  cases outcomes with
  | nil => rfl
  | cons o rest =>
    obtain rfl := hdone o List.mem_cons_self
    rfl

namespace CauseFile

/-- The text of a file of causes reads as the causes. -/
theorem decodeText_textOf (causes : List FailureCause) :
    decodeText (.list FailureCause.decoder) (textOf causes) = .ok causes :=
  FailureCause.restores.list.indented causes

/-- What a file that opens says of the causes. -/
theorem openDisk_ok {disk : CauseDisk} {f : CauseFile} (h : openDisk disk = .ok f) :
    f.disk = some disk ∧ (disk.text = none → f.causes = []) ∧
      ∀ text, disk.text = some text →
        decodeText (.list FailureCause.decoder) text = .ok f.causes := by
  unfold openDisk at h
  split at h
  case h_1 hnone =>
    cases h
    exact ⟨rfl, fun _ => rfl, fun text htext => absurd (hnone.symm.trans htext) nofun⟩
  case h_2 text htext =>
    split at h
    case h_1 causes hcauses =>
      cases h
      refine ⟨rfl, fun hnone => absurd (hnone.symm.trans htext) nofun, fun text' htext' => ?_⟩
      rw [Option.some.inj (htext'.symm.trans htext)]
      exact hcauses
    case h_2 => cases h

/-- The causes are those that the file has, and no write fails. -/
structure Mirrors (disk : CauseDisk) (s : CauseFile) : Prop where
  /-- The file. -/
  disk_eq : s.disk = some disk
  /-- No write fails. -/
  writable : disk.Writable
  /-- The file opens with the causes in memory. -/
  opens : openDisk disk = .ok s

/-- The causes are those of a file that was another one before, at the same path; what is
beside it was there before. -/
def Mirrored (first : CauseDisk) (s : CauseFile) : Prop :=
  ∃ disk, Mirrors disk s ∧ disk.path = first.path ∧ (first.beside = none → disk.beside = none)

section Leaves

variable {first : CauseDisk} {s : CauseFile}

/-- A change of the causes reaches the file. -/
theorem mirrored_change (f : List FailureCause → List FailureCause) (hs : Mirrored first s) :
    Leaves (Mirrored first) (change f) s fun _ _ => True := by
  obtain ⟨disk, hm, hpath, -⟩ := hs
  have hwritable : ∀ d, s.disk = some d → d.Writable := by
    intro d hd
    obtain rfl := Option.some.inj (hm.disk_eq.symm.trans hd)
    exact hm.writable
  have hchange := change_ok f hwritable
  rw [hm.disk_eq, Option.map_some] at hchange
  refine ⟨fun _ t ht => ⟨?_, trivial⟩, fun _ t ht => ?_⟩
  · rw [hchange] at ht
    cases ht
    have hwritten := hm.writable.written (textOf (f s.causes))
    refine ⟨_, ⟨rfl, (hm.writable.write _).2, ?_⟩, by rw [hwritten, hpath], by simp [hwritten]⟩
    simp only [openDisk, hwritten, decodeText_textOf]
  · rw [hchange] at ht
    cases ht

theorem mirrored_add (fresh : String) (cause : FailureCause) (hs : Mirrored first s) :
    Leaves (Mirrored first) (add fresh cause) s fun _ _ => True := by
  refine (leaves_checked cause hs).bind ?_
  rintro _ _ hs rfl
  exact (mirrored_change _ hs).answer

theorem mirrored_save (fresh : String) (cause : FailureCause) (hs : Mirrored first s) :
    Leaves (Mirrored first) (save fresh cause) s fun _ _ => True := by
  unfold save
  split
  · exact mirrored_add fresh cause hs
  · refine (leaves_checked cause hs).bind ?_
    rintro _ _ hs rfl
    refine Leaves.get_bind ?_
    split
    · exact (mirrored_change _ hs).answer
    · exact (mirrored_change _ hs).answer

/-- Nothing is written where no cause has the id. -/
theorem mirrored_remove (id : String) (stone : Tombstone) (hs : Mirrored first s) :
    Leaves (Mirrored first) (remove id stone) s fun _ _ => True := by
  refine Leaves.get_bind ?_
  split
  · exact leaves_pure hs trivial
  · exact (mirrored_change _ hs).answer

/-- Nothing is written where no last occurrence moves. -/
theorem mirrored_lastSeen (ids : List String) (time : UInt64) (hs : Mirrored first s) :
    Leaves (Mirrored first) (lastSeen ids time) s fun _ _ => True := by
  refine Leaves.get_bind ?_
  split
  · exact mirrored_change _ hs
  · exact leaves_pure hs trivial

end Leaves

end CauseFile

namespace Backing

/-- The causes are kept in a file, which has them. -/
def Mirrored (first : CauseDisk) : Backing → Prop
  | .file s => s.Mirrored first
  | .table _ | .hash _ => False

variable {α : Type} {first : CauseDisk}

/-- What keeps causes in step with their file keeps the place so. -/
theorem mirrored_run {op : (σ : Type) → [CauseStore σ] → Op σ α}
    (h : ∀ s, CauseFile.Mirrored first s →
      Leaves (CauseFile.Mirrored first) (op CauseFile) s fun _ _ => True)
    {b : Backing} (hb : b.Mirrored first) :
    Leaves (Mirrored first) (run op) b fun _ _ => True := by
  cases b with
  | file s => exact (h s hb).wrap rfl (fun _ ht => ht) fun _ _ _ _ => trivial
  | table b => exact hb.elim
  | hash b => exact hb.elim

end Backing

namespace KnowledgeBase

/-- What is done with a knowledge base. -/
inductive Use where
  /-- Something is asked of it. -/
  | request (r : Request)
  /-- The live causes of another one are copied into it. -/
  | convert (fresh : Nat → String) (live : List FailureCause)
  /-- It is dropped and opened again. -/
  | reopen

/-- What a use answers: a request its answer, and a copy how many causes there were. -/
abbrev Response := Except KnowledgeBaseError (Answer ⊕ Nat)

/-- The response of an operation, and what it leaves. -/
def respond (op : Op KnowledgeBase (Answer ⊕ Nat)) (k : KnowledgeBase) :
    List Response × KnowledgeBase :=
  ([(outcome op k).1], (outcome op k).2)

/-- What a use answers, and the knowledge base afterwards. Opening answers only if it fails. -/
def use (k : KnowledgeBase) : Use → List Response × KnowledgeBase
  | .request r => respond (.inl <$> perform r) k
  | .convert fresh live => respond (.inr <$> convertFrom fresh live) k
  | .reopen =>
    match k.reopen true true with
    | .ok t => ([], t)
    | .error e => ([.error e], k)

/-- The responses to some uses, one after the other. -/
def responses : KnowledgeBase → List Use → List Response
  | _, [] => []
  | k, u :: rest => (k.use u).1 ++ (k.use u).2.responses rest

/-- The knowledge base after some uses, one after the other. -/
def leftBy (k : KnowledgeBase) (uses : List Use) : KnowledgeBase :=
  uses.foldl (fun k u => (k.use u).2) k

variable {α : Type} {k : KnowledgeBase} {first : CauseDisk}

theorem responses_append (k : KnowledgeBase) (before after : List Use) :
    k.responses (before ++ after) = k.responses before ++ (k.leftBy before).responses after := by
  induction before generalizing k with
  | nil => rfl
  | cons u rest ih =>
    simp only [List.cons_append, responses, ih, List.append_assoc, leftBy, List.foldl_cons]

/-- Without a cache, a knowledge base on a file that has its causes. -/
abbrev InStep (first : CauseDisk) (k : KnowledgeBase) : Prop := Plain (Backing.Mirrored first) k

/-- What leaves the place where causes are kept in step leaves the knowledge base so. -/
theorem inStep_onBacking {op : (σ : Type) → [CauseStore σ] → Op σ α}
    (h : ∀ s, CauseFile.Mirrored first s →
      Leaves (CauseFile.Mirrored first) (op CauseFile) s fun _ _ => True)
    (hk : InStep first k) :
    Leaves (InStep first) (onBacking (Backing.run op)) k fun _ t => t.cache = none :=
  (leaves_onBacking hk (Backing.mirrored_run h hk.2)).mono fun _ _ _ ht => ht.1

theorem inStep_change {op : (σ : Type) → [CauseStore σ] → Op σ α}
    (h : ∀ s, CauseFile.Mirrored first s →
      Leaves (CauseFile.Mirrored first) (op CauseFile) s fun _ _ => True)
    (hk : InStep first k) : Leaves (InStep first) (change op) k fun _ _ => True :=
  (leaves_change hk (Backing.mirrored_run h hk.2)).mono fun _ _ _ _ => trivial

theorem inStep_save (fresh : String) (cause : FailureCause) (hk : InStep first k) :
    Leaves (InStep first) (save fresh cause) k fun _ _ => True :=
  inStep_change (fun _ hs => CauseFile.mirrored_save fresh cause hs) hk

theorem inStep_keptCauses (hk : InStep first k) :
    Leaves (InStep first) keptCauses k fun _ t => t.cache = none :=
  inStep_onBacking (fun _ hs => Leaves.get_bind (leaves_pure hs trivial)) hk

/-- Listing the causes leaves the knowledge base in step. -/
theorem inStep_causes (hk : InStep first k) : Leaves (InStep first) causes k fun _ _ => True := by
  have hkept := inStep_keptCauses hk
  have hsame : causes k = keptCauses k := causes_eq hk.1
  exact ⟨fun a t h => ⟨(hkept.ok a t (hsame ▸ h)).1, trivial⟩,
    fun e t h => hkept.error e t (hsame ▸ h)⟩

/-- Listing the categories leaves the knowledge base in step. -/
theorem inStep_categories (hk : InStep first k) :
    Leaves (InStep first) categories k fun _ _ => True := by
  refine Leaves.get_bind ?_
  rw [hk.1]
  exact (inStep_keptCauses hk).answer

/-- Whatever is asked leaves the knowledge base in step. -/
theorem inStep_perform (r : Request) (hk : InStep first k) :
    Leaves (InStep first) (perform r) k fun _ _ => True := by
  cases r with
  | add fresh cause =>
    exact (inStep_change (fun _ hs => CauseFile.mirrored_add fresh cause hs) hk).map _
  | save fresh cause => exact (inStep_save fresh cause hk).map _
  | remove id stone =>
    exact (inStep_change (fun _ hs => CauseFile.mirrored_remove id stone hs) hk).map _
  | lastSeen ids time =>
    exact (inStep_change (fun _ hs => CauseFile.mirrored_lastSeen ids time hs) hk).map _
  | get id =>
    refine Leaves.map _ ((inStep_onBacking (fun _ hs => ?_) hk).mono fun _ _ _ _ => trivial)
    exact Leaves.get_bind (leaves_pure hs trivial)
  | causes => exact (inStep_causes hk).map _
  | names => exact (inStep_causes hk).answer.map _
  | shallow => exact (inStep_causes hk).answer.map _
  | categories => exact (inStep_categories hk).map _

/-- Copying causes, all or as far as they are valid, leaves the knowledge base in step. -/
theorem inStep_convertFrom (fresh : Nat → String) (live : List FailureCause)
    (hk : InStep first k) : Leaves (InStep first) (convertFrom fresh live) k fun _ _ => True := by
  have hsaveAll : Leaves (InStep first) (saveAll fresh live) k fun _ _ => True := by
    induction live generalizing k with
    | nil => exact leaves_pure hk trivial
    | cons c rest ih => exact (inStep_save _ c hk).bind fun _ _ ht _ => ih ht
  exact hsaveAll.answer

/-- What is asked is answered by a knowledge base that is still in step. -/
theorem InStep.respond {op : Op KnowledgeBase α} (f : α → Answer ⊕ Nat)
    (h : Leaves (InStep first) op k fun _ _ => True) :
    InStep first (respond (f <$> op) k).2 := by
  have hmap : Leaves (InStep first) (f <$> op) k fun _ _ => True := h.map f
  exact hmap.outcome

/-- A knowledge base in step that is dropped and opened again is the same one. -/
theorem InStep.reopen (hk : InStep first k) : k.reopen true true = .ok k := by
  obtain ⟨backing, cache⟩ := k
  obtain ⟨hcache, hb⟩ := hk
  simp only at hcache
  subst hcache
  cases backing with
  | file s =>
    obtain ⟨disk, hm, -⟩ := hb
    obtain ⟨causes, d⟩ := s
    have hdisk := hm.disk_eq
    simp only at hdisk
    subst hdisk
    simp only [KnowledgeBase.reopen, hm.opens]
    rfl
  | table b => exact hb.elim
  | hash b => exact hb.elim

theorem InStep.use_reopen (hk : InStep first k) : k.use .reopen = ([], k) := by
  simp only [KnowledgeBase.use, hk.reopen]

/-- A use leaves a knowledge base in step. -/
theorem InStep.use (hk : InStep first k) (u : Use) : InStep first (k.use u).2 := by
  cases u with
  | request r => exact .respond _ (inStep_perform r hk)
  | convert fresh live => exact .respond _ (inStep_convertFrom fresh live hk)
  | reopen =>
    rw [hk.use_reopen]
    exact hk

/-- Any run of uses leaves a knowledge base in step. -/
theorem InStep.leftBy (hk : InStep first k) (uses : List Use) : InStep first (k.leftBy uses) := by
  induction uses generalizing k with
  | nil => exact hk
  | cons u rest ih => exact ih (hk.use u)

/-- A knowledge base begins with a file that opens, or with none yet. Then whatever is done
with it, as long as files can be written, dropping it and opening it again at any point leaves
all responses the same; and after any run the file has exactly the causes in memory, in
order, or is not there yet and there are none, and nothing is left beside it. -/
theorem reopen_unobservable {disk : CauseDisk} {f : CauseFile}
    (hopen : CauseFile.openDisk disk = .ok f) (hwritable : disk.Writable)
    (before after : List Use) :
    (ofFile f).responses (before ++ .reopen :: after) =
      (ofFile f).responses (before ++ after) ∧
    ∃ causes d, (ofFile f).leftBy before = ofFile ⟨causes, some d⟩ ∧ d.path = disk.path ∧
      (d.text = none → causes = []) ∧
      (∀ text, d.text = some text →
        decodeText (.list FailureCause.decoder) text = .ok causes) ∧
      (disk.beside = none → d.beside = none) := by
  have hbegin : InStep disk (ofFile f) :=
    ⟨rfl, disk, ⟨(CauseFile.openDisk_ok hopen).1, hwritable, hopen⟩, rfl, id⟩
  have hleft := hbegin.leftBy before
  refine ⟨?_, ?_⟩
  · rw [responses_append, responses_append, responses, hleft.use_reopen, List.nil_append]
  · revert hleft
    generalize (ofFile f).leftBy before = k
    intro hleft
    obtain ⟨backing, cache⟩ := k
    obtain ⟨hcache, hb⟩ := hleft
    simp only at hcache
    subst hcache
    cases backing with
    | file s =>
      obtain ⟨d, hm, hpath, hbeside⟩ := hb
      obtain ⟨hd, hnone, htext⟩ := CauseFile.openDisk_ok hm.opens
      refine ⟨s.causes, d, ?_, hpath, hnone, htext, hbeside⟩
      rw [← hd]
      rfl
    | table b => exact hb.elim
    | hash b => exact hb.elim

/-- A change, a removal of a cause that is not there and a copy, before a file with two causes
of one id is opened again; the causes are listed afterwards. -/
theorem reopen_unobservable_sample : ∃ f,
    CauseFile.openDisk (.ofText "causes.json" (some twins)) = .ok f ∧
    (CauseDisk.ofText "causes.json" (some twins)).Writable ∧
    (ofFile f).responses [.request (.lastSeen ["x"] 4), .request (.remove "y" ⟨"u", 0⟩),
      .convert (fun _ => "n") [twin "c", ⟨"", "d", "", "", [], [], none, [], none⟩], .reopen,
      .request .names] =
    (ofFile f).responses [.request (.lastSeen ["x"] 4), .request (.remove "y" ⟨"u", 0⟩),
      .convert (fun _ => "n") [twin "c", ⟨"", "d", "", "", [], [], none, [], none⟩],
      .request .names] := by
  have hopen : CauseFile.openDisk (.ofText "causes.json" (some twins)) =
      .ok ⟨[twin "a", twin "b"], some (.ofText "causes.json" (some twins))⟩ := by decide +kernel
  have hwritable : (CauseDisk.ofText "causes.json" (some twins)).Writable := ⟨rfl, nofun⟩
  exact ⟨_, hopen, hwritable, (reopen_unobservable hopen hwritable [_, _, _] [_]).1⟩

end KnowledgeBase

end BuildTriage
