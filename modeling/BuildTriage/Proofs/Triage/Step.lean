import BuildTriage.Migration.Conversion

/-!
# The steps of a host

A step reads something of the host or changes something of it, and may fail. What a step made of
several parts leads to is told from its parts. A step that neither looks at the locks nor changes
them leads to the same whatever the locks are.
-/

namespace BuildTriage

namespace Triage

/-- The host with other locks. -/
def withLocks (t : Triage) (l : BuildLocks) : Triage := { t with locks := l }

/-- The host as if nobody had asked for a lock. -/
def unlocked (t : Triage) : Triage := t.withLocks .empty

variable (t : Triage) (l : BuildLocks)

@[simp] theorem withLocks_locks : (t.withLocks l).locks = l := rfl

@[simp] theorem withLocks_builds : (t.withLocks l).builds = t.builds := rfl

@[simp] theorem withLocks_kb : (t.withLocks l).kb = t.kb := rfl

/-- A step that begins by looking at the host. -/
theorem get_bind {α : Type} (f : Triage → TriageStep α) (t : Triage) : (get >>= f) t = f t t := rfl

theorem ask_ok {α : Type} {f : BuildStore → Except UnknownBuild α} {t : Triage} {a : α}
    (h : f t.builds = .ok a) : ask f t = .ok a t := by
  simp only [ask, get_bind, h]
  rfl

theorem ask_error {α : Type} {f : BuildStore → Except UnknownBuild α} {t : Triage}
    {e : UnknownBuild} (h : f t.builds = .error e) : ask f t = .error e t := by
  simp only [ask, get_bind, h]
  rfl

/-- What a step leads to when its first part succeeds. -/
theorem bind_ok {α β : Type} {s : TriageStep α} {f : α → TriageStep β} {t t' : Triage} {a : α}
    (h : s t = .ok a t') : (s >>= f) t = f a t' := by
  change EStateM.bind s f t = _
  rw [EStateM.bind, h]

/-- What a step leads to when its first part fails. -/
theorem bind_error {α β : Type} {s : TriageStep α} {f : α → TriageStep β} {t t' : Triage}
    {e : UnknownBuild} (h : s t = .error e t') : (s >>= f) t = .error e t' := by
  change EStateM.bind s f t = _
  rw [EStateM.bind, h]

theorem tell_ok {f : BuildStore → Except UnknownBuild BuildStore} {t : Triage}
    {builds : BuildStore} (h : f t.builds = .ok builds) :
    tell f t = .ok () { t with builds := builds } :=
  bind_ok (ask_ok h)

theorem tell_error {f : BuildStore → Except UnknownBuild BuildStore} {t : Triage}
    {e : UnknownBuild} (h : f t.builds = .error e) : tell f t = .error e t :=
  bind_error (ask_error h)

/-- Handing over a record changes the recorder at most. -/
theorem record_eq (info : BuildInfo) (found : List FoundCause) (t : Triage) :
    record info found t = .ok () { t with
      recorder := if t.kb.keepsStatistics then t.recorder.take info found else t.recorder } := by
  have hrun : record info found t = .ok () (if t.kb.keepsStatistics then
      { t with recorder := t.recorder.take info found } else t) := rfl
  rw [hrun]
  split <;> rfl

theorem catalog_ok {t : Triage} {causes : List FailureCause} {kb : KnowledgeBase}
    (h : KnowledgeBase.causes t.kb = .ok causes kb) :
    catalog t = .ok (some causes) { t with kb := kb } := by
  simp only [catalog, get_bind, h]
  rfl

theorem catalog_error {t : Triage} {e : KnowledgeBaseError} {kb : KnowledgeBase}
    (h : KnowledgeBase.causes t.kb = .error e kb) :
    catalog t = .ok none { t with kb := kb } := by
  simp only [catalog, get_bind, h]
  rfl

/-- A step that succeeds has a first part that does. -/
theorem exists_of_bind_ok {α β : Type} {s : TriageStep α} {f : α → TriageStep β} {t t' : Triage}
    {b : β} (h : (s >>= f) t = .ok b t') : ∃ a mid, s t = .ok a mid ∧ f a mid = .ok b t' := by
  cases hs : s t with
  | ok a mid => exact ⟨a, mid, rfl, (bind_ok hs).symm.trans h⟩
  | error e mid =>
    rw [bind_error hs] at h
    exact absurd h nofun

theorem exists_of_ask_ok {α : Type} {f : BuildStore → Except UnknownBuild α} {t t' : Triage}
    {a : α} (h : ask f t = .ok a t') : f t.builds = .ok a ∧ t' = t := by
  cases hf : f t.builds with
  | ok b =>
    rw [ask_ok hf] at h
    obtain ⟨rfl, rfl⟩ := EStateM.Result.ok.inj h
    exact ⟨rfl, rfl⟩
  | error e =>
    rw [ask_error hf] at h
    exact absurd h nofun

theorem exists_of_tell_ok {f : BuildStore → Except UnknownBuild BuildStore} {t t' : Triage}
    {u : Unit} (h : tell f t = .ok u t') :
    ∃ builds, f t.builds = .ok builds ∧ t' = { t with builds := builds } := by
  cases hf : f t.builds with
  | ok builds =>
    rw [tell_ok hf] at h
    exact ⟨builds, rfl, (EStateM.Result.ok.inj h).2.symm⟩
  | error e =>
    rw [tell_error hf] at h
    exact absurd h nofun

theorem fillFound_ok {t : Triage} {build : BuildRef} {n : Nat} {builds : BuildStore}
    (h : t.builds.fillFound build = .ok (n, builds)) :
    fillFound build t = .ok n { t with builds := builds } := by
  unfold fillFound
  rw [bind_ok (ask_ok h)]
  rfl

theorem fillFound_error {t : Triage} {build : BuildRef} {e : UnknownBuild}
    (h : t.builds.fillFound build = .error e) : fillFound build t = .error e t :=
  bind_error (ask_error h)

end Triage

namespace TriageStep

/-- What a step leads to, with other locks. -/
def relock {α : Type} (l : BuildLocks) :
    EStateM.Result UnknownBuild Triage α → EStateM.Result UnknownBuild Triage α
  | .ok a t => .ok a (t.withLocks l)
  | .error e t => .error e (t.withLocks l)

/-- A step neither looks at the locks nor changes them. -/
def Blind {α : Type} (s : TriageStep α) : Prop := ∀ t l, s (t.withLocks l) = relock l (s t)

/-- The answer of a step, and the host after it but for its locks. -/
def outcome {α : Type} (s : TriageStep α) (t : Triage) : Except UnknownBuild α × Triage :=
  match s t with
  | .ok a t => (.ok a, t.unlocked)
  | .error e t => (.error e, t.unlocked)

variable {α β : Type}

/-- Other locks make no difference to a step that does not look at them. -/
theorem Blind.outcome_withLocks {s : TriageStep α} (h : Blind s) (t : Triage) (l : BuildLocks) :
    outcome s (t.withLocks l) = outcome s t := by
  unfold outcome
  rw [h t l]
  cases s t <;> rfl

theorem Blind.outcome_unlocked {s : TriageStep α} (h : Blind s) (t : Triage) :
    outcome s t.unlocked = outcome s t :=
  h.outcome_withLocks t .empty

/-- A step that succeeds with some locks succeeds with others. -/
theorem Blind.exists_of_withLocks {s : TriageStep α} (h : Blind s) {t t' : Triage}
    {l : BuildLocks} {a : α} (hs : s (t.withLocks l) = .ok a t') : ∃ t', s t = .ok a t' := by
  rw [h t l] at hs
  cases hst : s t with
  | ok a' t'' =>
    rw [hst] at hs
    rw [(EStateM.Result.ok.inj hs).1]
    exact ⟨t'', rfl⟩
  | error e t'' =>
    rw [hst] at hs
    exact absurd hs nofun

theorem blind_pure (a : α) : Blind (pure a) := fun _ _ => rfl

theorem blind_throw (e : UnknownBuild) : Blind (throw e : TriageStep α) := fun _ _ => rfl

/-- A change that leaves the locks alone. -/
theorem blind_modify {f : Triage → Triage} (h : ∀ t l, f (t.withLocks l) = (f t).withLocks l) :
    Blind (modify f) :=
  fun t l => congrArg (EStateM.Result.ok ()) (h t l)

theorem Blind.bind {s : TriageStep α} {f : α → TriageStep β} (hs : Blind s)
    (hf : ∀ a, Blind (f a)) : Blind (s >>= f) := by
  intro t l
  change EStateM.bind s f (t.withLocks l) = relock l (EStateM.bind s f t)
  unfold EStateM.bind
  rw [hs t l]
  cases s t with
  | ok a t => exact hf a t l
  | error e t => rfl

/-- Reading something of a build. -/
theorem blind_ask (f : BuildStore → Except UnknownBuild α) : Blind (Triage.ask f) := by
  intro t l
  cases h : f t.builds with
  | ok a => rw [Triage.ask_ok h, Triage.ask_ok (t := t.withLocks l) h, relock]
  | error e => rw [Triage.ask_error h, Triage.ask_error (t := t.withLocks l) h, relock]

/-- Changing something of a build. -/
theorem blind_tell (f : BuildStore → Except UnknownBuild BuildStore) : Blind (Triage.tell f) :=
  (blind_ask f).bind fun _ => blind_modify fun _ _ => rfl

/-- Handing over a record. -/
theorem blind_record (info : BuildInfo) (causes : List FoundCause) :
    Blind (Triage.record info causes) := by
  refine blind_modify fun t l => ?_
  rw [Triage.withLocks_kb]
  split <;> rfl

/-- Listing the causes. -/
theorem blind_catalog : Blind Triage.catalog := by
  intro t l
  cases h : KnowledgeBase.causes t.kb <;>
    simp only [Triage.catalog, Triage.get_bind, Triage.withLocks_kb, h] <;> rfl

end TriageStep

end BuildTriage
