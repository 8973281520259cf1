import BuildTriage.Proofs.BuildStore
import BuildTriage.Proofs.Triage.Step

/-!
# What a step leaves alone

A property of the host that no part of a step can end is kept by the step.
-/

namespace BuildTriage

namespace TriageStep

variable {α β : Type} {p : Triage → Prop}

/-- The host after a step, whether that succeeds or not. -/
def after (s : TriageStep α) (t : Triage) : Triage :=
  match s t with
  | .ok _ t => t
  | .error _ t => t

theorem after_ok {s : TriageStep α} {t t' : Triage} {a : α} (h : s t = .ok a t') :
    after s t = t' := by
  rw [after, h]

theorem after_error {s : TriageStep α} {t t' : Triage} {e : UnknownBuild}
    (h : s t = .error e t') : after s t = t' := by
  rw [after, h]

/-- A step cannot end a property of the host. -/
def Keeps (p : Triage → Prop) (s : TriageStep α) : Prop := ∀ t, p t → p (after s t)

theorem keeps_pure (a : α) : Keeps p (pure a) := fun _ h => h

theorem keeps_get : Keeps p (get : TriageStep Triage) := fun _ h => h

theorem Keeps.bind {s : TriageStep α} {f : α → TriageStep β} (hs : Keeps p s)
    (hf : ∀ a, Keeps p (f a)) : Keeps p (s >>= f) := by
  intro t ht
  have hmid : p (after s t) := hs t ht
  cases hst : s t with
  | ok a mid =>
    rw [after_ok hst] at hmid
    rw [after, Triage.bind_ok hst]
    exact hf a mid hmid
  | error e mid =>
    rw [after_error hst] at hmid
    rw [after, Triage.bind_error hst]
    exact hmid

/-- Reading something of a build changes nothing. -/
theorem keeps_ask (f : BuildStore → Except UnknownBuild α) : Keeps p (Triage.ask f) := by
  intro t ht
  cases h : f t.builds with
  | ok a => rw [after_ok (Triage.ask_ok h)]; exact ht
  | error e => rw [after_error (Triage.ask_error h)]; exact ht

theorem keeps_tell {f : BuildStore → Except UnknownBuild BuildStore}
    (h : ∀ t builds, p t → f t.builds = .ok builds → p { t with builds := builds }) :
    Keeps p (Triage.tell f) := by
  intro t ht
  cases hf : f t.builds with
  | ok builds => rw [after_ok (Triage.tell_ok hf)]; exact h t builds ht hf
  | error e => rw [after_error (Triage.tell_error hf)]; exact ht

/-- A record that is handed over changes the recorder at most. -/
theorem keeps_record (h : ∀ t r, p t → p { t with recorder := r }) (info : BuildInfo)
    (found : List FoundCause) : Keeps p (Triage.record info found) := by
  intro t ht
  rw [after_ok (Triage.record_eq info found t)]
  exact h t _ ht

/-- Listing the causes changes the knowledge base at most. -/
theorem keeps_catalog (h : ∀ t kb, p t → p { t with kb := kb }) : Keeps p Triage.catalog := by
  intro t ht
  cases hcauses : KnowledgeBase.causes t.kb with
  | ok causes kb =>
    rw [after_ok (Triage.catalog_ok hcauses)]
    exact h t kb ht
  | error e kb =>
    rw [after_ok (Triage.catalog_error hcauses)]
    exact h t kb ht

end TriageStep

end BuildTriage
