import BuildTriage.Proofs.Scan.Truth
import BuildTriage.Triage
import Mathlib.Data.List.Forall2

/-!
# What is reported of causes

When every attempt is answered in time, the scan for an indication that is read line by line
finds the first line that it matches. So what is reported for a log can be said without scans: the
live causes with an indication that matches a line of it, or of these only the ones of no fallback
category if there are any. Each comes with its indications that match, at the first line each.
-/

namespace BuildTriage

open Scan

/-- The indication matches a line of a log. -/
def Indication.occurs (i : Indication) (log : List String) : Bool :=
  log.any fun line => (i.find line).isSome

namespace FailureCause

/-- The cause is live, and one of its indications matches a line of a log. -/
def occurs (c : FailureCause) (log : List String) : Bool :=
  !c.isRemoved && c.indications.any (·.occurs log)

/-- The cause has a category of some. -/
def hasCategoryOf (c : FailureCause) (categories : List String) : Bool :=
  categories.any (c.categories.contains ·)

end FailureCause

/-- The causes that are to be reported for a log: of those that occur in it the ones of no fallback
category, or all if there is none. -/
def reportable (fallbacks : List String) (causes : List FailureCause) (log : List String) :
    List FailureCause :=
  if ∃ c ∈ causes, c.occurs log = true ∧ c.hasCategoryOf fallbacks = false then
    causes.filter fun c => c.occurs log && !c.hasCategoryOf fallbacks
  else causes.filter (·.occurs log)

/-- A found indication is that of the first line that an indication matches. -/
structure FirstMatch (build : BuildRef) (log : List String) (i : Indication)
    (f : FoundIndication) : Prop where
  /-- The line, of which there is none before it. -/
  line : ∃ n text, log[n]? = some text ∧ (i.find text).isSome = true ∧
    (∀ m earlier, m < n → log[m]? = some earlier → i.find earlier = none) ∧
    f.matchingLine = some (UInt64.ofNat (n + 1)) ∧ f.matchingString = some text ∧
    f.matchingHash = some (Text.Digest.ofText text)
  /-- The text of the pattern. -/
  pattern : f.pattern = i.pattern
  /-- The file is the log. -/
  file : f.matchingFile = logName
  /-- The build. -/
  build : f.build = some build

/-- A found cause is a snapshot of a cause with its indications that match, in their order. -/
structure Snapshots (build : BuildRef) (log : List String) (c : FailureCause)
    (f : FoundCause) : Prop where
  /-- The id. -/
  id : f.id = c.id
  /-- The name. -/
  name : f.name = c.name
  /-- What the reason is. -/
  description : f.description = c.description
  /-- The categories. -/
  categories : f.categories = c.categories
  /-- The indications. -/
  indications : List.Forall₂ (FirstMatch build log) (c.indications.filter (·.occurs log))
    f.indications

namespace Scan

/-- What is made of the items that are kept is made of the others, too: nothing. -/
theorem forall₂_filterMap {α β : Type} {R : α → β → Prop} {keep : α → Bool} {f : α → Option β}
    {items : List α} (h : ∀ a ∈ items, keep a = false ∧ f a = none ∨
      ∃ b, keep a = true ∧ f a = some b ∧ R a b) :
    List.Forall₂ R (items.filter keep) (items.filterMap f) := by
  induction items with
  | nil => exact .nil
  | cons a rest ih =>
    obtain ⟨ha, hrest⟩ := List.forall_mem_cons.mp h
    rcases ha with ⟨hkeep, hf⟩ | ⟨b, hkeep, hf, hR⟩
    · rw [List.filter_cons, hkeep, List.filterMap_cons_none hf]
      exact ih hrest
    · rw [List.filter_cons, hkeep, List.filterMap_cons_some hf]
      exact .cons hR (ih hrest)

variable {α : Type} {hit : α → Option (Nat × Nat)} {a : Allowance}

/-- Answered turns that pass are about items without a hit. -/
theorem none_of_passesAll {turns : List (Turn α)} (h : PassesAll hit turns a)
    (hanswered : ∀ t ∈ turns, t.ending = .answered) : ∀ t ∈ turns, hit t.item = none := by
  induction turns generalizing a with
  | nil => exact nofun
  | cons t rest ih =>
    obtain ⟨hpass, hrest⟩ := h
    have hfirst : hit t.item = none := by
      rcases hpass with ⟨-, hnone⟩ | ⟨hoverdue, -⟩
      · exact hnone
      · rw [hanswered t List.mem_cons_self] at hoverdue
        exact absurd hoverdue nofun
    have hlater := ih hrest fun u hu => hanswered u (List.mem_cons_of_mem t hu)
    exact List.forall_mem_cons.mpr ⟨hfirst, hlater⟩

namespace Scanner

variable {describe : α → Nat × Nat → FoundIndication} {turns : List (Turn α)}

/-- When every attempt is answered in time, either no item has a hit, or the first that has one
is found. -/
theorem conduct_answered (hanswered : ∀ t ∈ turns, t.ending = .answered) (a : Allowance) :
    ((∀ item ∈ turns.map (·.item), hit item = none) ∧
      (conduct hit describe turns a).1.found = none) ∨
    ∃ front item back bytes, turns.map (·.item) = front ++ item :: back ∧
      (∀ earlier ∈ front, hit earlier = none) ∧ hit item = some bytes ∧
      (conduct hit describe turns a).1.found = some (describe item bytes) := by
  rcases conduct_cases hit describe turns a with
    ⟨hpass, hr⟩ | ⟨front, t, rest, bytes, rfl, hfront, hhits, hr⟩ |
      ⟨front, t, rest, rfl, _, hends, _⟩
  · left
    rw [hr]
    refine ⟨fun item hitem => ?_, rfl⟩
    obtain ⟨t, ht, rfl⟩ := List.mem_map.mp hitem
    exact none_of_passesAll hpass hanswered t ht
  · right
    rw [hr]
    refine ⟨front.map (·.item), t.item, rest.map (·.item), bytes, ?_, ?_, hhits.2, rfl⟩
    · rw [List.map_append, List.map_cons]
    · intro item hitem
      obtain ⟨u, hu, rfl⟩ := List.mem_map.mp hitem
      exact none_of_passesAll hfront (fun u hu => hanswered u (List.mem_append_left _ hu)) u hu
  · have ht : t.ending = .answered := hanswered t (List.mem_append_right _ List.mem_cons_self)
    rcases hends with he | he | he | ⟨he, -⟩
    · rw [ht] at he; exact absurd he nofun
    · rw [ht] at he; exact absurd he nofun
    · rw [ht] at he; exact absurd he nofun
    · rw [ht] at he; exact absurd he nofun

/-- Every attempt to match a line of a log is answered in time. -/
def AnswersLines (s : Scanner) (log : List String) : Prop :=
  ∀ t ∈ s.lineTurns (fun _ => .takes 0) log, t.ending = .answered

variable {s : Scanner} {log : List String} {build : BuildRef} {i : Indication}

/-- The numbered lines before some line are those of the smaller numbers. -/
theorem lines_of_split {front back : List (String × Nat)} {text : String} {n : Nat}
    (h : lineItems log = front ++ (text, n) :: back) :
    n = front.length ∧ log[n]? = some text ∧
      ∀ m earlier, m < n → log[m]? = some earlier → (earlier, m) ∈ front := by
  have hat : (lineItems log)[front.length]? = some (text, n) := by
    rw [h, List.getElem?_append_right (Nat.le_refl _), Nat.sub_self]
    rfl
  rw [lineItems, List.getElem?_zipIdx, Option.map_eq_some_iff] at hat
  obtain ⟨line, hline, hpair⟩ := hat
  obtain ⟨rfl, rfl⟩ := Prod.mk.inj hpair
  rw [Nat.zero_add]
  refine ⟨rfl, hline, fun m earlier hm he => ?_⟩
  have hitem : (lineItems log)[m]? = some (earlier, m) := by
    rw [lineItems, List.getElem?_zipIdx, he, Option.map_some, Nat.zero_add]
  rw [h, List.getElem?_append_left hm] at hitem
  exact List.mem_of_getElem? hitem

/-- A scan line by line whose attempts are answered in time finds the first match, or nothing if
there is none. -/
theorem scan_firstMatch (build : BuildRef) (hanswered : s.AnswersLines log)
    (hmode : i.mode = .singleLine) :
    (i.occurs log = false ∧ (s.scan i log logName).found = none) ∨
    ∃ f, i.occurs log = true ∧ (s.scan i log logName).found = some f ∧
      FirstMatch build log i (f.withBuild build) := by
  have hscan : s.scan i log logName = (conduct (fun item : String × Nat => i.find item.1)
      (fun item _ => lineFound i.pattern logName item) (s.lineTurns (fun _ => .takes 0) log)
        (.fresh sharedCap)).1 := by
    unfold scan run
    rw [hmode]
    rfl
  rw [hscan]
  rcases conduct_answered hanswered (.fresh sharedCap) with
    ⟨hnone, hr⟩ | ⟨front, item, back, bytes, hsplit, hfront, hhit, hr⟩
  · refine .inl ⟨?_, hr⟩
    rw [map_item_lineTurns] at hnone
    refine List.any_eq_false.mpr fun line hline => ?_
    obtain ⟨n, hn⟩ := List.mem_iff_getElem?.mp hline
    have hitem : (line, n) ∈ lineItems log := List.mk_mem_zipIdx_iff_getElem?.mpr hn
    have hfind : i.find line = none := hnone (line, n) hitem
    rw [hfind]
    exact Bool.false_ne_true
  · rw [map_item_lineTurns] at hsplit
    obtain ⟨text, n⟩ := item
    obtain ⟨hlength, htext, hearlier⟩ := lines_of_split hsplit
    have hsome : (i.find text).isSome = true := by
      rw [show i.find text = some bytes from hhit]
      rfl
    have hbefore : ∀ m earlier, m < n → log[m]? = some earlier → i.find earlier = none :=
      fun m earlier hm he => hfront (earlier, m) (hearlier m earlier hm he)
    have hoccurs : i.occurs log = true :=
      List.any_eq_true.mpr ⟨text, List.mem_of_getElem? htext, hsome⟩
    exact .inr ⟨_, hoccurs, hr, ⟨n, text, htext, hsome, hbefore, rfl, rfl, rfl⟩, rfl, rfl, rfl⟩

/-- What is found of the indications of a cause are the first matches of those that match. -/
theorem causeHits_firstMatch (hanswered : s.AnswersLines log) {c : FailureCause}
    (hmode : ∀ i ∈ c.indications, i.mode = .singleLine) :
    List.Forall₂ (FirstMatch build log) (c.indications.filter (·.occurs log))
      (causeHits s c log logName (some build)) := by
  refine forall₂_filterMap fun i hi => ?_
  rcases scan_firstMatch build hanswered (hmode i hi) with
    ⟨hoccurs, hfound⟩ | ⟨f, hoccurs, hfound, hfirst⟩
  · left
    rw [hfound]
    exact ⟨hoccurs, rfl⟩
  · right
    rw [hfound]
    exact ⟨f.withBuild build, hoccurs, rfl, hfirst⟩

/-- What is found of causes are snapshots of the live ones that occur. -/
theorem matchCauses_snapshots (hanswered : s.AnswersLines log) {causes : List FailureCause}
    (hmode : ∀ c ∈ causes, c.isRemoved = false → ∀ i ∈ c.indications, i.mode = .singleLine) :
    List.Forall₂ (Snapshots build log) (causes.filter (·.occurs log))
      (matchCauses s causes log logName (some build)) := by
  unfold matchCauses
  rw [List.filterMap_filter]
  refine forall₂_filterMap fun c hc => ?_
  cases hremoved : c.isRemoved with
  | true =>
    left
    rw [FailureCause.occurs, hremoved]
    exact ⟨rfl, rfl⟩
  | false =>
    have hhits : List.Forall₂ (FirstMatch build log) (c.indications.filter (·.occurs log))
        (causeHits s c log logName (some build)) :=
      causeHits_firstMatch hanswered (hmode c hc hremoved)
    have hoccurs : c.occurs log = c.indications.any (·.occurs log) := by
      rw [FailureCause.occurs, hremoved]
      rfl
    rw [Bool.not_false, if_pos rfl, hoccurs]
    dsimp only
    generalize causeHits s c log logName (some build) = hits at hhits ⊢
    cases hits with
    | nil =>
      left
      refine ⟨List.any_eq_false.mpr fun i hi hoccurs => ?_, rfl⟩
      have hfilter : c.indications.filter (·.occurs log) = [] := List.forall₂_nil_right_iff.mp hhits
      exact List.filter_eq_nil_iff.mp hfilter i hi hoccurs
    | cons f rest =>
      right
      obtain ⟨i, others, hfirst, -, hfilter⟩ := List.forall₂_cons_right_iff.mp hhits
      have hi : i ∈ c.indications.filter (·.occurs log) := by
        rw [hfilter]
        exact List.mem_cons_self
      obtain ⟨hmem, hyes⟩ := List.mem_filter.mp hi
      exact ⟨_, List.any_eq_true.mpr ⟨i, hmem, hyes⟩, rfl, rfl, rfl, rfl, rfl, hhits⟩

/-- Causes are matched one by one. -/
theorem matchCauses_append (s : Scanner) (front back : List FailureCause) (log : List String)
    (file : String) (build : Option BuildRef) :
    matchCauses s (front ++ back) log file build =
      matchCauses s front log file build ++ matchCauses s back log file build := by
  unfold matchCauses
  rw [List.filter_append, List.filterMap_append]

end Scanner

/-- A snapshot is one of a fallback category if its cause is. -/
theorem isFallback_snapshot {build : BuildRef} {log : List String} {c : FailureCause}
    {f : FoundCause} (h : Snapshots build log c f) (fallbacks : List String) :
    isFallback fallbacks f = c.hasCategoryOf fallbacks := by
  unfold isFallback FailureCause.hasCategoryOf FoundCause.hasCategory
  rw [h.categories]

/-- Snapshots are all of fallback categories if their causes are. -/
theorem all_isFallback {build : BuildRef} {log : List String} {causes : List FailureCause}
    {found : List FoundCause} (h : List.Forall₂ (Snapshots build log) causes found)
    (fallbacks : List String) :
    found.all (isFallback fallbacks) = causes.all (·.hasCategoryOf fallbacks) := by
  induction h with
  | nil => rfl
  | cons hfirst _ ih => rw [List.all_cons, List.all_cons, ih, isFallback_snapshot hfirst]

/-- Of snapshots those of fallback categories are dropped, unless all are. -/
theorem dropFallbacks_snapshots {build : BuildRef} {log : List String} {fallbacks : List String}
    {causes : List FailureCause} {found : List FoundCause}
    (h : List.Forall₂ (Snapshots build log) (causes.filter (·.occurs log)) found) :
    List.Forall₂ (Snapshots build log) (reportable fallbacks causes log)
      (dropFallbacks fallbacks found) := by
  unfold reportable dropFallbacks
  rw [all_isFallback h]
  by_cases hspecific : ∃ c ∈ causes, c.occurs log = true ∧ c.hasCategoryOf fallbacks = false
  · have hnot : ¬ (causes.filter (·.occurs log)).all (·.hasCategoryOf fallbacks) = true := by
      obtain ⟨c, hc, hoccurs, hcategory⟩ := hspecific
      intro hevery
      have hyes := List.all_eq_true.mp hevery c (List.mem_filter.mpr ⟨hc, hoccurs⟩)
      rw [hcategory] at hyes
      exact absurd hyes Bool.false_ne_true
    rw [if_pos hspecific, if_neg hnot]
    have hfilter : causes.filter (fun c => c.occurs log && !c.hasCategoryOf fallbacks) =
        (causes.filter (·.occurs log)).filter (fun c => !c.hasCategoryOf fallbacks) := by
      rw [List.filter_filter]
      exact List.filter_congr fun c _ => Bool.and_comm _ _
    rw [hfilter]
    refine List.rel_filter (fun c f hsnapshot => ?_) h
    dsimp only
    rw [isFallback_snapshot hsnapshot fallbacks]
  · have hevery : (causes.filter (·.occurs log)).all (·.hasCategoryOf fallbacks) = true := by
      refine List.all_eq_true.mpr fun c hc => ?_
      obtain ⟨hmem, hoccurs⟩ := List.mem_filter.mp hc
      by_contra hcategory
      exact hspecific ⟨c, hmem, hoccurs, Bool.not_eq_true _ ▸ hcategory⟩
    rw [if_neg hspecific, if_pos hevery]
    exact h

/-- There is something to report exactly if some cause occurs. -/
theorem reportable_eq_nil_iff {fallbacks : List String} {causes : List FailureCause}
    {log : List String} :
    reportable fallbacks causes log = [] ↔ ∀ c ∈ causes, c.occurs log = false := by
  unfold reportable
  split
  · next hspecific =>
    obtain ⟨c, hc, hoccurs, hcategory⟩ := hspecific
    constructor
    · intro hnil
      have hnot := List.filter_eq_nil_iff.mp hnil c hc
      rw [hoccurs, hcategory] at hnot
      exact absurd rfl hnot
    · intro hnone
      rw [hnone c hc] at hoccurs
      exact absurd hoccurs Bool.false_ne_true
  · rw [List.filter_eq_nil_iff]
    exact forall₂_congr fun c _ => Bool.not_eq_true _ ▸ Iff.rfl

end Scan

end BuildTriage
