import BuildTriage.Proofs.KnowledgeBase.Conversion.Grown
import BuildTriage.Proofs.KnowledgeBase.Conversion.Stepwise

/-!
# A conversion copies a catalog faithfully

The causes of one knowledge base are copied to another, of whatever kind, as long as nothing
fails. A cause of the source takes the place of the one of its id in the target, removed or
not, and the others come last, in the order of the source. What else is in the target stays as
it is, and copying a second time changes nothing.
-/

namespace BuildTriage

/-- The cause that takes the place of another, if one of its id is copied. -/
def renewed (live : List FailureCause) (c : FailureCause) : FailureCause :=
  (live.find? (·.id == c.id)).getD c

/-- The causes of a target once some are copied: each in its place, and then those of unknown
ids. -/
def copied (all live : List FailureCause) (unknown : FailureCause → Bool) : List FailureCause :=
  all.map (renewed live) ++ live.filter unknown

/-- Some causes have distinct ids, and are complete. -/
structure Sound (live : List FailureCause) : Prop where
  /-- The ids are distinct. -/
  nodup : (live.map (·.id)).Nodup
  /-- No id is empty and no name is blank. -/
  complete : ∀ c ∈ live, c.Complete

theorem Sound.tail {c : FailureCause} {rest : List FailureCause} (h : Sound (c :: rest)) :
    Sound rest :=
  ⟨(List.nodup_cons.mp h.nodup).2, fun d hd => h.complete d (List.mem_cons_of_mem _ hd)⟩

/-- Of distinct ids, a cause is the one that is found by its id. -/
theorem find?_of_nodup {live : List FailureCause} (h : (live.map (·.id)).Nodup)
    {c : FailureCause} (hc : c ∈ live) : live.find? (·.id == c.id) = some c := by
  cases hfind : live.find? (·.id == c.id) with
  | none => exact absurd (List.find?_eq_none.mp hfind c hc) (by simp)
  | some d =>
    have hid := List.find?_some hfind
    rw [beq_iff_eq] at hid
    rw [List.inj_on_of_nodup_map h (List.mem_of_find?_eq_some hfind) hc hid]

/-- Of distinct ids, it does not matter from which end a cause is looked for. -/
theorem find?_reverse {live : List FailureCause} (h : (live.map (·.id)).Nodup) (id : String) :
    live.reverse.find? (·.id == id) = live.find? (·.id == id) := by
  cases hfind : live.find? (·.id == id) with
  | none =>
    rw [List.find?_eq_none] at hfind ⊢
    exact fun c hc => hfind c (List.mem_reverse.mp hc)
  | some c =>
    have hid := List.find?_some hfind
    rw [beq_iff_eq] at hid
    have hreverse : (live.reverse.map (·.id)).Nodup := by
      rw [List.map_reverse, List.nodup_reverse]
      exact h
    rw [← hid]
    exact find?_of_nodup hreverse (List.mem_reverse.mpr (List.mem_of_find?_eq_some hfind))

theorem copied_nil (all : List FailureCause) (unknown : FailureCause → Bool) :
    copied all [] unknown = all := by
  have hsame : ∀ c, renewed [] c = c := fun _ => rfl
  rw [copied, List.filter_nil, List.append_nil, List.map_congr_left fun c _ => hsame c,
    List.map_id']

/-- Copying a first cause and then the others is copying them all. -/
theorem copied_cons {all rest : List FailureCause} {c : FailureCause} {known : Bool}
    {unknown later : FailureCause → Bool} (hrest : c.id ∉ rest.map (·.id))
    (hknown : unknown c = !known) (hall : c.id ∈ all.map (·.id) → known = true)
    (hlater : ∀ d ∈ rest, later d = unknown d) :
    copied (filed all known c) rest later = copied all (c :: rest) unknown := by
  have hself : renewed rest c = c := by
    have hnone : rest.find? (·.id == c.id) = none := by
      refine List.find?_eq_none.mpr fun d hd hid => hrest ?_
      exact List.mem_map.mpr ⟨d, hd, beq_iff_eq.mp hid⟩
    rw [renewed, hnone]
    rfl
  have hother : ∀ d : FailureCause, d.id ≠ c.id → renewed (c :: rest) d = renewed rest d := by
    intro d hne
    have hbeq : (c.id == d.id) = false := beq_eq_false_iff_ne.mpr (Ne.symm hne)
    simp only [renewed, List.find?_cons, hbeq]
  have hfilter : rest.filter later = rest.filter unknown := List.filter_congr hlater
  unfold copied filed
  rw [hfilter, List.filter_cons, hknown]
  by_cases hid : c.id ∈ all.map (·.id)
  · have hmap : (all.map (Catalog.replacement c)).map (renewed rest) =
        all.map (renewed (c :: rest)) := by
      rw [List.map_map]
      refine List.map_congr_left fun d _ => ?_
      rw [Function.comp_apply, Catalog.replacement]
      split
      · next hd =>
        rw [hself, renewed, hd, List.find?_cons, BEq.rfl]
        rfl
      · next hne => exact (hother d hne).symm
    rw [if_pos hid, hmap, hall hid]
    rfl
  · have hmap : all.map (renewed (c :: rest)) = all.map (renewed rest) :=
      List.map_congr_left fun d hd => hother d fun he => hid (he ▸ List.mem_map_of_mem hd)
    rw [if_neg hid, hmap]
    cases known with
    | true => rfl
    | false =>
      simp only [Bool.false_eq_true, if_false, Bool.not_false, if_true]
      rw [List.map_append, List.map_singleton, hself, List.append_assoc, List.singleton_append]

namespace Backing

variable {b : Backing} {all : List FailureCause} {c : FailureCause}

/-- Over a link, if there is one, that does not fail. -/
def Reachable (b : Backing) : Prop := b.mended = b

theorem Ready.reachable (h : b.Ready) : b.Reachable := by
  cases b with
  | file b => rfl
  | table b => rfl
  | hash b =>
    obtain ⟨⟨texts, ids, records, link⟩, statistics, successful⟩ := b
    obtain rfl : link = ⟨[], false⟩ := h
    rfl

/-- A document store that is reachable does not fail. -/
theorem Reachable.ready (h : b.Reachable) (hfile : ¬b.OnFile) : b.Ready := by
  cases b with
  | file b => exact absurd trivial hfile
  | table b => trivial
  | hash b =>
    have hstore : b.store.mended = b.store :=
      congrArg DocumentBase.store (Backing.hash.inj h)
    exact (congrArg CauseHash.link hstore).symm

end Backing

namespace KnowledgeBase

variable {k t : KnowledgeBase} {all live : List FailureCause} {fresh : Nat → String}

/-- A cause that is saved where causes are kept is saved, without a cache. -/
theorem save_of_run {c a : FailureCause} {fresh : String} {b : Backing} (hcache : k.cache = none)
    (h : Backing.run (fun _ => CauseStore.save fresh c) k.backing = .ok a b) :
    save fresh c k = .ok a { k with backing := b } := by
  have hback : onBacking (Backing.run fun _ => CauseStore.save fresh c) k =
      .ok a { k with backing := b } := by
    rw [onBacking, h]
    rfl
  rw [save, change, bind_ok hback, bind_ok (updateCache_plain (by exact hcache))]
  rfl

/-- Some causes are copied to a place that lists others, and nothing fails. -/
structure Copies (fresh : Nat → String) (live all : List FailureCause) (k t : KnowledgeBase) :
    Prop where
  /-- All of them are saved. -/
  run : saveAll fresh live k = .ok () t
  /-- There is no cache. -/
  cache_eq : t.cache = none
  /-- Nothing fails afterwards. -/
  ready : t.backing.Ready
  /-- Unless there was nothing to copy, all is in the file, if there is one. -/
  written : live = [] ∨ t.backing.Written
  /-- The causes that are listed then. -/
  shows : t.backing.Shows (copied all live fun c => (k.backing.slot c.id).isNone)
  /-- Causes are held as before. -/
  hold_eq : t.backing.hold = k.backing.hold
  /-- The last one of each id is under it. -/
  slot_eq : t.backing.slot = enterAll k.backing.hold k.backing.slot live

theorem exists_copies (hcache : k.cache = none) (hready : k.backing.Ready)
    (hshows : k.backing.Shows all) (hlive : Sound live) : ∃ t, Copies fresh live all k t := by
  induction live generalizing k all with
  | nil =>
    refine ⟨k, rfl, hcache, hready, .inl rfl, ?_, rfl, rfl⟩
    rw [copied_nil]
    exact hshows
  | cons c rest ih =>
    obtain ⟨hid, hname⟩ := hlive.complete c List.mem_cons_self
    have hnotin : c.id ∉ rest.map (·.id) := (List.nodup_cons.mp hlive.nodup).1
    obtain ⟨b, hrun, hb, hwritten, hfiled⟩ := hshows.save hready hid hname (fresh rest.length)
    have hsave := save_of_run hcache hrun
    have hold : c.isNew = false := Catalog.isNew_eq_false hid
    obtain ⟨-, -, hslot, hhold, -⟩ := (Backing.grants_save (fresh rest.length) c fun _ hnew => by
      rw [hold] at hnew; cases hnew).ok c b hrun
    obtain ⟨t, ht⟩ := ih (k := { k with backing := b }) hcache hb hfiled hlive.tail
    have hlater : ∀ d ∈ rest, (b.slot d.id).isNone = (k.backing.slot d.id).isNone := by
      intro d hd
      rw [hslot, enter_other _ _ fun he => hnotin (he ▸ List.mem_map_of_mem hd)]
    have hknown : (k.backing.slot c.id).isNone = !(k.backing.slot c.id).isSome := by
      cases k.backing.slot c.id <;> rfl
    have hall : c.id ∈ all.map (·.id) → (k.backing.slot c.id).isSome = true := by
      intro hin
      obtain ⟨d, hd, hdid⟩ := List.mem_map.mp hin
      rw [← hdid]
      exact hshows.slot_isSome hd
    refine ⟨t, (saveAll_cons hsave).trans ht.run, ht.cache_eq, ht.ready, .inr ?_, ?_,
      ht.hold_eq.trans hhold, ?_⟩
    · obtain hnone | hsome := ht.written
      · have hstay : t = { k with backing := b } := by
          have hrun := ht.run
          rw [hnone] at hrun
          cases hrun
          rfl
        rw [hstay]
        exact hwritten
      · exact hsome
    · have hshown := ht.shows
      rwa [copied_cons hnotin hknown hall hlater] at hshown
    · rw [ht.slot_eq, hslot, hhold]
      rfl

/-- Causes that are under their ids as they are saved change nothing when they are saved once
more. -/
theorem saveAll_again (hcache : k.cache = none) (hready : k.backing.Ready)
    (hwritten : live = [] ∨ k.backing.Written) (hshows : k.backing.Shows all)
    (hlive : ∀ c ∈ live, c.Complete)
    (hslot : ∀ c ∈ live, k.backing.slot c.id = some (k.backing.hold c)) :
    saveAll fresh live k = .ok () k := by
  obtain rfl | hwritten := hwritten
  · rfl
  · induction live with
    | nil => rfl
    | cons c rest ih =>
      obtain ⟨⟨hid, hname⟩, hrest⟩ := List.forall_mem_cons.mp hlive
      obtain ⟨hfirst, hothers⟩ := List.forall_mem_cons.mp hslot
      have hsave := save_of_run hcache
        (hshows.save_again hready hwritten hid hname hfirst (fresh rest.length))
      exact (saveAll_cons hsave).trans (ih hrest hothers)

/-- Without a cache, the causes that are listed where they are kept are listed. -/
theorem causes_of_list (hcache : k.cache = none)
    (h : Backing.list k.backing = .ok live k.backing) : causes k = .ok live k := by
  rw [causes_eq hcache, keptCauses_eq, h]
  rfl

/-- Listing the causes changes nothing over a link that does not fail. -/
theorem eq_of_causes {s : KnowledgeBase} (hcache : k.cache = none) (hreach : k.backing.Reachable)
    (h : causes k = .ok live s) : s = k := by
  rw [causes_eq hcache, keptCauses_eq] at h
  cases hlist : Backing.list k.backing with
  | error e b => rw [hlist] at h; cases h
  | ok found b =>
    have hsame := (Backing.reads_list.ok found b hlist).1
    rw [hreach, hlist] at hsame
    cases hsame
    rw [hlist] at h
    cases h
    rfl

/-- What is asked for by an id is what is found under it. -/
theorem outcome_getCause_reachable (hreach : k.backing.Reachable) (id : String) :
    outcome (getCause id) k = (k.found id, k) := by
  have hget := Backing.get_mended k.backing id
  rw [hreach, ← found_eq] at hget
  let into : Backing → KnowledgeBase := fun b => { k with backing := b }
  have hwrap : getCause id (into k.backing) = Backing.wrap into (Backing.get id k.backing) := rfl
  exact Backing.wrap_outcome into hwrap hget

/-- Whether nothing is found under the id of a cause. -/
def lacks (k : KnowledgeBase) (c : FailureCause) : Bool :=
  match (outcome (getCause c.id) k).1 with
  | .ok none => true
  | _ => false

/-- Nothing is found where nothing is kept. -/
theorem lacks_eq (hreach : k.backing.Reachable) :
    k.lacks = fun c => (k.backing.slot c.id).isNone := by
  have htext : ∀ text, readText text ≠ .ok none := by
    intro text
    unfold readText
    split <;> exact nofun
  funext c
  rw [lacks, outcome_getCause_reachable hreach, found_eq]
  cases hslot : k.backing.slot c.id with
  | none => rfl
  | some s =>
    have hread : Slot.read (some s) ≠ .ok none := by
      cases s with
      | cause c => exact nofun
      | row r => exact htext r.text
      | text t => exact htext t
    split
    · next hnone => exact absurd hnone hread
    · rfl

/-- A document store that has grown by changes lists complete causes of distinct ids. -/
theorem Grown.sound (h : Grown k) (hready : k.backing.Ready) (hfile : ¬k.backing.OnFile) :
    ∃ live, causes k = .ok live k ∧ Sound live := by
  obtain ⟨hcache, hgrounded⟩ := h.grounded
  obtain ⟨all, hshows, hcomplete⟩ := hgrounded.shows
  refine ⟨_, causes_of_list hcache (hshows.list_ok hready), ?_, fun c hc => ?_⟩
  · exact hshows.nodup.sublist (List.filter_sublist.map _)
  · exact hcomplete hfile c (List.mem_of_mem_filter hc)

/-- Once some causes are copied, each of them is found, and what was under other ids is. -/
theorem Copies.found_eq (h : Copies fresh live all k t) (hlive : Sound live) (id : String) :
    t.found id = match live.find? (·.id == id) with
      | some c => .ok (some c)
      | none => k.found id := by
  have hslot : t.backing.slot = enterAll k.backing.hold k.backing.slot live := h.slot_eq
  rw [found_of_slot hslot, foundAfter]
  cases hfind : live.find? (·.id == id) <;> simp only [find?_reverse hlive.nodup, hfind]

/-- Once some causes are copied, each is held under its id. -/
theorem Copies.slot_live (h : Copies fresh live all k t) (hlive : Sound live) {c : FailureCause}
    (hc : c ∈ live) : t.backing.slot c.id = some (t.backing.hold c) := by
  rw [h.slot_eq, enterAll_apply, find?_reverse hlive.nodup, find?_of_nodup hlive.nodup hc,
    h.hold_eq]

/-- A transfer from a reachable source without a cache, whose live causes have distinct ids
that are not empty and names that are not blank, to a reachable target without a cache that
has grown by changes from distinct ids. The live causes of a document store that has grown so
are always such. Then the number of live causes is answered. Each is found under its id in the
target, whatever was there, and what is found under any other id is as before. The listed
causes of the target, removed ones among them, keep their places, and those of which nothing was
found before come last, in the order of the source. The source does not change. A second
transfer gives the same answer and changes nothing. -/
theorem transfer_faithful (fresh again : Nat → String) {source target : KnowledgeBase}
    (hcache : source.cache = none) (hreach : source.backing.Reachable)
    (hsource : (∃ live s, causes source = .ok live s ∧ Sound live) ∨
      Grown source ∧ ¬source.backing.OnFile)
    (htarget : Grown target) (hready : target.backing.Ready) :
    ∃ live all t, causes source = .ok live source ∧ Sound live ∧
      transfer fresh source target = (.ok live.length, source, t) ∧
      (∀ id, (outcome (getCause id) t).1 = match live.find? (·.id == id) with
        | some c => .ok (some c)
        | none => (outcome (getCause id) target).1) ∧
      (∀ c ∈ live, (outcome (getCause c.id) t).1 = .ok (some c)) ∧
      target.backing.Shows all ∧ causes target = .ok (liveCauses all) target ∧
      t.backing.Shows (copied all live target.lacks) ∧
      causes t = .ok (liveCauses (copied all live target.lacks)) t ∧
      transfer again source t = (.ok live.length, source, t) := by
  have hlisted : ∃ live, causes source = .ok live source ∧ Sound live := by
    obtain ⟨live, s, hlist, hlive⟩ | ⟨hgrown, hfile⟩ := hsource
    · exact ⟨live, eq_of_causes hcache hreach hlist ▸ hlist, hlive⟩
    · exact hgrown.sound (Backing.Reachable.ready hreach hfile) hfile
  obtain ⟨live, hlist, hlive⟩ := hlisted
  obtain ⟨hplain, hgrounded⟩ := htarget.grounded
  obtain ⟨all, hshows, -⟩ := hgrounded.shows
  obtain ⟨t, ht⟩ : ∃ t, Copies fresh live all target t :=
    exists_copies hplain hready hshows hlive
  have hfound : ∀ id, (outcome (getCause id) t).1 = match live.find? (·.id == id) with
      | some c => .ok (some c)
      | none => (outcome (getCause id) target).1 := by
    intro id
    rw [outcome_getCause_reachable ht.ready.reachable, ht.found_eq hlive,
      outcome_getCause_reachable hready.reachable]
  have hafter : t.backing.Shows (copied all live target.lacks) := by
    rw [lacks_eq hready.reachable]
    exact ht.shows
  have hagain : saveAll again live t = .ok () t :=
    saveAll_again ht.cache_eq ht.ready ht.written ht.shows hlive.complete fun c hc =>
      ht.slot_live hlive hc
  refine ⟨live, all, t, hlist, hlive, ?_, hfound, fun c hc => ?_, hshows,
    causes_of_list hplain (hshows.list_ok hready), hafter,
    causes_of_list ht.cache_eq (hafter.list_ok ht.ready), ?_⟩
  · rw [transfer_eq fresh hlist, ht.run]
  · rw [hfound, find?_of_nodup hlive.nodup hc]
  · rw [transfer_eq again hlist, hagain]

/-- The text of a catalog with a cause that is removed after one that is not. -/
def settled : String :=
  "[\x7b\"id\":\"z\",\"name\":\"Z\"\x7d," ++
    "\x7b\"id\":\"a\",\"name\":\"Old\",\"removed\":\x7b\"by\":\"u\",\"time\":1\x7d\x7d]"

/-- Of two causes that are copied to a file, one takes the place of a removed cause and the
other comes last; a cause that is removed in the source is not copied. -/
theorem transfer_faithful_sample :
    let a : FailureCause := ⟨"a", "A", "", "", [], [], none, [], none⟩
    let b : FailureCause := ⟨"b", "B", "", "", [], [], none, [], none⟩
    let gone : FailureCause := ⟨"z", "Gone", "", "", [], [], none, [], some ⟨"u", 1⟩⟩
    let old : FailureCause := ⟨"a", "Old", "", "", [], [], none, [], some ⟨"u", 1⟩⟩
    let z : FailureCause := ⟨"z", "Z", "", "", [], [], none, [], none⟩
    let source := ofFile ⟨[b, gone, a], none⟩
    let target := ofFile ⟨[z, old], some (.ofText "causes.json" (some settled))⟩
    Sound [b, a] ∧ Grown target ∧ target.backing.Ready ∧ ∃ t,
      transfer (fun _ => "n") source target = (.ok 2, source, t) ∧
      causes target = .ok [z] target ∧ causes t = .ok [z, a, b] t ∧
      transfer (fun _ => "m") source t = (.ok 2, source, t) := by
  intro a b gone old z source target
  have hopen : CauseFile.openDisk (.ofText "causes.json" (some settled)) =
      .ok ⟨[z, old], some (.ofText "causes.json" (some settled))⟩ := by decide +kernel
  have hsound : Sound [b, a] := by
    refine ⟨by decide, fun c hc => ?_⟩
    obtain rfl | rfl := List.mem_pair.mp hc
    · exact ⟨by decide, by decide +kernel⟩
    · exact ⟨by decide, by decide +kernel⟩
  have hgrown : Grown target := .begins (.file hopen (by unfold CauseFile.Distinct; decide +kernel))
  have hready : target.backing.Ready := by
    rintro _ ⟨⟩
    exact ⟨rfl, rfl⟩
  have hcache : source.cache = none := rfl
  have hlive : causes source = .ok [b, a] source := rfl
  have hcauses : causes target = .ok [z] target := rfl
  refine ⟨hsound, hgrown, hready, ?_⟩
  obtain ⟨live, all, t, hlist, -, hrun, -, -, hshows, -, -, hafter, hagain⟩ :=
    transfer_faithful (fun _ => "n") (fun _ => "m") hcache rfl
      (.inl ⟨_, _, hlive, hsound⟩) hgrown hready
  rw [hlive] at hlist
  cases hlist
  obtain rfl : [z, old] = all := hshows.lists
  have hlisted : liveCauses (copied [z, old] [b, a] target.lacks) = [z, a, b] := by decide +kernel
  rw [hlisted] at hafter
  exact ⟨t, hrun, hcauses, hafter, hagain⟩

end KnowledgeBase

end BuildTriage
