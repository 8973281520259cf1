import BuildTriage.Proofs.KnowledgeBase.CauseText
import BuildTriage.Proofs.KnowledgeBase.Contract

/-!
# Causes in a key-value store keep a catalog

The list of ids has the ids of the catalog in order, and the hash has the stored text of
each cause under its id and nothing else. All this holds as long as no command fails. What a
command and an insertion come to over any link is said here too.
-/

namespace BuildTriage.Link

/-- Whether the command after so many others fails. -/
def fails (l : Link) (n : Nat) : Bool := l.failures.getD n l.down

/-- The link after so many commands. -/
def after (l : Link) (n : Nat) : Link := ⟨l.failures.drop n, l.down⟩

theorem fails_after (l : Link) (m n : Nat) : (l.after m).fails n = l.fails (m + n) := by
  simp only [fails, after, List.getD_eq_getElem?_getD, List.getElem?_drop]

theorem after_after (l : Link) (m n : Nat) : (l.after m).after n = l.after (m + n) := by
  rw [after, after, after, List.drop_drop]

/-- A link that does not fail stays so. -/
theorem after_up (n : Nat) : (⟨[], false⟩ : Link).after n = ⟨[], false⟩ := by
  rw [after, List.drop_nil]

end BuildTriage.Link

namespace BuildTriage.CauseHash

open Json

variable {α : Type}

/-- The hash and the list of ids keep the catalog, over a link that does not fail. -/
structure Stands (s : CauseHash) (cat : Catalog) : Prop where
  /-- No command fails. -/
  link_up : s.link = ⟨[], false⟩
  /-- The list has the ids in order. -/
  ids_eq : s.ids = cat.ids
  /-- The hash has the texts of the causes and no others. -/
  lookup_eq : ∀ id, s.texts.lookup id = (cat.get id).map FailureCause.stored

/-- Over a link that does not fail a command is carried out. -/
theorem command_ok {s : CauseHash} (h : s.link = ⟨[], false⟩) (f : CauseHash → α × CauseHash) :
    command f s = .ok (f s).1 (f s).2 := by
  obtain ⟨texts, ids, records, link⟩ := s
  simp only at h
  subst h
  rfl

/-- A command fails or is carried out, as its link says. -/
theorem command_eq (f : CauseHash → α × CauseHash) (s : CauseHash) : command f s =
    if s.link.fails 0 then .error (.query .redis .offline) { s with link := s.link.after 1 }
    else .ok (f { s with link := s.link.after 1 }).1 (f { s with link := s.link.after 1 }).2 := by
  obtain ⟨texts, ids, records, failures, down⟩ := s
  cases failures with
  | nil => cases down <;> rfl
  | cons fails later => cases fails <;> rfl

/-- A command fails, or is carried out; the link is another one in either case. -/
theorem command_cases (f : CauseHash → α × CauseHash) (s : CauseHash) : ∃ link,
    command f s = .error (.query .redis .offline) { s with link := link } ∨
    command f s = .ok (f { s with link := link }).1 (f { s with link := link }).2 := by
  refine ⟨s.link.after 1, ?_⟩
  rw [command_eq]
  split
  · exact .inl rfl
  · exact .inr rfl

/-- Setting a field does not change the others. -/
theorem lookup_setField (id text : String) (texts : List (String × String)) (other : String) :
    (setField id text texts).lookup other =
      if other = id then some text else texts.lookup other := by
  induction texts with
  | nil =>
    by_cases h : other = id
    · simp [setField, h]
    · simp [setField, h]
  | cons field rest ih =>
    obtain ⟨k, t⟩ := field
    by_cases hk : k = id
    · subst hk
      by_cases h : other = k
      · simp [setField, h]
      · have hne : (other == k) = false := beq_eq_false_iff_ne.mpr h
        simp only [setField, if_true, List.lookup_cons, hne, h, if_false]
    · by_cases h : other = k
      · subst h
        simp [setField, hk]
      · have hne : (other == k) = false := beq_eq_false_iff_ne.mpr h
        simp only [setField, hk, if_false, List.lookup_cons, hne, ih]

/-- The cause of an id in a catalog in which one cause was changed. -/
theorem get_map (cat : Catalog) (id : String) (f : FailureCause → FailureCause)
    (hf : ∀ c, c.id = id → (f c).id = id) (other : String) :
    ((cat.causes.map fun c => if c.id = id then f c else c).find? fun c => decide (c.id = other)) =
      if other = id then (cat.get id).map f else cat.get other := by
  have hkeep : ∀ c, (if c.id = id then f c else c).id = c.id := by
    intro c
    split
    · next hc => rw [hf c hc, hc]
    · rfl
  simp only [Catalog.get, List.find?_map, Function.comp_def, hkeep]
  cases hc : cat.causes.find? fun c => decide (c.id = other) with
  | none =>
    by_cases h : other = id
    · subst h
      simp [hc]
    · simp [h]
  | some c =>
    have hid := List.find?_some hc
    simp only [decide_eq_true_eq] at hid
    by_cases h : other = id
    · subst h
      simp [hc, hid]
    · have hne : c.id ≠ id := fun he => h (hid.symm.trans he)
      simp [h, hne]

/-- A field is set as the cause of its id is changed. -/
theorem stands_set {s : CauseHash} {cat other : Catalog} {id : String} {c : FailureCause}
    (f : FailureCause → FailureCause) (h : Stands s cat) (hc : cat.get id = some c)
    (hf : ∀ c, c.id = id → (f c).id = id)
    (ho : other.causes = cat.causes.map fun c => if c.id = id then f c else c) :
    Stands { s with texts := setField id (f c).stored s.texts } other where
  link_up := h.link_up
  ids_eq := by
    have hids : other.ids = cat.ids := by
      unfold Catalog.ids
      rw [ho, List.map_map]
      refine List.map_congr_left fun d _ => ?_
      simp only [Function.comp_apply]
      split
      · next hd => rw [hf d hd, hd]
      · rfl
    rw [hids]
    exact h.ids_eq
  lookup_eq key := by
    have hget : other.get key = if key = id then (cat.get id).map f else cat.get key := by
      rw [Catalog.get, ho]
      exact get_map cat id f hf key
    simp only [lookup_setField, hget]
    by_cases hk : key = id
    · simp only [hk, if_true, hc, Option.map_some]
    · simp only [hk, if_false, h.lookup_eq key]

/-- The texts of the listed causes are read. -/
theorem textsOf_ok {s : CauseHash} (h : s.link = ⟨[], false⟩) (causes : List FailureCause)
    (hc : ∀ c ∈ causes, s.texts.lookup c.id = some c.stored) :
    textsOf (causes.map (·.id)) s = .ok (causes.map FailureCause.stored) s := by
  induction causes with
  | nil => rfl
  | cons c rest ih =>
    have hfield : fieldGet c.id s = .ok (some c.stored) s := by
      rw [fieldGet, command_ok h, hc c List.mem_cons_self]
    have hrest := ih fun d hd => hc d (List.mem_cons_of_mem _ hd)
    rw [List.map_cons, textsOf, bind_ok hfield, bind_ok hrest]
    rfl

/-- The stored texts of some causes read as the causes. -/
theorem mapM_ofStored (causes : List FailureCause) (s : CauseHash) :
    (causes.map FailureCause.stored).mapM
      (FailureCause.ofStored : String → Op CauseHash FailureCause) s = .ok causes s := by
  refine mapM_ok (fun c => ?_) causes
  rw [FailureCause.ofStored, FailureCause.decodeText_stored]
  rfl

/-- Every cause of the catalog has its text in the hash. -/
theorem Stands.lookup_mem {s : CauseHash} {cat : Catalog} (h : Stands s cat) {c : FailureCause}
    (hc : c ∈ cat.causes) : s.texts.lookup c.id = some c.stored := by
  rw [h.lookup_eq, Catalog.get_of_mem hc]
  rfl

/-- The cause of an id is read. -/
theorem gives_get {s : CauseHash} {cat : Catalog} (id : String) (h : Stands s cat) :
    Gives Stands (getCause id) s (.ok (cat.get id)) cat := by
  have hfield : fieldGet id s = .ok ((cat.get id).map FailureCause.stored) s := by
    rw [fieldGet, command_ok h.link_up, h.lookup_eq]
  refine ⟨s, ?_, h⟩
  rw [getCause, bind_ok hfield]
  cases cat.get id with
  | none => rfl
  | some c =>
    have hread : (FailureCause.ofStored c.stored : Op CauseHash FailureCause) s = .ok c s := by
      rw [FailureCause.ofStored, FailureCause.decodeText_stored]
      rfl
    simp only [Option.map_some]
    rw [bind_ok hread]
    rfl

/-- The query for the live causes selects these. -/
theorem filter_live (all : List FailureCause) :
    all.filter CauseQuery.live.selects = liveCauses all := by
  refine List.filter_congr fun c _ => ?_
  simp only [CauseQuery.selects, CauseQuery.live, Bool.false_or, Option.all_none, Bool.and_true]

/-- The live causes are read, in the order of the list. -/
theorem gives_find {s : CauseHash} {cat : Catalog} (h : Stands s cat) :
    Gives Stands (findCauses .live) s (.ok cat.live) cat := by
  have hids : idsAll s = .ok (cat.causes.map (·.id)) s := by
    rw [idsAll, command_ok h.link_up, h.ids_eq]
    rfl
  have htexts := textsOf_ok h.link_up cat.causes fun c hc => h.lookup_mem hc
  refine ⟨s, ?_, h⟩
  rw [findCauses, bind_ok hids, bind_ok htexts, bind_ok (mapM_ofStored cat.causes s)]
  rw [filter_live, Catalog.live_eq]
  rfl

/-- What setting a field and then putting its id into the list comes to. -/
theorem writes_eq (id text : String) (s : CauseHash) :
    (do fieldSet id text; idsPush id : Op CauseHash Unit) s =
      if s.link.fails 0 then .error (.query .redis .offline) { s with link := s.link.after 1 }
      else if s.link.fails 1 then
        .error (.query .redis .offline)
          { s with texts := setField id text s.texts, link := s.link.after 2 }
      else
        .ok () { s with
          texts := setField id text s.texts
          ids := s.ids ++ [id]
          link := s.link.after 2 } := by
  have hset := command_eq (fun s => ((), { s with texts := setField id text s.texts })) s
  by_cases h : s.link.fails 0 = true
  · rw [if_pos h] at hset ⊢
    exact bind_error hset
  rw [if_neg h] at hset ⊢
  refine (bind_ok hset).trans ?_
  rw [idsPush, command_eq]
  simp only [Link.fails_after, Link.after_after]

/-- What an insertion comes to, command by command. -/
theorem insert_eq (c : FailureCause) (s : CauseHash) : insert c s =
    if s.link.fails 0 then .error (.query .redis .offline) { s with link := s.link.after 1 }
    else if (s.texts.lookup c.id).isSome then
      .error (.query .redis (.duplicateId c.id)) { s with link := s.link.after 1 }
    else if s.link.fails 1 then .error (.query .redis .offline) { s with link := s.link.after 2 }
    else if s.link.fails 2 then
      .error (.query .redis .offline)
        { s with texts := setField c.id c.stored s.texts, link := s.link.after 3 }
    else
      .ok () { s with
        texts := setField c.id c.stored s.texts
        ids := s.ids ++ [c.id]
        link := s.link.after 3 } := by
  have hexists := command_eq (fun s => ((s.texts.lookup c.id).isSome, s)) s
  by_cases h : s.link.fails 0 = true
  · rw [if_pos h] at hexists ⊢
    exact bind_error hexists
  rw [if_neg h] at hexists ⊢
  refine (bind_ok hexists).trans ?_
  by_cases hknown : (s.texts.lookup c.id).isSome = true
  · simp only [hknown, if_true]
    rfl
  · simp only [hknown, Bool.false_eq_true, if_false]
    refine (writes_eq c.id c.stored _).trans ?_
    simp only [Link.fails_after, Link.after_after]

/-- An insertion fails before it writes, after it has set the field, or not at all; the link is
another one in any case. -/
theorem insert_cases (c : FailureCause) (s : CauseHash) : ∃ link,
    (∃ e, insert c s = .error e { s with link := link }) ∨
    s.texts.lookup c.id = none ∧
      (insert c s = .error (.query .redis .offline)
          { s with texts := setField c.id c.stored s.texts, link := link } ∨
        insert c s = .ok () { s with
          texts := setField c.id c.stored s.texts
          ids := s.ids ++ [c.id]
          link := link }) := by
  have hrun := insert_eq c s
  split at hrun
  · exact ⟨_, .inl ⟨_, hrun⟩⟩
  split at hrun
  · exact ⟨_, .inl ⟨_, hrun⟩⟩
  next hknown =>
  have hnew : s.texts.lookup c.id = none := Option.not_isSome_iff_eq_none.mp hknown
  split at hrun
  · exact ⟨_, .inl ⟨_, hrun⟩⟩
  split at hrun
  · exact ⟨_, .inr ⟨hnew, .inl hrun⟩⟩
  · exact ⟨_, .inr ⟨hnew, .inr hrun⟩⟩

/-- A cause is inserted whose id has no field. -/
theorem insert_new {s : CauseHash} {c : FailureCause} (h : s.link = ⟨[], false⟩)
    (hfield : s.texts.lookup c.id = none) :
    insert c s =
      .ok () { s with texts := setField c.id c.stored s.texts, ids := s.ids ++ [c.id] } := by
  rw [insert_eq, h, hfield, Link.after_up]
  rfl

/-- A cause is refused whose id has a field. -/
theorem insert_duplicate {s : CauseHash} {c : FailureCause} (h : s.link = ⟨[], false⟩)
    (hfield : (s.texts.lookup c.id).isSome = true) :
    insert c s = .error (.query .redis (.duplicateId c.id)) s := by
  have hsame : { s with link := ⟨[], false⟩ } = s := by rw [← h]
  rw [insert_eq, h, if_pos hfield, Link.after_up, hsame]
  rfl

/-- A cause whose id is not in use gets a field, and then a place in the list. -/
theorem gives_insert {s : CauseHash} {cat : Catalog} (c : FailureCause) (h : Stands s cat)
    (hid : c.id ∉ cat.ids) : Gives Stands (insert c) s (.ok ()) (cat.add c) := by
  have hadd : (cat.add c).causes = cat.causes ++ [c] := by
    simp only [Catalog.add, hid, dite_false, Catalog.append]
  have hnone : cat.get c.id = none := by
    rw [← Option.not_isSome_iff_eq_none, Catalog.get_isSome_iff]
    exact hid
  have hfield : s.texts.lookup c.id = none := by
    rw [h.lookup_eq, hnone]
    rfl
  refine ⟨_, insert_new h.link_up hfield, h.link_up, ?_, ?_⟩
  · simp only [Catalog.ids, hadd, List.map_append, List.map_singleton]
    rw [h.ids_eq]
    rfl
  · intro other
    have hget : (cat.add c).get other = if other = c.id then some c else cat.get other := by
      simp only [Catalog.get, hadd, List.find?_append]
      by_cases ho : other = c.id
      · subst ho
        have hfind : (cat.causes.find? fun d => decide (d.id = c.id)) = none := hnone
        simp [hfind]
      · simp [ho, Ne.symm ho]
    simp only [lookup_setField, hget]
    by_cases ho : other = c.id
    · simp only [ho, if_true, Option.map_some]
    · simp only [ho, if_false, h.lookup_eq other]

/-- A cause whose id is in use is refused. -/
theorem insert_known {s : CauseHash} {cat : Catalog} {c : FailureCause} (h : Stands s cat)
    (hid : c.id ∈ cat.ids) : insert c s = .error (.query .redis (.duplicateId c.id)) s := by
  refine insert_duplicate h.link_up ?_
  rw [h.lookup_eq, Option.isSome_map]
  exact (Catalog.get_isSome_iff cat c.id).mpr hid

/-- A field that is there is replaced as its text demands. -/
theorem fieldUpdate_write {s t : CauseHash} {id text old : String} {a : α}
    {f : Option String → Edit α} (h : s.link = ⟨[], false⟩)
    (hl : s.texts.lookup id = some old) (hf : f (some old) = .write text a)
    (ht : t = { s with texts := setField id text s.texts }) :
    fieldUpdate id f s = .ok (some a) t := by
  subst ht
  rw [fieldUpdate, bind_ok (command_ok h _)]
  simp only [hl, hf]
  rfl

/-- A field that is to stay as it is stays so. -/
theorem fieldUpdate_keep {s : CauseHash} (id : String) {f : Option String → Edit α}
    (h : s.link = ⟨[], false⟩) (hf : f (s.texts.lookup id) = .keep) :
    fieldUpdate id f s = .ok none s := by
  rw [fieldUpdate, bind_ok (command_ok h _)]
  simp only [hf]
  rfl

/-- What is done to the text of a cause is done to the cause. -/
theorem editCause_stored (f : FailureCause → Option FailureCause) (c : FailureCause) :
    editCause f (some c.stored) = match f c with
      | some c' => .write c'.stored c'
      | none => .keep := by
  have hdecode := FailureCause.decodeText_stored c
  cases hf : f c with
  | some c' => simp only [editCause, hdecode, hf]
  | none => simp only [editCause, hdecode, hf]

/-- The text of a cause is replaced. -/
theorem gives_update {s : CauseHash} {cat : Catalog} (c : FailureCause) (h : Stands s cat)
    (hid : c.id ∈ cat.ids) : Gives Stands (update c) s (.ok true) (cat.save c) := by
  obtain ⟨old, hold⟩ := Option.isSome_iff_exists.mp ((Catalog.get_isSome_iff cat c.id).mpr hid)
  have hlookup : s.texts.lookup c.id = some old.stored := by
    rw [h.lookup_eq, hold]
    rfl
  have hsave : (cat.save c).causes =
      cat.causes.map fun d => if d.id = c.id then c else d := by
    simp only [Catalog.save, hid, dite_true, Catalog.adjust]
    rfl
  refine ⟨_, ?_, stands_set (fun _ => c) h hold (fun _ _ => rfl) hsave⟩
  exact Eq.trans (bind_ok (fieldUpdate_write h.link_up hlookup rfl rfl)) rfl

/-- No text is replaced under an unknown id. -/
theorem gives_update_unknown {s : CauseHash} {cat : Catalog} (c : FailureCause)
    (h : Stands s cat) (hid : c.id ∉ cat.ids) :
    Gives Stands (update c) s (.ok false) cat := by
  have hnone : cat.get c.id = none := by
    rw [← Option.not_isSome_iff_eq_none, Catalog.get_isSome_iff]
    exact hid
  have hlookup : s.texts.lookup c.id = none := by
    rw [h.lookup_eq, hnone]
    rfl
  refine ⟨s, ?_, h⟩
  exact Eq.trans (bind_ok (fieldUpdate_keep c.id h.link_up (by rw [hlookup]))) rfl

/-- A tombstone is put on a cause and its text is written again. -/
theorem gives_tombstone {s : CauseHash} {cat : Catalog} (id : String) (stone : Tombstone)
    (h : Stands s cat) :
    Gives Stands (tombstone id stone) s (.ok ((cat.remove id stone).get id))
      (cat.remove id stone) := by
  rw [Catalog.get_remove]
  cases hc : cat.get id with
  | none =>
    rw [Catalog.remove_unknown hc]
    refine ⟨s, ?_, h⟩
    exact fieldUpdate_keep id h.link_up (by rw [h.lookup_eq, hc]; rfl)
  | some c =>
    have hlookup : s.texts.lookup id = some c.stored := by
      rw [h.lookup_eq, hc]
      rfl
    have hwrite := fieldUpdate_write (a := c.bury stone) h.link_up hlookup
      (editCause_stored (fun c => some (c.bury stone)) c) rfl
    exact ⟨_, hwrite, stands_set (·.bury stone) h hc (fun _ hd => hd) rfl⟩

/-- A cause is seen, and its text is written again if that moves its last occurrence. -/
theorem gives_touch {s : CauseHash} {cat : Catalog} (id : String) (time : UInt64)
    (h : Stands s cat) :
    ∃ moved, Gives Stands (touch id time) s (.ok moved) (cat.lastSeen [id] time) := by
  have hseen := Catalog.lastSeen_one cat id time
  cases hc : cat.get id with
  | none =>
    have hsame : cat.lastSeen [id] time = cat :=
      Catalog.ext_causes (hseen.trans (Catalog.map_unknown hc _))
    have hkeep := fieldUpdate_keep id (f := editCause fun c =>
      if c.touches time then some (c.touch time) else none) h.link_up
      (by rw [h.lookup_eq, hc]; rfl)
    rw [hsame]
    refine ⟨false, s, ?_, h⟩
    rw [touch]
    exact (bind_ok hkeep).trans rfl
  | some c =>
    have hlookup : s.texts.lookup id = some c.stored := by
      rw [h.lookup_eq, hc]
      rfl
    have hedit := editCause_stored
      (fun c => if c.touches time then some (c.touch time) else none) c
    cases hm : c.touches time with
    | true =>
      rw [hm] at hedit
      have hwrite := fieldUpdate_write (a := c.touch time) h.link_up hlookup hedit rfl
      have hid : ∀ d : FailureCause, d.id = id → (d.touch time).id = id := by
        intro d hd
        rw [← hd]
        unfold FailureCause.touch
        split
        · split <;> rfl
        · rfl
      refine ⟨true, _, ?_, stands_set (·.touch time) h hc hid hseen⟩
      rw [touch]
      exact (bind_ok hwrite).trans rfl
    | false =>
      rw [hm] at hedit
      have hkeep := fieldUpdate_keep id h.link_up (hlookup ▸ hedit)
      rw [Catalog.lastSeen_one_still hc hm]
      refine ⟨false, s, ?_, h⟩
      rw [touch]
      exact (bind_ok hkeep).trans rfl

/-- Causes in a key-value store keep a catalog. -/
theorem keeps : Keeps CauseHash Stands where
  get := gives_get
  find := gives_find
  insert := gives_insert
  update := gives_update
  update_unknown := gives_update_unknown
  tombstone := gives_tombstone
  touch id time h _ := gives_touch id time h

end BuildTriage.CauseHash
