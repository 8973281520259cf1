import BuildTriage.Proofs.KnowledgeBase.Conversion.Catalogued

/-!
# What an insertion leaves that is cut off

An insertion into a key-value store is three commands: it asks for the field of the id, sets the
field, and puts the id at the end of the list. If the first or the second fails, all is as it
was. If the third fails, the insertion is torn: the text has its field and no place in the list.
Then the cause is given to those who ask for its id and to no others, and inserting it once more
is refused. No other operation takes the two apart, so that of all the causes given for their
ids just those of torn insertions are not found by a query for everything.
-/

namespace BuildTriage

variable {σ α : Type}

/-- An operation of a document store. -/
inductive DocumentStore.Call where
  /-- A cause is asked for. -/
  | get (id : String)
  /-- Causes are looked for. -/
  | find (q : CauseQuery)
  /-- A cause is inserted. -/
  | insert (c : FailureCause)
  /-- A cause is replaced. -/
  | update (c : FailureCause)
  /-- A tombstone is put on a cause. -/
  | tombstone (id : String) (stone : Tombstone)
  /-- A cause is seen. -/
  | touch (id : String) (time : UInt64)
  /-- A record is kept. -/
  | appendStatistics (r : Statistics)
  /-- Records are looked for. -/
  | findStatistics (f : StatisticsFilter) (limit : Option UInt64)

/-- The store after an operation, whether it succeeds or fails. -/
def DocumentStore.Call.next [DocumentStore σ] : DocumentStore.Call → σ → σ
  | .get id, s => (outcome (DocumentStore.get id) s).2
  | .find q, s => (outcome (DocumentStore.find q) s).2
  | .insert c, s => (outcome (DocumentStore.insert c) s).2
  | .update c, s => (outcome (DocumentStore.update c) s).2
  | .tombstone id stone, s => (outcome (DocumentStore.tombstone id stone) s).2
  | .touch id time, s => (outcome (DocumentStore.touch id time) s).2
  | .appendStatistics r, s => (outcome (DocumentStore.appendStatistics r) s).2
  | .findStatistics f limit, s => (outcome (DocumentStore.findStatistics f limit) s).2

namespace CauseHash

variable {s : CauseHash} {torn : List String} {all : List FailureCause} {c : FailureCause}
  {id : String}

/-- An insertion sets the field: the id is new, and the first two commands do not fail. -/
def Writes (s : CauseHash) (c : FailureCause) : Prop :=
  s.texts.lookup c.id = none ∧ s.link.fails 0 = false ∧ s.link.fails 1 = false

/-- An insertion is torn: it sets the field, and the last command fails. -/
def Tears (s : CauseHash) (c : FailureCause) : Prop := s.Writes c ∧ s.link.fails 2 = true

instance (s : CauseHash) (c : FailureCause) : Decidable (s.Writes c) :=
  inferInstanceAs (Decidable (_ ∧ _ ∧ _))

instance (s : CauseHash) (c : FailureCause) : Decidable (s.Tears c) :=
  inferInstanceAs (Decidable (_ ∧ _))

/-- The store once the field of a cause is set. -/
def written (s : CauseHash) (c : FailureCause) : CauseHash :=
  { s with texts := setField c.id c.stored s.texts, link := s.link.after 3 }

/-- An insertion that sets the field fails if it is torn. -/
theorem insert_of_writes (h : s.Writes c) : insert c s =
    if s.link.fails 2 then .error (.query .redis .offline) (s.written c)
    else .ok () { s.written c with ids := s.ids ++ [c.id] } := by
  obtain ⟨hnew, h0, h1⟩ := h
  rw [insert_eq, h0, hnew, h1]
  rfl

theorem insert_of_tears (h : s.Tears c) :
    insert c s = .error (.query .redis .offline) (s.written c) := by
  rw [insert_of_writes h.1, if_pos h.2]

/-- An insertion that does not set the field fails, and changes nothing but the link. -/
theorem insert_of_not_writes (h : ¬s.Writes c) :
    ∃ e link, insert c s = .error e { s with link := link } := by
  rw [insert_eq]
  split
  · exact ⟨_, _, rfl⟩
  next h0 =>
  split
  · exact ⟨_, _, rfl⟩
  next hknown =>
  split
  · exact ⟨_, _, rfl⟩
  next h1 =>
  rw [Bool.not_eq_true] at h0 h1
  rw [Bool.not_eq_true, Option.isSome_eq_false_iff, Option.isNone_iff_eq_none] at hknown
  exact absurd ⟨hknown, h0, h1⟩ h

/-- The id of a cause whose insertion is torn. -/
def tornBy (s : CauseHash) : DocumentStore.Call → List String
  | .insert c => if s.Tears c then [c.id] else []
  | _ => []

/-- The stores that are reached from an empty one by operations, whatever commands fail, with
the ids of the torn insertions. -/
inductive Reached : List String → CauseHash → Prop where
  /-- A store without causes. -/
  | empty : Reached [] empty
  /-- The link becomes another one. -/
  | relink {torn : List String} {s : CauseHash} (h : Reached torn s) (link : Link) :
    Reached torn { s with link := link }
  /-- An operation succeeds or fails. -/
  | call {torn : List String} {s : CauseHash} (h : Reached torn s) (call : DocumentStore.Call) :
    Reached (torn ++ s.tornBy call) (call.next s)

/-- The texts are those of the listed ids and of the torn ones. -/
structure Accounted (torn : List String) (s : CauseHash) : Prop where
  /-- Each text is that of a cause of its key, and the ids of the list have texts. -/
  distinct : Distinct s
  /-- The keys are the ids of the list and the torn ones. -/
  keys_perm : s.keys.Perm (s.ids ++ torn)

theorem Accounted.congr {t : CauseHash} (h : Accounted torn s) (htexts : t.texts = s.texts)
    (hids : t.ids = s.ids) : Accounted torn t := by
  refine ⟨h.distinct.congr htexts hids, ?_⟩
  rw [keys, htexts, hids]
  exact h.keys_perm

/-- Records are read. -/
theorem reads_findStatistics (f : StatisticsFilter) (limit : Option UInt64) :
    Reads mended (findStatistics f limit) s := by
  refine (reads_command fun _ => rfl).bind fun texts _ => ?_
  refine (reads_mapM (fun text _ => ?_) texts).bind fun _ _ => reads_pure _
  split
  · exact reads_pure _
  · exact reads_throw _

/-- What only reads leaves everything but the link. -/
theorem Accounted.read {op : Op CauseHash α} (h : Accounted torn s) (hop : Reads mended op s) :
    Accounted torn (outcome op s).2 := by
  have hleaves : Leaves (Accounted torn) op s fun _ _ => True := hop.leaves fun t hlink =>
    have htexts : t.mended.texts = s.mended.texts := by rw [hlink]
    have hids : t.mended.ids = s.mended.ids := by rw [hlink]
    h.congr htexts hids
  exact hleaves.outcome

/-- A change of a text leaves the keys and the list. -/
theorem leaves_fieldUpdate_accounted {f : Option String → Edit α} (h : Accounted torn s)
    (hf : s.Amends id f) : Leaves (Accounted torn) (fieldUpdate id f) s fun _ _ => True := by
  refine (leaves_fieldUpdate (fun _ => h.congr rfl rfl) fun text a hwrite link => ?_).mono
    fun _ _ _ _ => trivial
  obtain ⟨hid, hnew⟩ := hf text a hwrite
  refine ⟨(h.distinct.set hid hnew).relink link, ?_⟩
  have hkeys : (setField id text s.texts).map (·.1) = s.keys := keys_setField text hid
  rw [keys, hkeys]
  exact h.keys_perm

/-- A field that is set anew has a key of its own. -/
theorem keys_written (h : s.Writes c) : (s.written c).keys = s.keys ++ [c.id] := by
  rw [keys, written, setField_new c.stored (not_mem_of_lookup h.1), List.map_append]
  rfl

/-- An insertion leaves the texts accounted for, if its id is counted as torn when it is. -/
theorem Accounted.insert (h : Accounted torn s) (c : FailureCause) :
    Accounted (torn ++ s.tornBy (.insert c)) (outcome (insert c) s).2 := by
  refine ⟨(leaves_insert c h.distinct).outcome, ?_⟩
  by_cases hwrites : s.Writes c
  · rw [outcome, insert_of_writes hwrites]
    by_cases hlast : s.link.fails 2 = true
    · have htorn : s.tornBy (.insert c) = [c.id] := if_pos ⟨hwrites, hlast⟩
      rw [if_pos hlast, htorn, ← List.append_assoc]
      change (s.written c).keys.Perm (s.ids ++ torn ++ [c.id])
      rw [keys_written hwrites]
      exact h.keys_perm.append_right [c.id]
    · have htorn : s.tornBy (.insert c) = [] := if_neg fun ht => hlast ht.2
      rw [if_neg hlast, htorn, List.append_nil]
      change (s.written c).keys.Perm (s.ids ++ [c.id] ++ torn)
      rw [keys_written hwrites]
      calc s.keys ++ [c.id]
        _ |>.Perm (s.ids ++ torn ++ [c.id]) := h.keys_perm.append_right [c.id]
        _ |>.Perm (s.ids ++ [c.id] ++ torn) := by
          rw [List.append_assoc, List.append_assoc]
          exact List.perm_append_comm.append_left s.ids
  · obtain ⟨e, link, hrun⟩ := insert_of_not_writes hwrites
    have htorn : s.tornBy (.insert c) = [] := if_neg fun ht => hwrites ht.1
    rw [outcome, hrun, htorn, List.append_nil]
    exact h.keys_perm

/-- Every operation leaves the texts accounted for. -/
theorem Accounted.next (h : Accounted torn s) (call : DocumentStore.Call) :
    Accounted (torn ++ s.tornBy call) (call.next s) := by
  -- but for an insertion, nothing is torn
  have hwhole : ∀ {t}, Accounted torn t → Accounted (torn ++ []) t := fun h => by
    rwa [List.append_nil]
  cases call with
  | insert c => exact h.insert c
  | get id => exact hwhole (h.read (reads_get id))
  | find q => exact hwhole (h.read reads_find)
  | findStatistics f limit => exact hwhole (h.read (reads_findStatistics f limit))
  | update c =>
    have hupdate : Leaves (Accounted torn) (update c) s fun _ _ => True :=
      (leaves_fieldUpdate_accounted h (amends_update c)).answer
    exact hwhole hupdate.outcome
  | tombstone id stone =>
    exact hwhole (leaves_fieldUpdate_accounted h (amends_bury id stone h.distinct)).outcome
  | touch id time =>
    have htouch : Leaves (Accounted torn) (touch id time) s fun _ _ => True :=
      (leaves_fieldUpdate_accounted h (amends_touch id time h.distinct)).answer
    exact hwhole htouch.outcome
  | appendStatistics r =>
    have happend : Leaves (Accounted torn) (DocumentStore.appendStatistics r) s fun _ _ => True :=
      leaves_command (fun _ => h.congr rfl rfl) fun _ => ⟨h.congr rfl rfl, trivial⟩
    exact hwhole happend.outcome

/-- The texts of a store that is reached are accounted for. -/
theorem Reached.accounted (h : Reached torn s) : Accounted torn s := by
  induction h with
  | empty => exact ⟨⟨List.nodup_nil, nofun, List.nodup_nil, nofun⟩, .nil⟩
  | relink _ link ih => exact ih.congr rfl rfl
  | call _ call ih => exact ih.next call

/-- Asked for an id over some link, the store gives a cause. -/
def Gets (s : CauseHash) (id : String) (c : FailureCause) : Prop :=
  ∃ link t, getCause id { s with link := link } = .ok (some c) t

/-- Asked over some link for the causes that a query selects, the store gives some. -/
def Finds (s : CauseHash) (q : CauseQuery) (found : List FailureCause) : Prop :=
  ∃ link t, findCauses q { s with link := link } = .ok found t

/-- A cause is given for its id if its text is in the hash. -/
theorem gets_iff (h : Distinct s) : s.Gets id c ↔ s.texts.lookup id = some c.stored := by
  have hfield : fieldGet id s.mended = .ok (s.texts.lookup id) s.mended := command_ok rfl _
  have hread : ∀ d : FailureCause,
      (FailureCause.ofStored d.stored : Op CauseHash _) s.mended = .ok d s.mended := fun d => by
    rw [FailureCause.ofStored, FailureCause.decodeText_stored]
    rfl
  constructor
  · rintro ⟨link, t, hrun⟩
    have hmended := ((reads_get id).ok _ _ hrun).1
    change getCause id s.mended = .ok (some c) s.mended at hmended
    rw [getCause, bind_ok hfield] at hmended
    cases hlookup : s.texts.lookup id with
    | none => rw [hlookup] at hmended; cases hmended
    | some text =>
      obtain ⟨d, rfl, -⟩ := h.named _ (mem_of_lookup hlookup)
      simp only [hlookup] at hmended
      rw [bind_ok (hread d)] at hmended
      cases hmended
      rfl
  · intro hlookup
    refine ⟨⟨[], false⟩, s.mended, ?_⟩
    change getCause id s.mended = _
    rw [getCause, bind_ok hfield, hlookup]
    exact bind_ok (hread c)

/-- For a key a cause is given that has it for its id. -/
theorem exists_gets (h : Distinct s) (hkey : id ∈ s.keys) : ∃ c, c.id = id ∧ s.Gets id c := by
  cases hlookup : s.texts.lookup id with
  | none => exact absurd hkey (not_mem_of_lookup hlookup)
  | some text =>
    obtain ⟨c, rfl, hid⟩ := h.named _ (mem_of_lookup hlookup)
    exact ⟨c, hid, (gets_iff h).mpr hlookup⟩

/-- An id is new if no cause is given for it. -/
theorem lookup_eq_none_iff (h : Distinct s) :
    s.texts.lookup id = none ↔ ∀ d, ¬s.Gets id d := by
  constructor
  · intro hnone d hd
    rw [gets_iff h, hnone] at hd
    cases hd
  · intro hnew
    refine Option.eq_none_iff_forall_ne_some.mpr fun text hlookup => ?_
    obtain ⟨d, -, hd⟩ := exists_gets h (List.mem_map_of_mem (mem_of_lookup hlookup))
    exact hnew d hd

/-- What a query selects is found among the listed causes. -/
theorem finds_iff (h : Lists s all) (q : CauseQuery) (found : List FailureCause) :
    s.Finds q found ↔ found = all.filter q.selects := by
  have hlists : Lists s.mended all := ⟨h.ids_eq, h.lookup_eq⟩
  have hmended := findCauses_ok rfl hlists q
  constructor
  · rintro ⟨link, t, hrun⟩
    have hsame := (reads_find.ok _ _ hrun).1
    change findCauses q s.mended = .ok found s.mended at hsame
    rw [hmended] at hsame
    exact (EStateM.Result.ok.inj hsame).1.symm
  · rintro rfl
    exact ⟨⟨[], false⟩, s.mended, hmended⟩

/-- The answers of a store: queries are answered from a list of causes, and these are the causes
that are given for their ids, apart from the torn ones. -/
structure Answers (torn : List String) (s : CauseHash) (all : List FailureCause) : Prop where
  /-- A query finds the causes that it selects, in order. -/
  finds : ∀ q found, s.Finds q found ↔ found = all.filter q.selects
  /-- A query for everything finds them all. -/
  finds_all : ∀ found, s.Finds ⟨true, none⟩ found ↔ found = all
  /-- No id is found twice. -/
  nodup : (all.map (·.id)).Nodup
  /-- A cause that is given for an id is found under it, unless it is torn. -/
  gets : ∀ id c, c ∈ all ∧ c.id = id ↔ s.Gets id c ∧ id ∉ torn
  /-- A torn cause is given for its id. -/
  gets_torn : ∀ id ∈ torn, ∃ c, c.id = id ∧ s.Gets id c

/-- A store whose texts are accounted for answers so. -/
theorem Accounted.answers (h : Accounted torn s) (hall : Lists s all) : Answers torn s all where
  finds := finds_iff hall
  finds_all found := by
    have hselects : all.filter (CauseQuery.selects ⟨true, none⟩) = all :=
      List.filter_eq_self.mpr fun _ _ => rfl
    rw [finds_iff hall, hselects]
  nodup := hall.ids_eq ▸ h.distinct.listed_nodup
  gets id c := by
    rw [gets_iff h.distinct]
    have hnodup : (s.ids ++ torn).Nodup := h.keys_perm.nodup h.distinct.nodup
    constructor
    · rintro ⟨hc, rfl⟩
      have hid : c.id ∈ s.ids := hall.ids_eq ▸ List.mem_map_of_mem hc
      exact ⟨hall.lookup_eq c hc, fun htorn => (List.nodup_append.mp hnodup).2.2 _ hid _ htorn rfl⟩
    · rintro ⟨hlookup, htorn⟩
      have hkey : id ∈ s.keys := List.mem_map_of_mem (mem_of_lookup hlookup)
      have hid : id ∈ s.ids :=
        (List.mem_append.mp (h.keys_perm.mem_iff.mp hkey)).resolve_right htorn
      rw [hall.ids_eq] at hid
      obtain ⟨d, hd, rfl⟩ := List.mem_map.mp hid
      rw [hall.lookup_eq d hd, Option.some.injEq] at hlookup
      obtain rfl := stored_injective hlookup
      exact ⟨hd, rfl⟩
  gets_torn id htorn :=
    exists_gets h.distinct (h.keys_perm.mem_iff.mpr (List.mem_append_right _ htorn))

/-- What an insertion does to the answers of a store. -/
structure Inserts (torn : List String) (s : CauseHash) (all : List FailureCause)
    (c : FailureCause) : Prop where
  /-- It succeeds if no command fails and no cause is given for its id. -/
  succeeds_iff : (∃ t, insert c s = .ok () t) ↔
    (∀ n < 3, s.link.fails n = false) ∧ ∀ d, ¬s.Gets c.id d
  /-- If it succeeds, then the cause is found after all others. -/
  ok : ∀ t, insert c s = .ok () t → Answers torn t (all ++ [c])
  /-- If it fails and is not torn, then nothing but the link has changed. -/
  error : ∀ e t, insert c s = .error e t → ¬s.Tears c → ∃ link, t = { s with link := link }
  /-- If it is torn, then it fails; the cause is given for its id and not found, and inserting it
  again is refused. -/
  torn : s.Tears c → ∃ t, insert c s = .error (.query .redis .offline) t ∧
    Answers (torn ++ [c.id]) t all ∧ t.Gets c.id c ∧
    ∀ link, link.fails 0 = false → insert c { t with link := link } =
      .error (.query .redis (.duplicateId c.id)) { t with link := link.after 1 }

/-- An insertion succeeds if it sets the field and its last command does not fail. -/
theorem insert_ok_iff : (∃ t, insert c s = .ok () t) ↔ s.Writes c ∧ s.link.fails 2 = false := by
  by_cases hwrites : s.Writes c
  · rw [insert_of_writes hwrites]
    cases s.link.fails 2 with
    | true => exact ⟨nofun, nofun⟩
    | false => exact ⟨fun _ => ⟨hwrites, rfl⟩, fun _ => ⟨_, rfl⟩⟩
  · obtain ⟨e, link, hrun⟩ := insert_of_not_writes hwrites
    rw [hrun]
    exact ⟨nofun, fun hdone => absurd hdone.1 hwrites⟩

/-- The text of the cause is found in the new field. -/
theorem lookup_written_self : (s.written c).texts.lookup c.id = some c.stored := by
  rw [written, lookup_setField, if_pos rfl]

/-- The listed causes are found in their places once a new field is set. -/
theorem lookup_written (hall : Lists s all) (hwrites : s.Writes c) :
    ∀ d ∈ all, (s.written c).texts.lookup d.id = some d.stored := by
  intro d hd
  have hne : d.id ≠ c.id := fun hid => by
    have hlookup := hall.lookup_eq d hd
    rw [hid, hwrites.1] at hlookup
    cases hlookup
  rw [written, lookup_setField, if_neg hne]
  exact hall.lookup_eq d hd

/-- What an insertion into a store comes to whose texts are accounted for. -/
theorem Accounted.inserts (h : Accounted torn s) (hall : Lists s all) (c : FailureCause) :
    Inserts torn s all c where
  succeeds_iff := by
    rw [insert_ok_iff, Writes, ← lookup_eq_none_iff h.distinct]
    constructor
    · rintro ⟨⟨hnew, h0, h1⟩, h2⟩
      exact ⟨fun | 0, _ => h0 | 1, _ => h1 | 2, _ => h2, hnew⟩
    · rintro ⟨hlink, hnew⟩
      exact ⟨⟨hnew, hlink 0 (by decide), hlink 1 (by decide)⟩, hlink 2 (by decide)⟩
  ok t hrun := by
    have hnext := h.insert c
    obtain ⟨hwrites, h2⟩ := insert_ok_iff.mp ⟨t, hrun⟩
    have hwhole : s.tornBy (.insert c) = [] := if_neg fun ht => by
      rw [ht.2] at h2
      cases h2
    rw [outcome, hrun, hwhole, List.append_nil] at hnext
    rw [insert_of_writes hwrites, h2] at hrun
    cases hrun
    refine hnext.answers ⟨?_, ?_⟩
    · rw [List.map_append, ← hall.ids_eq]
      rfl
    · exact List.forall_mem_append.mpr
        ⟨lookup_written hall hwrites, List.forall_mem_singleton.mpr lookup_written_self⟩
  error e t hrun hwhole := by
    by_cases hwrites : s.Writes c
    · have h2 : s.link.fails 2 = false := by
        rw [← Bool.not_eq_true]
        exact fun h2 => hwhole ⟨hwrites, h2⟩
      rw [insert_of_writes hwrites, h2] at hrun
      cases hrun
    · obtain ⟨_, link, hfails⟩ := insert_of_not_writes hwrites
      rw [hfails] at hrun
      cases hrun
      exact ⟨link, rfl⟩
  torn htears := by
    have hnext := h.insert c
    have hrun := insert_of_tears htears
    have htorn : s.tornBy (.insert c) = [c.id] := if_pos htears
    rw [outcome, hrun, htorn] at hnext
    have hgets : (s.written c).Gets c.id c := (gets_iff hnext.distinct).mpr lookup_written_self
    refine ⟨s.written c, hrun, ?_, hgets, fun link hlink => ?_⟩
    · exact hnext.answers ⟨hall.ids_eq, lookup_written hall htears.1⟩
    · have hlookup : (s.written c).texts.lookup c.id = some c.stored := lookup_written_self
      rw [insert_eq]
      simp only [hlink, hlookup, Bool.false_eq_true, if_false, Option.isSome_some, if_true]

/-- In every store that is reached, whatever commands failed on the way, the causes that are
given for their ids are those that a query for everything finds, apart from those of torn
insertions. An insertion that fails changes nothing unless it is torn, that is, unless its last
command fails; then its cause is torn. -/
theorem insertions_whole_or_torn (h : Reached torn s) :
    ∃ all, Answers torn s all ∧ ∀ c, Inserts torn s all c := by
  obtain ⟨all, hall⟩ := exists_lists h.accounted.distinct
  exact ⟨all, h.accounted.answers hall, h.accounted.inserts hall⟩

/-- An empty store over a link of which the third command fails. -/
def cutOff : CauseHash := { empty with link := ⟨[false, false, true], false⟩ }

/-- A cause. -/
def sampleCause : FailureCause := (FailureCause.named "A" "").identified "a"

/-- The store once the insertion of a cause is torn. -/
def tornStore : CauseHash := (DocumentStore.Call.insert sampleCause).next cutOff

theorem insertions_whole_or_torn_cutOff :
    Reached ["a"] tornStore ∧
    ∃ all, Answers ["a"] tornStore all ∧ ∀ c, Inserts ["a"] tornStore all c := by
  have htears : cutOff.Tears sampleCause := by decide +kernel
  have htorn : cutOff.tornBy (.insert sampleCause) = ["a"] := by
    rw [tornBy, if_pos htears]
    rfl
  have hreached : Reached ([] ++ cutOff.tornBy (.insert sampleCause)) tornStore :=
    .call (.relink .empty _) (.insert sampleCause)
  rw [htorn] at hreached
  exact ⟨hreached, insertions_whole_or_torn hreached⟩

/-- An insertion into the empty store fails with its last command. Then its cause is given for
its id, where none was before; it is not found; and inserting it again is refused, which would
have succeeded before. -/
theorem given_though_not_found :
    Reached [] cutOff ∧ cutOff.ids = cutOff.keys ∧
    (outcome (insert sampleCause) cutOff).1 = .error (.query .redis .offline) ∧
    (outcome (getCause "a") cutOff.mended).1 = .ok none ∧
    (outcome (getCause "a") tornStore.mended).1 = .ok (some sampleCause) ∧
    (outcome (findCauses ⟨true, none⟩) tornStore.mended).1 = .ok [] ∧
    (outcome (insert sampleCause) cutOff.mended).1 = .ok () ∧
    (outcome (insert sampleCause) tornStore.mended).1 =
      .error (.query .redis (.duplicateId "a")) :=
  ⟨.relink .empty _, by decide +kernel⟩

end CauseHash

end BuildTriage
