import BuildTriage.KnowledgeBase.Error
import BuildTriage.Proofs.Json.Loose

/-!
# The texts of causes

A record depicts a cause when it has the members of the cause, in any order. Whatever
depicts a cause reads as that cause. Replacing or adding a single member of such a record
gives what depicts the cause with that one thing changed.
-/

namespace BuildTriage

open Json RecordReader

/-- A mode is restored from its name. -/
theorem ReaderMode.restores : Restores ReaderMode.encode ReaderMode.decoder :=
  restores_choice fun m => by cases m <;> rfl

/-- A pattern that compiles in its frame makes its indication again. -/
theorem Indication.ofPattern_self (i : Indication) : ofPattern i.pattern i.mode = .ok i := by
  unfold ofPattern
  split
  · next compiled h =>
    have he : (⟨i.pattern, i.mode, compiled, h⟩ : Indication) = i := ext_of rfl rfl
    rw [he]
  · next e h =>
    rw [i.compiles] at h
    exact absurd h (by simp)

/-- An indication is restored: its pattern compiles again. -/
theorem Indication.restores : Restores Indication.encode Indication.decoder := by
  have hread : Restores (fun i : String × ReaderMode =>
      .record [("pattern", .text i.1), ("mode", i.2.encode)]) reader.decode :=
    RecordReader.restores (by decide) fun i =>
      ((takes_required restores_text "pattern" i.1).map Prod.mk
        |>.seq (takes_defaulted ReaderMode.restores "mode" .singleLine i.2) :)
  intro i
  obtain ⟨hexact, hdecode⟩ := hread (i.pattern, i.mode)
  refine ⟨hexact, ?_⟩
  simp only [decoder, encode, hdecode, bind, Except.bind, ofPattern_self]
  rfl

/-- A change is restored. -/
theorem Modification.restores : Restores Modification.encode Modification.decoder :=
  RecordReader.restores (by decide) fun m =>
    ((takes_required restores_text "user" m.user).map Modification.mk
      |>.seq (takes_required restores_word "time" m.time)
      |>.seq (takes_defaulted restores_text "description" "" m.description) :)

/-- A tombstone is restored. -/
theorem Tombstone.restores : Restores Tombstone.encode Tombstone.decoder :=
  RecordReader.restores (by decide) fun t =>
    ((takes_required restores_text "by" t.user).map Tombstone.mk
      |>.seq (takes_required restores_word "time" t.time) :)

namespace FailureCause

/-- The members of the record of a cause before the last occurrence. -/
def leadingMembers (c : FailureCause) : List (String × Value) :=
  [("id", .text c.id), ("name", .text c.name), ("description", .text c.description),
    ("comment", .text c.comment), ("categories", .texts c.categories),
    ("indications", .list (c.indications.map Indication.encode))]

/-- The members of the record of a cause after the last occurrence. -/
def trailingMembers (c : FailureCause) : List (String × Value) :=
  ("modifications", .list (c.modifications.map Modification.encode)) ::
    optionalMember "removed" Tombstone.encode c.removed

/-- The members of the record of a cause, in the order in which they are written. -/
def members (c : FailureCause) : List (String × Value) :=
  c.leadingMembers ++ (optionalMember "lastOccurred" .word c.lastOccurred ++ c.trailingMembers)

/-- A cause is written as the record of its members. -/
theorem encode_eq (c : FailureCause) : c.encode = .record c.members := by
  simp only [encode, members, leadingMembers, trailingMembers, List.append_assoc,
    List.cons_append, List.nil_append]

/-- No two members of a cause have the same name. -/
theorem members_nodup (c : FailureCause) : (c.members.map (·.1)).Nodup := by
  unfold members leadingMembers trailingMembers
  cases c.lastOccurred <;> cases c.removed <;>
    (simp only [optionalMember, List.cons_append, List.nil_append, List.map_cons, List.map_nil]
     decide)

/-- The values of the members of a cause keep their numbers. -/
theorem members_exact (c : FailureCause) : ∀ m ∈ c.members, m.2.Exact := by
  have hcategories := (restores_texts c.categories).1
  have hindications := (Indication.restores.list c.indications).1
  have hmodifications := (Modification.restores.list c.modifications).1
  simp only [members, leadingMembers, trailingMembers, List.forall_mem_append,
    List.forall_mem_cons, forall_mem_optionalMember]
  refine ⟨⟨trivial, trivial, trivial, trivial, hcategories, hindications, by simp⟩, ?_,
    hmodifications, ?_⟩
  · exact fun last _ => (restores_word last).1
  · exact fun stone _ => (Tombstone.restores stone).1

/-- In the value of a member of a cause stands a list of records at most. -/
theorem members_nesting (c : FailureCause) : ∀ m ∈ c.members, m.2.nesting ≤ 2 := by
  have htexts : ∀ ss : List String, (Value.texts ss).nesting ≤ 2 := by
    intro ss
    rw [Value.texts, Value.nesting, Nat.succ_le_succ_iff, itemsNesting_le_iff, List.forall_mem_map]
    exact fun _ _ => Nat.zero_le 1
  have hindications : (Value.list (c.indications.map Indication.encode)).nesting ≤ 2 := by
    rw [Value.nesting, Nat.succ_le_succ_iff, itemsNesting_le_iff, List.forall_mem_map]
    exact fun _ _ => Nat.le_refl 1
  have hmodifications : (Value.list (c.modifications.map Modification.encode)).nesting ≤ 2 := by
    rw [Value.nesting, Nat.succ_le_succ_iff, itemsNesting_le_iff, List.forall_mem_map]
    exact fun _ _ => Nat.le_refl 1
  simp only [members, leadingMembers, trailingMembers, List.forall_mem_append,
    List.forall_mem_cons, forall_mem_optionalMember]
  refine ⟨⟨Nat.zero_le _, Nat.zero_le _, Nat.zero_le _, Nat.zero_le _, htexts _, hindications,
    by simp⟩, fun _ _ => Nat.zero_le _, hmodifications, fun _ _ => Nat.le_succ 1⟩

/-- A last occurrence that is written is read back. -/
theorem read_lastOccurred (last : UInt64) :
    Decoder.option .word (Value.word last).doc = .ok (some last) :=
  restores_word.option last (by simp [Value.word, Value.nat, Value.doc])

/-- A tombstone that is written is read back. -/
theorem read_removed (stone : Tombstone) :
    Decoder.option Tombstone.decoder stone.encode.doc = .ok (some stone) :=
  Tombstone.restores.option stone (by simp [Tombstone.encode, Value.doc])

/-- Every member of a cause is known, and its value reads. -/
theorem members_known (c : FailureCause) : ∀ m ∈ c.members,
    ∃ field, reader.fields.find? (·.name == m.1) = some field ∧ field.probe m.2.doc = .ok () := by
  have hcategories := (restores_texts c.categories).2
  have hindications := (Indication.restores.list c.indications).2
  have hmodifications := (Modification.restores.list c.modifications).2
  simp only [members, leadingMembers, trailingMembers, List.forall_mem_append,
    List.forall_mem_cons, forall_mem_optionalMember]
  simp [reader, RecordReader.required, RecordReader.defaulted, RecordReader.optional, Except.map,
    (restores_text _).2, hcategories, hindications, hmodifications, read_lastOccurred, read_removed]

/-- The members of a cause make the cause again. -/
theorem build_members (c : FailureCause) :
    reader.build (fun name => (c.members.lookup name).map Value.doc) = .ok c := by
  have hcategories := (restores_texts c.categories).2
  have hindications := (Indication.restores.list c.indications).2
  have hmodifications := (Modification.restores.list c.modifications).2
  obtain ⟨id, name, description, comment, categories, indications, last, modifications, stone⟩ := c
  cases last <;> cases stone <;>
    simp [members, leadingMembers, trailingMembers, optionalMember, reader,
      RecordReader.required, RecordReader.defaulted, RecordReader.optional, Except.map, Except.bind,
      List.lookup_cons, (restores_text _).2, hcategories, hindications, hmodifications,
      read_lastOccurred, read_removed]

/-- A record with the members of a cause, in some order. -/
def Depicts (v : Value) (c : FailureCause) : Prop :=
  ∃ members, v = .record members ∧ members.Perm c.members

theorem depicts_encode (c : FailureCause) : Depicts c.encode c :=
  ⟨c.members, encode_eq c, List.Perm.refl _⟩

section Depicted

variable {v : Value} {c : FailureCause}

/-- What depicts a cause keeps its numbers. -/
theorem Depicts.exact (h : Depicts v c) : v.Exact := by
  obtain ⟨members, rfl, hp⟩ := h
  rw [Value.Exact, membersExact_iff]
  exact fun m hm => c.members_exact m (hp.mem_iff.mp hm)

/-- In what depicts a cause not too many lists and records stand in one another. -/
theorem Depicts.nesting (h : Depicts v c) : v.nesting ≤ maxNesting := by
  obtain ⟨members, rfl, hp⟩ := h
  have hmembers : Value.membersNesting members ≤ 2 :=
    membersNesting_le_iff.mpr fun m hm => c.members_nesting m (hp.mem_iff.mp hm)
  rw [Value.nesting, maxNesting]
  omega

/-- What depicts a cause reads as the cause. -/
theorem Depicts.reads (h : Depicts v c) : decoder v.doc = .ok c := by
  obtain ⟨members, rfl, hp⟩ := h
  have hn : (members.map (·.1)).Nodup := (hp.map _).nodup_iff.mpr c.members_nodup
  have hread := RecordReader.decode_members reader members hn
    fun m hm => c.members_known m (hp.mem_iff.mp hm)
  rw [decoder, hread, ← c.build_members]
  congr 1
  funext name
  rw [lookup_perm hp hn name]

/-- The last occurrence of the cause stands in what depicts it. -/
theorem Depicts.lastOccurred (h : Depicts v c) :
    v.firstMember? "lastOccurred" = c.lastOccurred.map .word := by
  obtain ⟨members, rfl, hp⟩ := h
  have hn : (members.map (·.1)).Nodup := (hp.map _).nodup_iff.mpr c.members_nodup
  rw [Value.firstMember?, lookup_perm hp hn]
  unfold FailureCause.members leadingMembers trailingMembers
  cases c.lastOccurred <;> cases c.removed <;> rfl

/-- Setting a member of what depicts a cause gives its other members, with that one. -/
theorem Depicts.setMember (h : Depicts v c) (name : String) (w : Value) :
    ∃ members, v.setMember name w = .record members ∧
      members.Perm ((name, w) :: c.members.filter (·.1 != name)) := by
  obtain ⟨members, rfl, hp⟩ := h
  have hn : (members.map (·.1)).Nodup := (hp.map _).nodup_iff.mpr c.members_nodup
  exact ⟨setIn name w members, rfl,
    (setIn_perm name w members hn).trans ((hp.filter _).cons _)⟩

/-- Setting the tombstone in what depicts a cause gives what depicts the buried cause. -/
theorem Depicts.bury (h : Depicts v c) (stone : Tombstone) :
    Depicts (v.setMember "removed" stone.encode) (c.bury stone) := by
  obtain ⟨members, hm, hp⟩ := h.setMember "removed" stone.encode
  refine ⟨members, hm, hp.trans ?_⟩
  have hbury : (c.bury stone).members =
      c.members.filter (·.1 != "removed") ++ [("removed", stone.encode)] := by
    simp only [FailureCause.bury, FailureCause.members, leadingMembers, trailingMembers]
    cases c.lastOccurred <;> cases c.removed <;> rfl
  rw [hbury]
  exact (List.perm_append_singleton _ _).symm

/-- Setting the last occurrence in what depicts a cause gives what depicts the cause seen at
that time. -/
theorem Depicts.seen (h : Depicts v c) (time : UInt64) :
    Depicts (v.setMember "lastOccurred" (.word time)) { c with lastOccurred := some time } := by
  obtain ⟨members, hm, hp⟩ := h.setMember "lastOccurred" (.word time)
  refine ⟨members, hm, hp.trans ?_⟩
  have hothers : c.members.filter (·.1 != "lastOccurred") =
      c.leadingMembers ++ c.trailingMembers := by
    unfold FailureCause.members leadingMembers trailingMembers
    cases c.lastOccurred <;> cases c.removed <;> rfl
  have hseen : ({ c with lastOccurred := some time } : FailureCause).members =
      c.leadingMembers ++ ("lastOccurred", .word time) :: c.trailingMembers := by
    simp only [FailureCause.members, optionalMember, List.cons_append, List.nil_append]
    rfl
  rw [hothers, hseen]
  exact List.perm_middle.symm

end Depicted

/-- The stored text of a cause reads as the cause. -/
theorem decodeText_stored (c : FailureCause) : decodeText decoder c.stored = .ok c := by
  rw [stored, decodeText_compact decoder _ (depicts_encode c).exact]
  exact (depicts_encode c).reads

end FailureCause

end BuildTriage
