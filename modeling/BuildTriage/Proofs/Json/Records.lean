import BuildTriage.Json.Edit
import BuildTriage.Proofs.Json.RoundTrip

/-!
# Records read back

A reader restores a written form when it gives back every value that was written. Readers
of scalars and lists do so; a reader of a record meets each member under its name,
wherever it stands among the others.
-/

namespace BuildTriage.Json

/-- What is written keeps its numbers, and reads back as what it was written for. -/
def Restores {α : Type} (encode : α → Value) (read : Decoder α) : Prop :=
  ∀ a, (encode a).Exact ∧ read (encode a).doc = .ok a

variable {α β : Type}

/-- What is restored from a value is restored from its compact text. -/
theorem Restores.compact {encode : α → Value} {read : Decoder α} (h : Restores encode read)
    (a : α) : decodeText read (encode a).compact = .ok a := by
  rw [decodeText_compact read _ (h a).1]
  exact (h a).2

/-- What is restored from a value is restored from its indented text. -/
theorem Restores.indented {encode : α → Value} {read : Decoder α} (h : Restores encode read)
    (a : α) : decodeText read (encode a).indented = .ok a := by
  rw [decodeText_indented read _ (h a).1]
  exact (h a).2

/-- Texts are restored. -/
theorem restores_text : Restores Value.text Decoder.text := fun _ => ⟨trivial, rfl⟩

/-- Unsigned numbers of 64 bits are restored. -/
theorem restores_word : Restores Value.word Decoder.word := by
  intro n
  have hn : n.toNat ≤ maxWord := by
    have h := n.toNat_lt
    simp only [maxWord, UInt64.size]
    omega
  refine ⟨hn, ?_⟩
  simp only [Value.word, Value.nat, Value.doc, Decoder.word, hn, if_true, UInt64.ofNat_toNat]

/-- A choice among names is restored if each value goes by a name that it is found under. -/
theorem restores_choice {choices : List (String × α)} {name : α → String}
    (h : ∀ a, chooseName choices (name a) = .ok a) :
    Restores (fun a => .text (name a)) (.choice choices) := by
  intro a
  refine ⟨trivial, ?_⟩
  simp only [Value.doc, Decoder.choice, bind, Except.bind, h]

/-- Lists are restored if their items are. -/
theorem Restores.list {encode : α → Value} {read : Decoder α} (h : Restores encode read) :
    Restores (fun items => .list (items.map encode)) (.list read) := by
  intro items
  have hexact : (Value.list (items.map encode)).Exact := by
    simp only [Value.Exact, itemsExact_iff, List.mem_map]
    rintro v ⟨a, -, rfl⟩
    exact (h a).1
  have hread : (Value.itemDocs (items.map encode)).mapM read = .ok items := by
    induction items with
    | nil => rfl
    | cons a rest ih =>
      have hrest := ih (by
        simp only [Value.Exact, List.map_cons, Value.ItemsExact] at hexact ⊢
        exact hexact.2)
      simp only [List.map_cons, Value.itemDocs, List.mapM_cons, (h a).2, hrest]
      rfl
  refine ⟨hexact, ?_⟩
  simp only [Value.doc, Decoder.list, hread]
  rfl

/-- A list of texts is restored. -/
theorem restores_texts : Restores Value.texts (.list .text) := restores_text.list

/-- An optional value is read back where it is written. -/
theorem Restores.option {encode : α → Value} {read : Decoder α} (h : Restores encode read)
    (a : α) (hnull : (encode a).doc ≠ .null) :
    Decoder.option read (encode a).doc = .ok (some a) := by
  have hread := (h a).2
  cases hd : (encode a).doc with
  | null => exact absurd hd hnull
  | bool b => rw [hd] at hread; simp only [Decoder.option, hread]; rfl
  | number n => rw [hd] at hread; simp only [Decoder.option, hread]; rfl
  | text s => rw [hd] at hread; simp only [Decoder.option, hread]; rfl
  | list items ending => rw [hd] at hread; simp only [Decoder.option, hread]; rfl
  | record members ending => rw [hd] at hread; simp only [Decoder.option, hread]; rfl
  | broken used skipped => rw [hd] at hread; simp only [Decoder.option, hread]; rfl

/-- A value that may be missing is restored, if no value is written as a null. -/
theorem Restores.ofOption {encode : α → Value} {read : Decoder α} (h : Restores encode read)
    (hnull : ∀ a, (encode a).doc ≠ .null) :
    Restores (Value.ofOption encode) (Decoder.option read) := by
  intro o
  cases o with
  | none => exact ⟨trivial, rfl⟩
  | some a => exact ⟨(h a).1, h.option a (hnull a)⟩

/-- Looking a name up is not changed by what is done to the values. -/
theorem lookup_map_snd (f : α → β) (name : String) (members : List (String × α)) :
    (members.map fun m => (m.1, f m.2)).lookup name = (members.lookup name).map f := by
  induction members with
  | nil => rfl
  | cons m rest ih =>
    obtain ⟨k, a⟩ := m
    cases h : name == k with
    | true => simp only [List.map_cons, List.lookup_cons, h, Option.map_some]
    | false => simp only [List.map_cons, List.lookup_cons, h, ih]

/-- Of different names, each is looked up to its own value. -/
theorem lookup_eq_some_of_mem {members : List (String × α)} {name : String} {a : α}
    (hn : (members.map (·.1)).Nodup) (hm : (name, a) ∈ members) :
    members.lookup name = some a := by
  induction members with
  | nil => exact absurd hm (by simp)
  | cons m rest ih =>
    obtain ⟨k, b⟩ := m
    rw [List.map_cons, List.nodup_cons] at hn
    rcases List.mem_cons.mp hm with he | hr
    · obtain ⟨rfl, rfl⟩ := Prod.mk.inj he
      simp only [List.lookup_cons, BEq.rfl]
    · have hne : (name == k) = false := by
        rw [beq_eq_false_iff_ne]
        rintro rfl
        exact hn.1 (List.mem_map.mpr ⟨_, hr, rfl⟩)
      simp only [List.lookup_cons, hne, ih hn.2 hr]

/-- A name that no member has is not looked up to anything. -/
theorem lookup_eq_none_of_not_mem {members : List (String × α)} {name : String}
    (hm : name ∉ members.map (·.1)) : members.lookup name = none := by
  rw [List.lookup_eq_none_iff]
  rintro m hmem
  rw [bne_iff_ne]
  rintro rfl
  exact hm (List.mem_map.mpr ⟨m, hmem, rfl⟩)

/-- What a name is looked up to does not depend on the order of the members. -/
theorem lookup_perm {members others : List (String × α)} (hp : members.Perm others)
    (hn : (members.map (·.1)).Nodup) (name : String) :
    members.lookup name = others.lookup name := by
  have hkeys := hp.map (·.1)
  by_cases hm : name ∈ members.map (·.1)
  · obtain ⟨⟨k, a⟩, ha, rfl⟩ := List.mem_map.mp hm
    rw [lookup_eq_some_of_mem hn ha,
      lookup_eq_some_of_mem (hkeys.nodup_iff.mp hn) (hp.mem_iff.mp ha)]
  · rw [lookup_eq_none_of_not_mem hm,
      lookup_eq_none_of_not_mem fun h => hm (hkeys.mem_iff.mpr h)]

/-- The members with one replaced or added. -/
def setIn (name : String) (v : Value) : List (String × Value) → List (String × Value)
  | [] => [(name, v)]
  | (k, w) :: rest => if k = name then (k, v) :: rest else (k, w) :: setIn name v rest

/-- A record with one member replaced or added. -/
def Value.setMember (record : Value) (name : String) (v : Value) : Value :=
  match record with
  | .record members => .record (setIn name v members)
  | other => other

/-- The first member of that name, when the value is a record that has one. -/
def Value.firstMember? (record : Value) (name : String) : Option Value :=
  match record with
  | .record members => members.lookup name
  | _ => none

/-- A member that is set takes the place of the one of its name, if there is one. -/
theorem setIn_perm (name : String) (v : Value) (members : List (String × Value))
    (hn : (members.map (·.1)).Nodup) :
    (setIn name v members).Perm ((name, v) :: members.filter (·.1 != name)) := by
  induction members with
  | nil => exact List.Perm.refl _
  | cons m rest ih =>
    obtain ⟨k, w⟩ := m
    rw [List.map_cons, List.nodup_cons] at hn
    by_cases hk : k = name
    · subst hk
      have hrest : rest.filter (·.1 != k) = rest := by
        rw [List.filter_eq_self]
        intro m hm
        rw [bne_iff_ne]
        rintro he
        exact hn.1 (List.mem_map.mpr ⟨m, hm, he⟩)
      simp only [setIn, if_true, List.filter_cons, bne_self_eq_false, Bool.false_eq_true,
        if_false, hrest]
      exact List.Perm.refl _
    · have hkeep : (k != name) = true := bne_iff_ne.mpr hk
      simp only [setIn, hk, if_false, List.filter_cons, hkeep, if_true]
      exact ((ih hn.2).cons (k, w)).trans (List.Perm.swap _ _ _)

/-- Setting a member leaves the others as they are. -/
theorem lookup_setIn {name other : String} (h : other ≠ name) (v : Value)
    (members : List (String × Value)) :
    (setIn name v members).lookup other = members.lookup other := by
  have hother : (other == name) = false := beq_eq_false_iff_ne.mpr h
  induction members with
  | nil => simp only [setIn, List.lookup_cons, hother, List.lookup_nil]
  | cons m rest ih =>
    obtain ⟨k, w⟩ := m
    by_cases hk : k = name
    · subst hk
      simp only [setIn, if_true, List.lookup_cons, hother]
    · simp only [setIn, hk, if_false, List.lookup_cons, ih]

/-- Setting a member keeps what holds of the values of all members. -/
theorem forall_setIn {p : Value → Prop} {name : String} {v : Value} (hv : p v)
    {members : List (String × Value)} (h : ∀ m ∈ members, p m.2) :
    ∀ m ∈ setIn name v members, p m.2 := by
  induction members with
  | nil => simpa [setIn] using hv
  | cons m rest ih =>
    obtain ⟨k, w⟩ := m
    obtain ⟨hw, hrest⟩ := List.forall_mem_cons.mp h
    unfold setIn
    split
    · exact List.forall_mem_cons.mpr ⟨hv, hrest⟩
    · exact List.forall_mem_cons.mpr ⟨hw, ih hrest⟩

/-- A signed number of 64 bits keeps its spelling. -/
theorem signed_exact (n : Int64) : (Value.signed n).Exact := by
  have hlow := n.le_toInt
  have hhigh := n.toInt_lt
  have hword : maxWord = 2 ^ 64 - 1 := by decide
  unfold Value.signed
  split
  · show n.toInt.toNat ≤ maxWord
    omega
  · next h =>
    refine ⟨n.toInt.natAbs, by omega, ?_⟩
    generalize n.toInt = k at h ⊢
    cases k with
    | ofNat k => exact absurd (Int.natCast_nonneg k) h
    | negSucc k =>
      show "-" ++ Nat.repr (k + 1) = _
      rw [← String.toList_inj]
      simp [Nat.repr]

/-- What holds of an optional member holds of the value that it is written for. -/
theorem forall_mem_optionalMember {P : String × Value → Prop} (name : String) (f : α → Value)
    (o : Option α) : (∀ m ∈ optionalMember name f o, P m) ↔ ∀ a, o = some a → P (name, f a) := by
  cases o with
  | none => simp [optionalMember]
  | some a => simp [optionalMember]

namespace RecordReader

@[simp] theorem fields_map (f : α → β) (r : RecordReader α) : (f <$> r).fields = r.fields := rfl

@[simp] theorem fields_seq (f : RecordReader (α → β)) (r : RecordReader α) :
    (f <*> r).fields = f.fields ++ r.fields := rfl

@[simp] theorem build_map (f : α → β) (r : RecordReader α) (found : String → Option Doc) :
    (f <$> r).build found = (r.build found).map f := rfl

@[simp] theorem build_seq (f : RecordReader (α → β)) (r : RecordReader α)
    (found : String → Option Doc) :
    (f <*> r).build found =
      (f.build found).bind fun g => (r.build found).bind fun a => .ok (g a) := rfl

/-- The members of a record are collected under their names, if all of them are known and
read. -/
theorem collect_known (fields : List Field) (members : List (String × Value))
    (found : List (String × Doc)) (hn : (members.map (·.1)).Nodup)
    (hf : ∀ m ∈ members, ∀ d ∈ found, d.1 ≠ m.1)
    (hk : ∀ m ∈ members, ∃ field, fields.find? (·.name == m.1) = some field ∧
      field.probe m.2.doc = .ok ()) :
    collect fields (Value.memberDocs members) found =
      .ok (found ++ members.map fun m => (m.1, m.2.doc)) := by
  induction members generalizing found with
  | nil => simp [Value.memberDocs, collect]
  | cons m rest ih =>
    obtain ⟨field, hfield, hprobe⟩ := hk m List.mem_cons_self
    have hnew : found.any (·.1 == m.1) = false := by
      rw [List.any_eq_false]
      intro d hd
      simpa using hf m List.mem_cons_self d hd
    rw [List.map_cons, List.nodup_cons] at hn
    have hrest := ih (found ++ [(m.1, m.2.doc)]) hn.2 (by
      intro x hx d hd
      rcases List.mem_append.mp hd with hd | hd
      · exact hf x (List.mem_cons_of_mem _ hx) d hd
      · rw [List.mem_singleton.mp hd]
        rintro he
        exact hn.1 (List.mem_map.mpr ⟨x, hx, he.symm⟩))
      (fun x hx => hk x (List.mem_cons_of_mem _ hx))
    obtain ⟨k, v⟩ := m
    simp only at hfield hprobe hnew hrest
    simp only [Value.memberDocs, collect, bind, Except.bind, hfield, hnew, hprobe, hrest,
      Bool.false_eq_true, if_false, List.append_assoc, List.cons_append, List.nil_append,
      List.map_cons]

/-- A record whose members are known and read is built of them. -/
theorem decode_members (r : RecordReader α) (members : List (String × Value))
    (hn : (members.map (·.1)).Nodup)
    (hk : ∀ m ∈ members, ∃ field, r.fields.find? (·.name == m.1) = some field ∧
      field.probe m.2.doc = .ok ()) :
    r.decode (Value.record members).doc =
      r.build fun name => (members.lookup name).map Value.doc := by
  have hcollect := collect_known r.fields members [] hn (by simp) hk
  simp only [Value.doc, decode, hcollect, bind, Except.bind, Ending.check, List.nil_append,
    lookup_map_snd]

/-- A reader takes some members for a value: they are some of those that it knows, each of
them reads, and where its members are these it makes the value. -/
structure Takes (r : RecordReader α) (members : List (String × Value)) (a : α) : Prop where
  /-- The names are some of those that the reader knows, in the same order. -/
  names : (members.map (·.1)).Sublist (r.fields.map (·.name))
  /-- The values keep their numbers. -/
  exact : ∀ m ∈ members, m.2.Exact
  /-- Every value reads as the one of its name. -/
  probes : ∀ m ∈ members, ∃ field ∈ r.fields, field.name = m.1 ∧ field.probe m.2.doc = .ok ()
  /-- Where the members are found under their names, the value is made of them. -/
  builds : (r.fields.map (·.name)).Nodup → ∀ found : String → Option Doc,
    (∀ field ∈ r.fields, found field.name = (members.lookup field.name).map Value.doc) →
    r.build found = .ok a

/-- A member that has to be there is taken for its value. -/
theorem takes_required {encode : α → Value} {read : Decoder α} (h : Restores encode read)
    (name : String) (a : α) : (required name read).Takes [(name, encode a)] a where
  names := List.Sublist.refl _
  exact := by simpa using (h a).1
  probes := by simp [required, (h a).2, Except.map]
  builds _ found hf := by
    have hfound := hf _ List.mem_cons_self
    simp only [List.lookup_cons, BEq.rfl, Option.map_some] at hfound
    simp only [required, hfound, (h a).2]

/-- A member with a default is taken for its value. -/
theorem takes_defaulted {encode : α → Value} {read : Decoder α} (h : Restores encode read)
    (name : String) (default a : α) : (defaulted name read default).Takes [(name, encode a)] a where
  names := List.Sublist.refl _
  exact := by simpa using (h a).1
  probes := by simp [defaulted, (h a).2, Except.map]
  builds _ found hf := by
    have hfound := hf _ List.mem_cons_self
    simp only [List.lookup_cons, BEq.rfl, Option.map_some] at hfound
    simp only [defaulted, hfound, (h a).2]

/-- A member that is left out where there is nothing is taken for what may be missing. -/
theorem takes_optional {encode : α → Value} {read : Decoder α} (h : Restores encode read)
    (hnull : ∀ a, (encode a).doc ≠ .null) (name : String) (o : Option α) :
    (optional name read).Takes (optionalMember name encode o) o := by
  cases o with
  | some a => exact takes_defaulted (h.ofOption hnull) name none (some a)
  | none =>
    exact {
      names := List.nil_sublist _
      exact := by simp [optionalMember]
      probes := by simp [optionalMember]
      builds := fun _ found hf => by
        have hfound : found name = none := hf _ List.mem_cons_self
        simp only [optional, defaulted, hfound] }

/-- A member that may be null is taken for what may be missing. -/
theorem takes_nullable {encode : α → Value} {read : Decoder α} (h : Restores encode read)
    (hnull : ∀ a, (encode a).doc ≠ .null) (name : String) (o : Option α) :
    (nullable name read).Takes [(name, Value.ofOption encode o)] o where
  names := List.Sublist.refl _
  exact := by simpa using (h.ofOption hnull o).1
  probes := by simp [nullable, (h.ofOption hnull o).2, Except.map]
  builds _ found hf := by
    have hfound := hf _ List.mem_cons_self
    simp only [List.lookup_cons, BEq.rfl, Option.map_some] at hfound
    simp only [nullable, hfound, (h.ofOption hnull o).2]

/-- What is made of a value is made of the members that are taken for it. -/
theorem Takes.map {r : RecordReader α} {members : List (String × Value)} {a : α}
    (h : r.Takes members a) (f : α → β) : (f <$> r).Takes members (f a) where
  names := h.names
  exact := h.exact
  probes := h.probes
  builds hn found hf := by rw [build_map, h.builds hn found hf]; rfl

/-- The members of two readers are taken one after the other. -/
theorem Takes.seq {r : RecordReader (α → β)} {s : RecordReader α}
    {first second : List (String × Value)} {f : α → β} {a : α}
    (hr : r.Takes first f) (hs : s.Takes second a) :
    (r <*> s).Takes (first ++ second) (f a) where
  names := by
    rw [fields_seq, List.map_append, List.map_append]
    exact hr.names.append hs.names
  exact := List.forall_mem_append.mpr ⟨hr.exact, hs.exact⟩
  probes := by
    rw [fields_seq, List.forall_mem_append]
    refine ⟨fun m hm => ?_, fun m hm => ?_⟩
    · obtain ⟨field, hfield, h⟩ := hr.probes m hm
      exact ⟨field, List.mem_append_left _ hfield, h⟩
    · obtain ⟨field, hfield, h⟩ := hs.probes m hm
      exact ⟨field, List.mem_append_right _ hfield, h⟩
  builds hn found hf := by
    rw [fields_seq, List.map_append, List.nodup_append] at hn
    obtain ⟨hnr, hns, hdisjoint⟩ := hn
    rw [fields_seq, List.forall_mem_append] at hf
    -- A name of either reader is not a member of the other one.
    have hfirst : ∀ field ∈ r.fields, second.lookup field.name = none := fun field hfield =>
      lookup_eq_none_of_not_mem fun hm =>
        hdisjoint _ (List.mem_map_of_mem hfield) _ (hs.names.subset hm) rfl
    have hsecond : ∀ field ∈ s.fields, first.lookup field.name = none := fun field hfield =>
      lookup_eq_none_of_not_mem fun hm =>
        hdisjoint _ (hr.names.subset hm) _ (List.mem_map_of_mem hfield) rfl
    have hg := hr.builds hnr found fun field hfield => by
      rw [hf.1 field hfield, List.lookup_append, hfirst field hfield, Option.or_none]
    have ha := hs.builds hns found fun field hfield => by
      rw [hf.2 field hfield, List.lookup_append, hsecond field hfield, Option.none_or]
    rw [build_seq, hg, ha]
    rfl

/-- Of fields with different names, each is found by its name. -/
theorem find?_name {fields : List Field} {field : Field} (hn : (fields.map (·.name)).Nodup)
    (hm : field ∈ fields) : fields.find? (·.name == field.name) = some field := by
  induction fields with
  | nil => exact absurd hm (by simp)
  | cons first rest ih =>
    rw [List.map_cons, List.nodup_cons] at hn
    rcases List.mem_cons.mp hm with rfl | hr
    · simp
    · have hne : (first.name == field.name) = false := by
        rw [beq_eq_false_iff_ne]
        intro he
        exact hn.1 (he ▸ List.mem_map_of_mem hr)
      rw [List.find?_cons, hne, ih hn.2 hr]

/-- A record whose members are taken for what it was written for is restored. -/
theorem restores {r : RecordReader α} {members : α → List (String × Value)}
    (hn : (r.fields.map (·.name)).Nodup) (h : ∀ a, r.Takes (members a) a) :
    Restores (fun a => .record (members a)) r.decode := by
  intro a
  have hread := decode_members r (members a) ((h a).names.nodup hn) fun m hm => by
    obtain ⟨field, hfield, hname, hprobe⟩ := (h a).probes m hm
    exact ⟨field, hname ▸ find?_name hn hfield, hprobe⟩
  refine ⟨?_, ?_⟩
  · rw [Value.Exact, membersExact_iff]
    exact (h a).exact
  · rw [hread]
    exact (h a).builds hn _ fun _ _ => rfl

/-- Under a known name the first member of that name is collected, if anything is. -/
theorem lookup_collect {fields : List Field} {name : String}
    (hknown : (fields.find? (·.name == name)).isSome = true) (members : List (String × Value))
    {found out : List (String × Doc)}
    (h : collect fields (Value.memberDocs members) found = .ok out) :
    out.lookup name = (found.lookup name).or ((members.lookup name).map Value.doc) := by
  induction members generalizing found with
  | nil =>
    obtain rfl := Except.ok.inj h
    simp
  | cons m rest ih =>
    obtain ⟨k, v⟩ := m
    simp only [Value.memberDocs, collect, bind, Except.bind] at h
    cases hfield : fields.find? (·.name == k) with
    | none =>
      have hne : (name == k) = false := by
        rw [beq_eq_false_iff_ne]
        rintro rfl
        rw [hfield] at hknown
        exact absurd hknown (by decide)
      simp only [hfield] at h
      split at h
      · exact absurd h nofun
      · rw [ih h, List.lookup_cons, hne]
    | some field =>
      simp only [hfield] at h
      split at h
      · exact absurd h nofun
      · next hnew =>
        cases hprobe : field.probe v.doc with
        | error f => rw [hprobe] at h; exact absurd h nofun
        | ok _ =>
          rw [hprobe] at h
          rw [ih h, List.lookup_append, List.lookup_cons, List.lookup_nil, List.lookup_cons]
          by_cases hk : name = k
          · subst hk
            have hnone : found.lookup name = none := by
              rw [List.lookup_eq_none_iff]
              rintro d hd
              rw [bne_iff_ne]
              rintro rfl
              exact hnew (List.any_eq_true.mpr ⟨d, hd, BEq.rfl⟩)
            simp [hnone]
          · rw [beq_eq_false_iff_ne.mpr hk, Option.or_none]

/-- What a record reads as was built of its members, as far as they are known. -/
theorem build_of_decode {r : RecordReader α} {members : List (String × Value)} {a : α}
    (h : r.decode (Value.record members).doc = .ok a) :
    ∃ found : String → Option Doc, r.build found = .ok a ∧
      ∀ field ∈ r.fields, found field.name = (members.lookup field.name).map Value.doc := by
  simp only [Value.doc, decode, bind, Except.bind] at h
  cases hfound : collect r.fields (Value.memberDocs members) [] with
  | error f => rw [hfound] at h; exact absurd h nofun
  | ok found =>
    rw [hfound] at h
    refine ⟨fun name => found.lookup name, h, fun field hfield => ?_⟩
    have hknown : (r.fields.find? (·.name == field.name)).isSome = true :=
      List.find?_isSome.mpr ⟨field, hfield, BEq.rfl⟩
    exact lookup_collect hknown members hfound

/-- Whatever a reader builds of the members found has a property. -/
def Yields (r : RecordReader α) (p : (String → Option Doc) → α → Prop) : Prop :=
  ∀ found a, r.build found = .ok a → p found a

/-- What is built of the members of two readers has a property if what is built of those of
the first one makes it so for every value. -/
theorem Yields.seq {r : RecordReader (α → β)} {s : RecordReader α}
    {p : (String → Option Doc) → β → Prop} (h : r.Yields fun found f => ∀ a, p found (f a)) :
    (r <*> s).Yields p := by
  intro found b hb
  rw [build_seq] at hb
  cases hf : r.build found with
  | error e => rw [hf] at hb; exact absurd hb nofun
  | ok f =>
    rw [hf] at hb
    cases ha : s.build found with
    | error e => simp only [Except.bind, ha] at hb; exact absurd hb nofun
    | ok a =>
      simp only [Except.bind, ha] at hb
      obtain rfl := Except.ok.inj hb
      exact h found f hf a

end RecordReader

end BuildTriage.Json
