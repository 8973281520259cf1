import BuildTriage.Json.Decode
import BuildTriage.Proofs.Json.Layout

/-!
# Reading undoes writing

The reader walks through a value in any layout and meets exactly the parts that were
written. So both written forms of a value read back as the value.
-/

namespace BuildTriage.Json

variable {l : Layout}

/-- Blanks before a value do not matter. -/
theorem readValue_blank (fuel : Nat) (blanks cs : List Char)
    (hb : ∀ c ∈ blanks, isBlank c = true) :
    readValue fuel (blanks ++ cs) = readValue fuel cs := by
  cases fuel with
  | zero => rfl
  | succ fuel => rw [readValue, readValue, skipBlank_append _ _ hb]

/-- What ends a number: blanks, and then a comma or a closing bracket. -/
theorem breaks_append (blanks rest : List Char) (c : Char)
    (hb : ∀ d ∈ blanks, isBlank d = true) (hc : c ∈ [',', ']', '}']) :
    Breaks (blanks ++ c :: rest) := by
  have hfirst : ∀ d, isBlank d = true ∨ d ∈ [',', ']', '}'] →
      d.isDigit = false ∧ d ≠ '.' ∧ d ≠ 'e' ∧ d ≠ 'E' := by
    intro d hd
    simp only [isBlank, Bool.or_eq_true, decide_eq_true_eq, List.mem_cons, List.not_mem_nil,
      or_false] at hd
    rcases hd with (((rfl | rfl) | rfl) | rfl) | rfl | rfl | rfl <;> decide
  intro d tail h
  cases blanks with
  | nil =>
    rw [← (List.cons.inj h).1]
    exact hfirst c (.inr hc)
  | cons b more =>
    rw [← (List.cons.inj h).1]
    exact hfirst b (.inl (hb b List.mem_cons_self))

/-- Nothing ends a number. -/
theorem breaks_nil : Breaks [] := fun _ _ h => absurd h (by simp)

/-- Blanks before a value are skipped, and nothing more. -/
theorem skipBlank_laid (blanks rest : List Char) (depth : Nat) (v : Value) (hv : v.Exact)
    (hb : ∀ c ∈ blanks, isBlank c = true) :
    skipBlank (blanks ++ (v.laid l depth ++ rest)) = v.laid l depth ++ rest := by
  obtain ⟨c, tail, hl, hc⟩ := laid_opens l depth v hv
  rw [skipBlank_append _ _ hb, hl]
  exact skipBlank_cons c _ hc.not_blank

/-- The items after the first one, with the comma before them. -/
def Value.moreItems (l : Layout) (depth : Nat) : List Value → List Char
  | [] => []
  | v :: rest => ',' :: Value.laidItems l depth (v :: rest)

/-- The members after the first one, with the comma before them. -/
def Value.moreMembers (l : Layout) (depth : Nat) : List (String × Value) → List Char
  | [] => []
  | m :: rest => ',' :: Value.laidMembers l depth (m :: rest)

theorem moreItems_cons (depth : Nat) (v : Value) (rest : List Value) :
    Value.moreItems l depth (v :: rest) = ',' :: Value.laidItems l depth (v :: rest) := rfl

theorem moreMembers_cons (depth : Nat) (m : String × Value) (rest : List (String × Value)) :
    Value.moreMembers l depth (m :: rest) = ',' :: Value.laidMembers l depth (m :: rest) := rfl

theorem laidItems_cons (depth : Nat) (v : Value) (rest : List Value) :
    Value.laidItems l depth (v :: rest) =
      l.gap depth ++ (v.laid l depth ++ Value.moreItems l depth rest) := by
  cases rest with
  | nil => simp [Value.laidItems, Value.moreItems]
  | cons w more => simp [Value.laidItems, Value.moreItems]

theorem laidMembers_cons (depth : Nat) (k : String) (v : Value) (rest : List (String × Value)) :
    Value.laidMembers l depth ((k, v) :: rest) =
      l.gap depth ++ '"' :: (escape k.toList ++ '"' :: ':' ::
        (l.lead ++ (v.laid l depth ++ Value.moreMembers l depth rest))) := by
  cases rest with
  | nil => simp [Value.laidMembers, Value.moreMembers, quote]
  | cons m more => simp [Value.laidMembers, Value.moreMembers, quote]

/-- The first item of a list is read as an item. -/
theorem readItems_first {fuel : Nat} {cs tail : List Char} {c : Char}
    (hs : skipBlank cs = c :: tail) (hc : Opens c) :
    readItems (fuel + 1) true cs = oneItem fuel (c :: tail) := by
  have hclose : c ≠ ']' := hc.ne (by decide) (by decide)
  have hcomma : c ≠ ',' := hc.ne (by decide) (by decide)
  rw [readItems, hs]
  split
  · next h => exact absurd h (by simp)
  · next h => exact absurd (List.cons.inj h).1 hclose
  · next h => exact absurd (List.cons.inj h).1 hcomma
  · rfl

/-- After a comma stands an item. -/
theorem readItems_comma {fuel : Nat} {cs tail : List Char} {c : Char}
    (hs : skipBlank cs = c :: tail) (hc : Opens c) :
    readItems (fuel + 1) false (',' :: cs) = oneItem fuel (c :: tail) := by
  have hclose : c ≠ ']' := hc.ne (by decide) (by decide)
  rw [readItems, skipBlank_cons ',' cs (by decide)]
  simp only [Bool.false_eq_true, if_false, hs]
  split
  · next h => exact absurd h (by simp)
  · next h => exact absurd (List.cons.inj h).1 hclose
  · rfl

/-- A list ends with its closing bracket. -/
theorem readItems_close {fuel : Nat} {first : Bool} {blanks tail : List Char}
    (hb : ∀ c ∈ blanks, isBlank c = true) :
    readItems (fuel + 1) first (blanks ++ ']' :: tail) = ([], .closed, some tail) := by
  rw [readItems, skipBlank_append _ _ hb, skipBlank_cons ']' tail (by decide)]
  rfl

/-- The first member of a record is read as a member. -/
theorem readMembers_first {fuel : Nat} {blanks tail : List Char}
    (hb : ∀ c ∈ blanks, isBlank c = true) :
    readMembers (fuel + 1) true (blanks ++ '"' :: tail) = oneMember fuel tail := by
  rw [readMembers, skipBlank_append _ _ hb, skipBlank_cons '"' tail (by decide)]
  rfl

/-- After a comma stands a member. -/
theorem readMembers_comma {fuel : Nat} {blanks tail : List Char}
    (hb : ∀ c ∈ blanks, isBlank c = true) :
    readMembers (fuel + 1) false (',' :: (blanks ++ '"' :: tail)) = oneMember fuel tail := by
  rw [readMembers, skipBlank_cons ',' _ (by decide)]
  simp only [Bool.false_eq_true, if_false, skipBlank_append _ _ hb,
    skipBlank_cons '"' tail (by decide)]

/-- A record ends with its closing bracket. -/
theorem readMembers_close {fuel : Nat} {first : Bool} {blanks tail : List Char}
    (hb : ∀ c ∈ blanks, isBlank c = true) :
    readMembers (fuel + 1) first (blanks ++ '}' :: tail) = ([], .closed, some tail) := by
  rw [readMembers, skipBlank_append _ _ hb, skipBlank_cons '}' tail (by decide)]
  rfl

/-- A number is read as one. -/
theorem readValue_number {fuel : Nat} {c : Char} {tail rest : List Char}
    {n : Except Fault Numeral} (hc : c = '-' ∨ c.isDigit = true)
    (hnumber : readNumber (c :: tail) = .ok (n, rest)) :
    readValue (fuel + 1) (c :: tail) = (.number n, some rest) := by
  have hne : ∀ d : Char, d ≠ '-' → d.isDigit = false → c ≠ d := by
    rintro d hminus hd rfl
    rcases hc with hc | hc
    · exact hminus hc
    · rw [hd] at hc
      exact absurd hc (by decide)
  have hopen : Opens c := by
    rcases hc with rfl | hc
    · exact .inl (by decide)
    · exact .inr hc
  have hsign : (decide (c = '-') || c.isDigit) = true := by simpa using hc
  rw [readValue, skipBlank_cons c _ hopen.not_blank]
  split
  · next h => exact absurd h (by simp)
  · next h => exact absurd (List.cons.inj h).1 (hne 'n' (by decide) (by decide))
  · next h => exact absurd (List.cons.inj h).1 (hne 't' (by decide) (by decide))
  · next h => exact absurd (List.cons.inj h).1 (hne 'f' (by decide) (by decide))
  · next h => exact absurd (List.cons.inj h).1 (hne '"' (by decide) (by decide))
  · next h => exact absurd (List.cons.inj h).1 (hne '[' (by decide) (by decide))
  · next h => exact absurd (List.cons.inj h).1 (hne '{' (by decide) (by decide))
  · next h =>
    obtain ⟨rfl, rfl⟩ := List.cons.inj h
    simp only [hsign, if_true, hnumber]

/-- An unsigned number of 64 bits is read as one. -/
theorem readValue_unsigned {fuel : Nat} (n : Nat) (hn : n ≤ maxWord) (rest : List Char)
    (hr : Breaks rest) :
    readValue (fuel + 1) (Nat.toDigits 10 n ++ rest) =
      (.number (.ok (.unsigned n)), some rest) := by
  have hnumber := readNumber_toDigits n hn rest hr
  cases hd : Nat.toDigits 10 n with
  | nil => exact absurd hd Nat.toDigits_ne_nil
  | cons c tail =>
    have hmem : c ∈ Nat.toDigits 10 n := by rw [hd]; exact List.mem_cons_self
    rw [hd] at hnumber
    exact readValue_number (.inr (Nat.isDigit_of_mem_toDigits (by decide) (by decide) hmem)) hnumber

mutual

/-- A value in any layout reads back as its document, up to what follows it. -/
theorem readValue_laid (depth : Nat) : ∀ (v : Value), v.Exact → ∀ (fuel : Nat) (rest : List Char),
    3 * (v.laid l depth).length ≤ fuel → Breaks rest →
    readValue fuel (v.laid l depth ++ rest) = (v.doc, some rest)
  | .null, _, fuel, rest, hf, _ => by
    obtain ⟨fuel, rfl⟩ : ∃ n, fuel = n + 1 := ⟨fuel - 1, by simp [Value.laid] at hf; omega⟩
    rfl
  | .bool true, _, fuel, rest, hf, _ => by
    obtain ⟨fuel, rfl⟩ : ∃ n, fuel = n + 1 := ⟨fuel - 1, by simp [Value.laid] at hf; omega⟩
    rfl
  | .bool false, _, fuel, rest, hf, _ => by
    obtain ⟨fuel, rfl⟩ : ∃ n, fuel = n + 1 := ⟨fuel - 1, by simp [Value.laid] at hf; omega⟩
    rfl
  | .number (.unsigned n), hv, fuel, rest, hf, hr => by
    have hpos := List.length_pos_iff.mpr (@Nat.toDigits_ne_nil n 10)
    simp only [Value.laid, Numeral.spelling] at hf ⊢
    obtain ⟨fuel, rfl⟩ : ∃ n, fuel = n + 1 := ⟨fuel - 1, by omega⟩
    exact readValue_unsigned n hv rest hr
  | .number (.spelled _), ⟨n, hn, rfl⟩, fuel, rest, hf, hr => by
    simp only [Value.laid, Numeral.spelling, String.toList_ofList, List.length_cons] at hf ⊢
    obtain ⟨fuel, rfl⟩ : ∃ n, fuel = n + 1 := ⟨fuel - 1, by omega⟩
    exact readValue_number (.inl rfl) (readNumber_negative n hn rest hr)
  | .text s, _, fuel, rest, hf, _ => by
    simp only [Value.laid, quote, List.length_append, List.length_cons] at hf
    obtain ⟨fuel, rfl⟩ : ∃ n, fuel = n + 1 := ⟨fuel - 1, by omega⟩
    simp only [Value.laid, quote, List.cons_append, List.append_assoc, List.nil_append]
    rw [readValue, skipBlank_cons '"' _ (by decide)]
    simp only [quoted_escape, Value.doc]
  | .list [], _, fuel, rest, hf, _ => by
    simp only [Value.laid, List.length_cons] at hf
    obtain ⟨fuel, rfl⟩ : ∃ n, fuel = n + 2 := ⟨fuel - 2, by omega⟩
    rfl
  | .list (v :: items), hv, fuel, rest, hf, _ => by
    have hgap := l.gap_blank (depth + 1)
    have hlaid := laidItems_cons (l := l) (depth + 1) v items
    simp only [Value.laid, List.length_cons, List.length_append] at hf
    obtain ⟨fuel, rfl⟩ : ∃ n, fuel = n + 2 := ⟨fuel - 2, by omega⟩
    have hitems := oneItem_laid (depth + 1) (v :: items) (by simp) hv fuel (l.gap depth) rest
      (by omega) (l.gap_blank depth)
    obtain ⟨c, tail, hc, ho⟩ := laid_opens l (depth + 1) v hv.1
    have hskip : skipBlank (Value.laidItems l (depth + 1) (v :: items) ++
        (l.gap depth ++ ']' :: rest)) = c :: (tail ++ (Value.moreItems l (depth + 1) items ++
        (l.gap depth ++ ']' :: rest))) := by
      rw [hlaid, List.append_assoc, List.append_assoc, skipBlank_laid _ _ _ _ hv.1 hgap, hc,
        List.cons_append]
    rw [hskip] at hitems
    simp only [Value.laid, List.cons_append, List.append_assoc, List.nil_append]
    rw [readValue, skipBlank_cons '[' _ (by decide)]
    simp only [readItems_first hskip ho, hitems, Value.doc]
  | .record [], _, fuel, rest, hf, _ => by
    simp only [Value.laid, List.length_cons] at hf
    obtain ⟨fuel, rfl⟩ : ∃ n, fuel = n + 2 := ⟨fuel - 2, by omega⟩
    rfl
  | .record ((k, v) :: members), hv, fuel, rest, hf, _ => by
    have hgap := l.gap_blank (depth + 1)
    have hlaid := laidMembers_cons (l := l) (depth + 1) k v members
    simp only [Value.laid, List.length_cons, List.length_append] at hf
    obtain ⟨fuel, rfl⟩ : ∃ n, fuel = n + 2 := ⟨fuel - 2, by omega⟩
    have hmembers := oneMember_laid (depth + 1) ((k, v) :: members) k v members rfl hv fuel
      (l.gap depth) rest (by omega) (l.gap_blank depth)
    simp only [Value.laid, List.cons_append, List.append_assoc, List.nil_append]
    rw [readValue, skipBlank_cons '{' _ (by decide)]
    simp only [hlaid, List.append_assoc, List.cons_append, readMembers_first hgap, hmembers,
      Value.doc]

/-- The items of a list in any layout read back, up to the end of the list. -/
theorem oneItem_laid (depth : Nat) : ∀ (items : List Value), items ≠ [] →
    Value.ItemsExact items → ∀ (fuel : Nat) (blanks rest : List Char),
    3 * (Value.laidItems l depth items).length + 1 ≤ fuel →
    (∀ c ∈ blanks, isBlank c = true) →
    oneItem fuel (skipBlank (Value.laidItems l depth items ++ (blanks ++ ']' :: rest))) =
      (Value.itemDocs items, .closed, some rest)
  | [], h, _, _, _, _, _, _ => absurd rfl h
  | v :: more, _, hv, fuel, blanks, rest, hf, hb => by
    rw [laidItems_cons] at hf ⊢
    simp only [List.length_append] at hf
    obtain ⟨fuel, rfl⟩ : ∃ n, fuel = n + 1 := ⟨fuel - 1, by omega⟩
    have hfirst := readValue_laid depth v hv.1 fuel
    rw [List.append_assoc, List.append_assoc, skipBlank_laid _ _ _ _ hv.1 (l.gap_blank depth)]
    cases more with
    | nil =>
      have hdoc := hfirst (blanks ++ ']' :: rest) (by omega)
        (breaks_append blanks rest ']' hb (by decide))
      obtain ⟨c, tail, hc, _⟩ := laid_opens l depth v hv.1
      rw [hc, List.length_cons] at hf
      obtain ⟨fuel, rfl⟩ : ∃ n, fuel = n + 1 := ⟨fuel - 1, by omega⟩
      simp only [Value.moreItems, List.nil_append, oneItem, hdoc, readItems_close hb,
        Value.itemDocs]
    | cons w more =>
      have hdoc := hfirst (',' :: (Value.laidItems l depth (w :: more) ++ (blanks ++ ']' :: rest)))
        (by omega) (breaks_append [] _ ',' (by simp) (by decide))
      simp only [moreItems_cons, List.length_cons] at hf
      obtain ⟨fuel, rfl⟩ : ∃ n, fuel = n + 1 := ⟨fuel - 1, by omega⟩
      have hmore := oneItem_laid depth (w :: more) (by simp) hv.2 fuel blanks rest (by omega) hb
      obtain ⟨c, tail, hc, ho⟩ := laid_opens l depth w hv.2.1
      have hskip : skipBlank (Value.laidItems l depth (w :: more) ++ (blanks ++ ']' :: rest)) =
          c :: (tail ++ (Value.moreItems l depth more ++ (blanks ++ ']' :: rest))) := by
        rw [laidItems_cons, List.append_assoc, List.append_assoc,
          skipBlank_laid _ _ _ _ hv.2.1 (l.gap_blank depth), hc, List.cons_append]
      rw [hskip] at hmore
      simp only [moreItems_cons, List.cons_append, oneItem, hdoc, readItems_comma hskip ho,
        hmore, Value.itemDocs]

/-- The members of a record in any layout read back, up to the end of the record. -/
theorem oneMember_laid (depth : Nat) : ∀ (members : List (String × Value)) (k : String)
    (v : Value) (more : List (String × Value)), members = (k, v) :: more →
    Value.MembersExact members → ∀ (fuel : Nat) (blanks rest : List Char),
    3 * (Value.laidMembers l depth members).length + 1 ≤ fuel →
    (∀ c ∈ blanks, isBlank c = true) →
    oneMember fuel (escape k.toList ++ '"' :: ':' :: (l.lead ++ (v.laid l depth ++
      (Value.moreMembers l depth more ++ (blanks ++ '}' :: rest))))) =
      (Value.memberDocs members, .closed, some rest)
  | [], _, _, _, h, _, _, _, _, _, _ => absurd h (by simp)
  | (k, v) :: more, _, _, _, rfl, hv, fuel, blanks, rest, hf, hb => by
    rw [laidMembers_cons] at hf
    simp only [List.length_append, List.length_cons] at hf
    obtain ⟨fuel, rfl⟩ : ∃ n, fuel = n + 1 := ⟨fuel - 1, by omega⟩
    have hfirst := readValue_laid depth v hv.1 fuel
    have hlead := fun cs => readValue_blank fuel l.lead cs l.lead_blank
    cases more with
    | nil =>
      have hdoc := hfirst (blanks ++ '}' :: rest) (by omega)
        (breaks_append blanks rest '}' hb (by decide))
      obtain ⟨fuel, rfl⟩ : ∃ n, fuel = n + 1 := ⟨fuel - 1, by omega⟩
      simp only [Value.moreMembers, List.nil_append, oneMember, quoted_escape,
        skipBlank_cons ':' _ (by decide), hlead, hdoc, readMembers_close hb, Value.memberDocs]
    | cons m more =>
      obtain ⟨j, w⟩ := m
      have hdoc := hfirst (',' :: (Value.laidMembers l depth ((j, w) :: more) ++
        (blanks ++ '}' :: rest))) (by omega) (breaks_append [] _ ',' (by simp) (by decide))
      simp only [moreMembers_cons, List.length_cons] at hf
      obtain ⟨fuel, rfl⟩ : ∃ n, fuel = n + 1 := ⟨fuel - 1, by omega⟩
      have hmore := oneMember_laid depth ((j, w) :: more) j w more rfl hv.2 fuel blanks rest
        (by omega) hb
      have hlaid := laidMembers_cons (l := l) depth j w more
      simp only [hlaid, List.append_assoc, List.cons_append] at hdoc
      simp only [moreMembers_cons, List.cons_append, oneMember, quoted_escape,
        skipBlank_cons ':' _ (by decide), hlead, hdoc, hlaid, List.append_assoc,
        readMembers_comma (l.gap_blank depth), hmore, Value.memberDocs]

end

/-- The whole text of a value in any layout is read as its document, to the end. -/
theorem read_laid (v : Value) (hv : v.Exact) :
    Doc.read (v.laid l 0) = (v.doc, some []) := by
  have h := readValue_laid (l := l) 0 v hv (3 * (v.laid l 0).length + 3) [] (by omega) breaks_nil
  rw [List.append_nil] at h
  exact h

/-- The compact text of a value is read as its document. -/
theorem read_compact (v : Value) (hv : v.Exact) :
    Doc.read v.compact.toList = (v.doc, some []) := by
  rw [Value.compact, String.toList_ofList, chars_eq_laid 0 v]
  exact read_laid v hv

/-- The indented text of a value is read as its document. -/
theorem read_indented (v : Value) (hv : v.Exact) :
    Doc.read v.indented.toList = (v.doc, some []) := by
  rw [Value.indented, String.toList_ofList, indentedChars_eq_laid 0 v]
  exact read_laid v hv

/-- A reader of a type meets in a text what it meets in the document that the text is read
as. -/
theorem decodeText_of_read {α : Type} (read : Decoder α) (text : String) (d : Doc)
    (h : Doc.read text.toList = (d, some [])) : decodeText read text = read d := by
  unfold decodeText
  rw [h]
  cases hr : read d with
  | ok a =>
    simp only [hr]
    rfl
  | error f =>
    simp only [hr]
    rfl

/-- A reader of a type meets in the compact text of a value what it meets in the value. -/
theorem decodeText_compact {α : Type} (read : Decoder α) (v : Value) (hv : v.Exact) :
    decodeText read v.compact = read v.doc :=
  decodeText_of_read read v.compact v.doc (read_compact v hv)

/-- A reader of a type meets in the indented text of a value what it meets in the value. -/
theorem decodeText_indented {α : Type} (read : Decoder α) (v : Value) (hv : v.Exact) :
    decodeText read v.indented = read v.doc :=
  decodeText_of_read read v.indented v.doc (read_indented v hv)

mutual

/-- The document of a value has no damage. -/
theorem value_doc : ∀ v : Value, v.doc.value = .ok v
  | .null => rfl
  | .bool _ => rfl
  | .number _ => rfl
  | .text _ => rfl
  | .list items => by
    rw [Value.doc, Doc.value, itemValues_itemDocs items]
    rfl
  | .record members => by
    rw [Value.doc, Doc.value, memberValues_memberDocs members]
    rfl

/-- The documents of some items have no damage. -/
theorem itemValues_itemDocs : ∀ items : List Value,
    Doc.itemValues (Value.itemDocs items) = .ok items
  | [] => rfl
  | v :: rest => by
    rw [Value.itemDocs, Doc.itemValues, value_doc v, itemValues_itemDocs rest]
    rfl

/-- The documents of some members have no damage. -/
theorem memberValues_memberDocs : ∀ members : List (String × Value),
    Doc.memberValues (Value.memberDocs members) = .ok members
  | [] => rfl
  | (k, v) :: rest => by
    rw [Value.memberDocs, Doc.memberValues, value_doc v, memberValues_memberDocs rest]
    rfl

end

/-- The compact text of a value reads back as the value. -/
theorem read_compact_value (v : Value) (hv : v.Exact) : Value.read v.compact = .ok v := by
  unfold Value.read
  rw [read_compact v hv]
  simp only [value_doc]
  rfl

end BuildTriage.Json
