import BuildTriage.Proofs.Json.Scalars

/-!
# Reading undoes writing, in any layout

The two written forms of a value differ in the blanks between its parts. A layout says
which blanks those are, and a value laid out in any way reads back as the document of the
value. The reader counts down a number of steps; three for each character are enough.
-/

namespace BuildTriage.Json

/-- The blanks between the parts of a value. -/
structure Layout where
  /-- What stands before an item, a member or a closing bracket at a depth. -/
  gap : Nat → List Char
  /-- What stands after the colon of a member. -/
  lead : List Char
  /-- Before an item stand blanks only. -/
  gap_blank : ∀ depth, ∀ c ∈ gap depth, isBlank c = true
  /-- After a colon stand blanks only. -/
  lead_blank : ∀ c ∈ lead, isBlank c = true

mutual

/-- The form of a value, `depth` levels deep, in a layout. -/
def Value.laid (l : Layout) (depth : Nat) : Value → List Char
  | .null => ['n', 'u', 'l', 'l']
  | .bool true => ['t', 'r', 'u', 'e']
  | .bool false => ['f', 'a', 'l', 's', 'e']
  | .number n => n.spelling
  | .text s => quote s
  | .list [] => ['[', ']']
  | .list (v :: rest) =>
    '[' :: (Value.laidItems l (depth + 1) (v :: rest) ++ l.gap depth ++ [']'])
  | .record [] => ['{', '}']
  | .record (m :: rest) =>
    '{' :: (Value.laidMembers l (depth + 1) (m :: rest) ++ l.gap depth ++ ['}'])

/-- The items of a list in a layout. -/
def Value.laidItems (l : Layout) (depth : Nat) : List Value → List Char
  | [] => []
  | [v] => l.gap depth ++ v.laid l depth
  | v :: w :: rest =>
    l.gap depth ++ v.laid l depth ++ ',' :: Value.laidItems l depth (w :: rest)

/-- The members of a record in a layout. -/
def Value.laidMembers (l : Layout) (depth : Nat) : List (String × Value) → List Char
  | [] => []
  | [(k, v)] => l.gap depth ++ quote k ++ ':' :: (l.lead ++ v.laid l depth)
  | (k, v) :: m :: rest =>
    l.gap depth ++ quote k ++ ':' :: (l.lead ++ v.laid l depth) ++
      ',' :: Value.laidMembers l depth (m :: rest)

end

/-- No blanks at all. -/
def Layout.compact : Layout := ⟨fun _ => [], [], by simp, by simp⟩

/-- A line for each item and member. -/
def Layout.indented : Layout where
  gap := lineBreak
  lead := [' ']
  gap_blank := by
    intro depth c hc
    rcases List.mem_cons.mp hc with rfl | hc
    · rfl
    · rw [List.eq_of_mem_replicate hc]; rfl
  lead_blank := by
    intro c hc
    rw [List.mem_singleton.mp hc]; rfl

mutual

/-- The compact form is laid out without blanks. -/
theorem chars_eq_laid (depth : Nat) : ∀ v : Value, v.chars = v.laid .compact depth
  | .null => rfl
  | .bool true => rfl
  | .bool false => rfl
  | .number _ => rfl
  | .text _ => rfl
  | .list [] => rfl
  | .list (v :: rest) => by
    rw [Value.chars, Value.laid, itemChars_eq_laid (depth + 1) (v :: rest)]
    simp [Layout.compact]
  | .record [] => rfl
  | .record (m :: rest) => by
    rw [Value.chars, Value.laid, memberChars_eq_laid (depth + 1) (m :: rest)]
    simp [Layout.compact]

/-- The items of the compact form are laid out without blanks. -/
theorem itemChars_eq_laid (depth : Nat) :
    ∀ items : List Value, Value.itemChars items = Value.laidItems .compact depth items
  | [] => rfl
  | [v] => by
    rw [Value.itemChars, Value.laidItems, chars_eq_laid depth v]
    rfl
  | v :: w :: rest => by
    rw [Value.itemChars, Value.laidItems, chars_eq_laid depth v,
      itemChars_eq_laid depth (w :: rest)]
    rfl

/-- The members of the compact form are laid out without blanks. -/
theorem memberChars_eq_laid (depth : Nat) : ∀ members : List (String × Value),
    Value.memberChars members = Value.laidMembers .compact depth members
  | [] => rfl
  | [(k, v)] => by
    rw [Value.memberChars, Value.laidMembers, chars_eq_laid depth v]
    rfl
  | (k, v) :: m :: rest => by
    rw [Value.memberChars, Value.laidMembers, chars_eq_laid depth v,
      memberChars_eq_laid depth (m :: rest)]
    rfl

end

mutual

/-- The indented form is laid out with a line for each item and member. -/
theorem indentedChars_eq_laid (depth : Nat) :
    ∀ v : Value, v.indentedChars depth = v.laid .indented depth
  | .null => rfl
  | .bool true => rfl
  | .bool false => rfl
  | .number _ => rfl
  | .text _ => rfl
  | .list [] => rfl
  | .list (v :: rest) => by
    rw [Value.indentedChars, Value.laid, indentedItems_eq_laid (depth + 1) (v :: rest)]
    simp [Layout.indented]
  | .record [] => rfl
  | .record (m :: rest) => by
    rw [Value.indentedChars, Value.laid, indentedMembers_eq_laid (depth + 1) (m :: rest)]
    simp [Layout.indented]

/-- The items of the indented form are laid out on a line each. -/
theorem indentedItems_eq_laid (depth : Nat) : ∀ items : List Value,
    Value.indentedItems depth items = Value.laidItems .indented depth items
  | [] => rfl
  | [v] => by
    rw [Value.indentedItems, Value.laidItems, indentedChars_eq_laid depth v]
    rfl
  | v :: w :: rest => by
    rw [Value.indentedItems, Value.laidItems, indentedChars_eq_laid depth v,
      indentedItems_eq_laid depth (w :: rest)]
    rfl

/-- The members of the indented form are laid out on a line each. -/
theorem indentedMembers_eq_laid (depth : Nat) : ∀ members : List (String × Value),
    Value.indentedMembers depth members = Value.laidMembers .indented depth members
  | [] => rfl
  | [(k, v)] => by
    rw [Value.indentedMembers, Value.laidMembers, indentedChars_eq_laid depth v]
    rfl
  | (k, v) :: m :: rest => by
    rw [Value.indentedMembers, Value.laidMembers, indentedChars_eq_laid depth v,
      indentedMembers_eq_laid depth (m :: rest)]
    rfl

end

/-- A whole number of 64 bits, unsigned or negative, which keeps its spelling. -/
def Numeral.Exact : Numeral → Prop
  | .unsigned n => n ≤ maxWord
  | .spelled text => ∃ n, n ≤ maxWord ∧ text = String.ofList ('-' :: Nat.toDigits 10 n)

mutual

/-- The numbers of a value keep their spelling. -/
def Value.Exact : Value → Prop
  | .number n => n.Exact
  | .list items => Value.ItemsExact items
  | .record members => Value.MembersExact members
  | _ => True

/-- The numbers of some values keep their spelling. -/
def Value.ItemsExact : List Value → Prop
  | [] => True
  | v :: rest => v.Exact ∧ Value.ItemsExact rest

/-- The numbers of the values of some members keep their spelling. -/
def Value.MembersExact : List (String × Value) → Prop
  | [] => True
  | (_, v) :: rest => v.Exact ∧ Value.MembersExact rest

end

theorem itemsExact_iff (items : List Value) :
    Value.ItemsExact items ↔ ∀ v ∈ items, v.Exact := by
  induction items with
  | nil => simp [Value.ItemsExact]
  | cons v rest ih => simp [Value.ItemsExact, ih]

theorem membersExact_iff (members : List (String × Value)) :
    Value.MembersExact members ↔ ∀ m ∈ members, m.2.Exact := by
  induction members with
  | nil => simp [Value.MembersExact]
  | cons m rest ih => simp [Value.MembersExact, ih]

/-- Leading blanks are skipped. -/
theorem skipBlank_append (blanks cs : List Char) (h : ∀ c ∈ blanks, isBlank c = true) :
    skipBlank (blanks ++ cs) = skipBlank cs := List.dropWhile_append_of_pos h

/-- Nothing is skipped where no blank stands. -/
theorem skipBlank_cons (c : Char) (cs : List Char) (h : isBlank c = false) :
    skipBlank (c :: cs) = c :: cs := by
  simp only [skipBlank, List.dropWhile_cons, h, Bool.false_eq_true, if_false]

/-- A character with which a value starts. -/
def Opens (c : Char) : Prop := c ∈ ['n', 't', 'f', '"', '[', '{', '-'] ∨ c.isDigit = true

theorem Opens.ne {c d : Char} (h : Opens c) (hd : d ∉ ['n', 't', 'f', '"', '[', '{', '-'])
    (hn : d.isDigit = false) : c ≠ d := by
  rintro rfl
  rcases h with h | h
  · exact hd h
  · rw [hn] at h; exact absurd h (by decide)

/-- A value does not start with a blank. -/
theorem Opens.not_blank {c : Char} (h : Opens c) : isBlank c = false := by
  have hs : c ≠ ' ' := h.ne (by decide) (by decide)
  have hn : c ≠ '\n' := h.ne (by decide) (by decide)
  have ht : c ≠ '\t' := h.ne (by decide) (by decide)
  have hr : c ≠ '\r' := h.ne (by decide) (by decide)
  simp [isBlank, hs, hn, ht, hr]

/-- The form of a value starts with a character that opens one. -/
theorem laid_opens (l : Layout) (depth : Nat) (v : Value) (hv : v.Exact) :
    ∃ c tail, v.laid l depth = c :: tail ∧ Opens c := by
  cases v with
  | null => exact ⟨'n', _, rfl, .inl (by decide)⟩
  | bool b =>
    cases b with
    | true => exact ⟨'t', _, rfl, .inl (by decide)⟩
    | false => exact ⟨'f', _, rfl, .inl (by decide)⟩
  | number n =>
    cases n with
    | unsigned n =>
      cases hd : Nat.toDigits 10 n with
      | nil => exact absurd hd Nat.toDigits_ne_nil
      | cons c tail =>
        have hmem : c ∈ Nat.toDigits 10 n := by rw [hd]; exact List.mem_cons_self
        exact ⟨c, tail, hd, .inr (Nat.isDigit_of_mem_toDigits (by decide) (by decide) hmem)⟩
    | spelled text =>
      obtain ⟨n, _, rfl⟩ := hv
      exact ⟨'-', Nat.toDigits 10 n, String.toList_ofList, .inl (by decide)⟩
  | text s => exact ⟨'"', _, rfl, .inl (by decide)⟩
  | list items =>
    cases items with
    | nil => exact ⟨'[', _, rfl, .inl (by decide)⟩
    | cons v rest => exact ⟨'[', _, rfl, .inl (by decide)⟩
  | record members =>
    cases members with
    | nil => exact ⟨'{', _, rfl, .inl (by decide)⟩
    | cons m rest => exact ⟨'{', _, rfl, .inl (by decide)⟩

end BuildTriage.Json
