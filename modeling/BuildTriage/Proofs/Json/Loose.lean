import BuildTriage.Json.Edit
import BuildTriage.Proofs.Json.Records

/-!
# The written form as a loose one

The loose form has the written one in it. So the compact text of a value is found to be that
value, with its texts as they are spelled there, unless more than a thousand lists and records
stand in one another. A member that is set in what was found is set in the value.
-/

namespace BuildTriage.Json

/-- Nothing is skipped where neither a blank nor a comment stands. -/
theorem skipLoose_cons {c : Char} (cs : List Char) (hc : c ≠ '/') (hb : isLooseBlank c = false) :
    skipLoose (c :: cs) = c :: cs := by
  have hcomment : startingComment? (c :: cs) = none := by
    unfold startingComment?
    split
    · next h => exact absurd (List.cons.inj h).1 hc
    · next h => exact absurd (List.cons.inj h).1 hc
    · rfl
  simp only [skipLoose, skipLooseWithin, List.dropWhile_cons, hb, Bool.false_eq_true, if_false,
    hcomment]

/-- A digit is no blank of the loose form. -/
theorem isLooseBlank_digit {c : Char} (h : c.isDigit = true) : isLooseBlank c = false := by
  simp only [Char.isDigit, Bool.and_eq_true, decide_eq_true_eq] at h
  have hlow : 48 ≤ c.toNat := UInt32.le_iff_toNat_le.mp h.1
  have hhigh : c.toNat ≤ 57 := UInt32.le_iff_toNat_le.mp h.2
  simp only [isLooseBlank, Bool.or_eq_false_iff, Bool.and_eq_false_iff, decide_eq_false_iff_not]
  omega

/-- Nothing is skipped before a value. -/
theorem skipLoose_opens {c : Char} (cs : List Char) (h : Opens c) :
    skipLoose (c :: cs) = c :: cs := by
  refine skipLoose_cons cs (h.ne (by decide) (by decide)) ?_
  rcases h with h | h
  · simp only [List.mem_cons, List.not_mem_nil, or_false] at h
    rcases h with rfl | rfl | rfl | rfl | rfl | rfl | rfl <;> decide
  · exact isLooseBlank_digit h

/-- What stands after a value: nothing, a comma or a closing bracket. -/
def Closes (rest : List Char) : Prop := ∀ c ∈ rest.head?, c ∈ [',', ']', '}']

theorem closes_nil : Closes [] := nofun

theorem closes_cons {c : Char} (cs : List Char) (h : c ∈ [',', ']', '}']) : Closes (c :: cs) := by
  rintro d hd
  obtain rfl := Option.some.inj hd
  exact h

/-- What stands after a value does not go on with a number. -/
theorem Closes.breaks {rest : List Char} (h : Closes rest) : Breaks rest := by
  rintro c tail rfl
  exact breaks_append [] tail c (by simp) (h c rfl) c tail rfl

section Texts

/-- The digits of the name of a control character are hexadecimal. -/
theorem isHex_hexDigit (n : Nat) : isHex (hexDigit n) = true := by
  have hall : ∀ m : Nat, m < 16 → isHex (Nat.digitChar m) = true := by decide
  exact hall (n % 16) (Nat.mod_lt n (by decide))

/-- A text starts with a quote. -/
theorem looseText_unquoted {c : Char} (cs : List Char) (hd : c ≠ '"') (hs : c ≠ '\'') :
    looseText (c :: cs) = none := by
  unfold looseText
  split
  · next h => exact absurd (List.cons.inj h).1 hd
  · next h => exact absurd (List.cons.inj h).1 hs
  · rfl

/-- A character keeps its spelling. -/
theorem looseQuoted_escapeChar (c : Char) (fuel : Nat) (rest : List Char) :
    looseQuoted '"' (fuel + 1) (escapeChar c ++ rest) =
      (looseQuoted '"' fuel rest).map fun (more, rest) => (escapeChar c ++ more, rest) := by
  by_cases hq : c = '"'
  · subst hq
    simp [escapeChar, looseQuoted, looseEscape]
  by_cases hb : c = '\\'
  · subst hb
    simp [escapeChar, looseQuoted, looseEscape]
  by_cases hc : c.toNat < 0x20
  · simp only [escapeChar, hq, hb, hc, if_true, if_false]
    repeat' split
    all_goals simp [looseQuoted, looseEscape, isHex_hexDigit, show isHex '0' = true by decide]
  · simp [escapeChar, looseQuoted, hq, hb, hc]

/-- The text between two quotes keeps its spelling. -/
theorem looseQuoted_escape (cs rest : List Char) (fuel : Nat) (hf : cs.length < fuel) :
    looseQuoted '"' fuel (escape cs ++ '"' :: rest) = some (escape cs, rest) := by
  induction cs generalizing fuel with
  | nil =>
    simp only [List.length_nil] at hf
    obtain ⟨fuel, rfl⟩ : ∃ n, fuel = n + 1 := ⟨fuel - 1, by omega⟩
    simp [escape, looseQuoted]
  | cons c cs ih =>
    simp only [List.length_cons] at hf
    obtain ⟨fuel, rfl⟩ : ∃ n, fuel = n + 1 := ⟨fuel - 1, by omega⟩
    have hstep := looseQuoted_escapeChar c fuel (escape cs ++ '"' :: rest)
    rw [escape, List.flatMap_cons, List.append_assoc, ← escape, hstep, ih fuel (by omega)]
    rfl

/-- A text in its quotes keeps its spelling. -/
theorem looseText_quote (s : String) (rest : List Char) :
    looseText ('"' :: (escape s.toList ++ '"' :: rest)) = some (escape s.toList, rest) := by
  have hl := length_le_escape s.toList
  exact looseQuoted_escape s.toList rest _
    (by simp only [List.length_append, List.length_cons]; omega)

/-- The spelling of a text is the spelling of it. -/
theorem textOfSpelling?_escape (s : String) : textOfSpelling? (escape s.toList) = some s := by
  rw [textOfSpelling?, quoted_escape s []]
  rfl

end Texts

section Numbers

/-- The digits of a number are some, and nothing else. -/
theorem exists_toDigits (n : Nat) : ∃ c tail, Nat.toDigits 10 n = c :: tail ∧
    c.isDigit = true ∧ ∀ d ∈ tail, d.isDigit = true := by
  have hdigits : ∀ c ∈ Nat.toDigits 10 n, c.isDigit = true :=
    fun c hc => Nat.isDigit_of_mem_toDigits (by decide) (by decide) hc
  cases hd : Nat.toDigits 10 n with
  | nil => exact absurd hd Nat.toDigits_ne_nil
  | cons c tail =>
    rw [hd] at hdigits
    exact ⟨c, tail, rfl, hdigits c List.mem_cons_self,
      fun d hmem => hdigits d (List.mem_cons_of_mem c hmem)⟩

/-- A number without a sign keeps its spelling. -/
theorem looseUnsigned_toDigits (n : Nat) {rest : List Char} (hr : Closes rest) :
    looseUnsigned (Nat.toDigits 10 n ++ rest) = some (Nat.toDigits 10 n, rest) := by
  have hdigits : ∀ c ∈ Nat.toDigits 10 n, c.isDigit = true :=
    fun c hc => Nat.isDigit_of_mem_toDigits (by decide) (by decide) hc
  have hall := digits_append _ rest hdigits hr.breaks
  have hzero : ¬((Nat.toDigits 10 n).head? = some '0' ∧ Nat.toDigits 10 n ≠ ['0']) := by
    rintro ⟨hhead, hne⟩
    obtain ⟨tail, htail⟩ := List.head?_eq_some_iff.mp hhead
    exact hne (by rw [htail, toDigits_head n tail htail])
  have hexponent : looseExponent rest = ([], rest) := by
    cases rest with
    | nil => rfl
    | cons c tail =>
      obtain ⟨-, -, he, hE⟩ := hr.breaks c tail rfl
      simp [looseExponent, he, hE]
  -- The number is not a hexadecimal one: what stands after a zero does not go on with it.
  have hsecond : ∀ (x : Char) (more : List Char), x.isDigit = false → x ∉ [',', ']', '}'] →
      Nat.toDigits 10 n ++ rest ≠ '0' :: x :: more := by
    intro x more hx hclose h
    obtain ⟨c, tail, hd, -, htail⟩ := exists_toDigits n
    rw [hd, List.cons_append] at h
    obtain ⟨-, h⟩ := List.cons.inj h
    cases tail with
    | nil => exact hclose (hr x (by rw [List.nil_append] at h; rw [h]; rfl))
    | cons d tail =>
      have hdigit := htail d List.mem_cons_self
      rw [(List.cons.inj h).1, hx] at hdigit
      exact Bool.false_ne_true hdigit
  unfold looseUnsigned
  split
  · next h => exact absurd h (hsecond 'x' _ (by decide) (by decide))
  · next h => exact absurd h (hsecond 'X' _ (by decide) (by decide))
  · simp only [hall, if_neg hzero]
    split
    · exact absurd rfl (hr.breaks '.' _ rfl).2.1
    · simp [hexponent, Nat.toDigits_ne_nil]

/-- The number of a spelling in digits. -/
theorem ofSpelling_toDigits (n : Nat) :
    Numeral.ofSpelling (Nat.toDigits 10 n) = .unsigned n := by
  have hdigits : (Nat.toDigits 10 n).all Char.isDigit = true :=
    List.all_eq_true.mpr fun c hc => Nat.isDigit_of_mem_toDigits (by decide) (by decide) hc
  rw [Numeral.ofSpelling, if_pos hdigits, natOfDigits_toDigits]

/-- A number that keeps its spelling is found by it. -/
theorem looseNumber_spelling {n : Numeral} (hn : n.Exact) {rest : List Char} (hr : Closes rest) :
    looseNumber (n.spelling ++ rest) = some (n.spelling, rest) ∧
      Numeral.ofSpelling n.spelling = n := by
  cases n with
  | unsigned n =>
    refine ⟨?_, ofSpelling_toDigits n⟩
    have hsign : ∀ (c : Char) (tail : List Char), c.isDigit = false →
        Nat.toDigits 10 n ++ rest ≠ c :: tail := by
      intro c tail hc h
      obtain ⟨d, more, hd, hdigit, -⟩ := exists_toDigits n
      rw [hd, List.cons_append] at h
      rw [(List.cons.inj h).1, hc] at hdigit
      exact Bool.false_ne_true hdigit
    show looseNumber (Nat.toDigits 10 n ++ rest) = _
    unfold looseNumber
    split
    · next h => exact absurd h (hsign '-' _ (by decide))
    · next h => exact absurd h (hsign '+' _ (by decide))
    · exact looseUnsigned_toDigits n hr
  | spelled text =>
    obtain ⟨n, -, rfl⟩ := hn
    refine ⟨?_, ?_⟩
    · simp only [Numeral.spelling, String.toList_ofList, List.cons_append, looseNumber,
        looseSigned, looseUnsigned_toDigits n hr, Option.map_some]
    · simp [Numeral.ofSpelling, Numeral.spelling, show Char.isDigit '-' = false by decide]

end Numbers

/-- A letter starts no number without a sign. -/
theorem looseNumber_letter {c : Char} (cs : List Char) (hc : c ∈ ['n', 't', 'f']) :
    looseNumber (c :: cs) = none := by
  simp only [List.mem_cons, List.not_mem_nil, or_false] at hc
  rcases hc with rfl | rfl | rfl <;> rfl

/-- The words that are written for a value, each with what it stands for. -/
def fixedWords : List (List Char × Node) :=
  [(['n', 'u', 'l', 'l'], .null), (['t', 'r', 'u', 'e'], .bool true),
    (['f', 'a', 'l', 's', 'e'], .bool false)]

/-- A word stands for its value. -/
theorem looseWord_fixed {word rest : List Char} {v : Node} (h : (word, v) ∈ fixedWords)
    (hr : Closes rest) :
    looseWord (word ++ rest) = some (v, rest) := by
  have hends : (rest[0]?.any Char.isAlphanum) = false := by
    cases rest with
    | nil => rfl
    | cons c tail =>
      have hc := hr c rfl
      simp only [List.mem_cons, List.not_mem_nil, or_false] at hc
      rcases hc with rfl | rfl | rfl <;> rfl
  simp only [fixedWords, List.mem_cons, Prod.mk.injEq, List.not_mem_nil, or_false] at h
  rcases h with ⟨rfl, rfl⟩ | ⟨rfl, rfl⟩ | ⟨rfl, rfl⟩ <;>
    simp [looseWord, afterWord?, hends]

mutual

/-- How many lists and records stand in one another in a value. -/
def Value.nesting : Value → Nat
  | .list items => Value.itemsNesting items + 1
  | .record members => Value.membersNesting members + 1
  | _ => 0

/-- How many stand in one another in some items. -/
def Value.itemsNesting : List Value → Nat
  | [] => 0
  | v :: rest => max v.nesting (Value.itemsNesting rest)

/-- How many stand in one another in some members. -/
def Value.membersNesting : List (String × Value) → Nat
  | [] => 0
  | (_, v) :: rest => max v.nesting (Value.membersNesting rest)

end

theorem itemsNesting_le_iff {items : List Value} {n : Nat} :
    Value.itemsNesting items ≤ n ↔ ∀ v ∈ items, v.nesting ≤ n := by
  induction items with
  | nil => simp [Value.itemsNesting]
  | cons v rest ih => rw [Value.itemsNesting, Nat.max_le, ih, List.forall_mem_cons]

theorem membersNesting_le_iff {members : List (String × Value)} {n : Nat} :
    Value.membersNesting members ≤ n ↔ ∀ m ∈ members, m.2.nesting ≤ n := by
  induction members with
  | nil => simp [Value.membersNesting]
  | cons m rest ih => rw [Value.membersNesting, Nat.max_le, ih, List.forall_mem_cons]

/-- A signed number has nothing in it. -/
theorem signed_nesting (n : Int64) : (Value.signed n).nesting ≤ 2 := by
  unfold Value.signed
  split <;> exact Nat.zero_le 2

/-- The compact form of a value starts with a character that opens one. -/
theorem chars_opens (v : Value) (hv : v.Exact) : ∃ c tail, v.chars = c :: tail ∧ Opens c := by
  rw [chars_eq_laid 0 v]
  exact laid_opens .compact 0 v hv

/-- What does not open a list or record is read as a value that is none. -/
theorem looseValue_scalar {c : Char} {cs rest : List Char} {v : Node} {fuel depth : Nat}
    (ho : Opens c) (hlist : c ≠ '[') (hrecord : c ≠ '{')
    (h : looseScalar (c :: cs) = some (v, rest)) :
    looseValue (fuel + 1) depth (c :: cs) = some (v, rest) := by
  rw [looseValue, skipLoose_opens cs ho]
  split
  · next h => exact absurd (List.cons.inj h).1 hlist
  · next h => exact absurd (List.cons.inj h).1 hrecord
  · exact h

/-- A word is read as its value. -/
theorem looseValue_word {word rest : List Char} {v : Node} {fuel depth : Nat}
    (h : (word, v) ∈ fixedWords) (hr : Closes rest) :
    looseValue (fuel + 1) depth (word ++ rest) = some (v, rest) := by
  obtain ⟨c, tail, rfl, hc⟩ : ∃ c tail, word = c :: tail ∧ c ∈ ['n', 't', 'f'] := by
    simp only [fixedWords, List.mem_cons, Prod.mk.injEq, List.not_mem_nil, or_false] at h
    rcases h with ⟨rfl, -⟩ | ⟨rfl, -⟩ | ⟨rfl, -⟩ <;> exact ⟨_, _, rfl, by decide⟩
  have hne : ∀ d ∉ ['n', 't', 'f'], c ≠ d := by
    rintro d hd rfl
    exact hd hc
  have htext : looseText (c :: (tail ++ rest)) = none :=
    looseText_unquoted _ (hne '"' (by decide)) (hne '\'' (by decide))
  have hopens : Opens c := by
    simp only [List.mem_cons, List.not_mem_nil, or_false] at hc
    rcases hc with rfl | rfl | rfl <;> exact .inl (by decide)
  have hword := looseWord_fixed h hr
  rw [List.cons_append] at hword ⊢
  refine looseValue_scalar hopens (hne '[' (by decide)) (hne '{' (by decide)) ?_
  simp only [looseScalar, htext, looseNumber_letter _ hc, hword]

/-- A number starts with its sign or with a digit. -/
theorem spelling_opens {n : Numeral} (hn : n.Exact) :
    ∃ c tail, n.spelling = c :: tail ∧ (c = '-' ∨ c.isDigit = true) := by
  cases n with
  | unsigned n =>
    obtain ⟨c, tail, hd, hdigit, -⟩ := exists_toDigits n
    exact ⟨c, tail, hd, .inr hdigit⟩
  | spelled text =>
    obtain ⟨n, -, rfl⟩ := hn
    exact ⟨'-', _, String.toList_ofList, .inl rfl⟩

/-- A number is read by its spelling. -/
theorem looseValue_number {n : Numeral} (hn : n.Exact) {fuel depth : Nat} {rest : List Char}
    (hr : Closes rest) :
    looseValue (fuel + 1) depth (n.spelling ++ rest) = some (.number n, rest) := by
  obtain ⟨hnumber, hback⟩ := looseNumber_spelling hn hr
  obtain ⟨c, tail, hc, hfirst⟩ := spelling_opens hn
  have hne : ∀ d, d ≠ '-' → d.isDigit = false → c ≠ d := by
    rintro d hsign hd rfl
    rcases hfirst with hfirst | hfirst
    · exact hsign hfirst
    · rw [hd] at hfirst
      exact absurd hfirst (by decide)
  have hopens : Opens c := hfirst.imp (fun h => by rw [h]; decide) id
  have htext : looseText (c :: (tail ++ rest)) = none :=
    looseText_unquoted _ (hne '"' (by decide) (by decide)) (hne '\'' (by decide) (by decide))
  rw [hc, List.cons_append] at hnumber ⊢
  refine looseValue_scalar hopens (hne '[' (by decide) (by decide))
    (hne '{' (by decide) (by decide)) ?_
  simp only [looseScalar, htext, hnumber]
  rw [← hc, hback]

section Nested

variable {fuel depth : Nat} {v : Value} {rest : List Char}

/-- A list ends behind an item. -/
theorem looseItems_last (hv : v.Exact)
    (h : looseValue fuel depth (v.chars ++ ']' :: rest) = some (v.node, ']' :: rest)) :
    looseItems (fuel + 1) depth (v.chars ++ ']' :: rest) = some ([v.node], rest) := by
  have hskip : skipLoose (']' :: rest) = ']' :: rest := skipLoose_cons rest (by decide) (by decide)
  obtain ⟨c, tail, hc, ho⟩ := chars_opens v hv
  rw [hc, List.cons_append] at h ⊢
  rw [looseItems, skipLoose_opens _ ho]
  split
  · next hclose => exact absurd (List.cons.inj hclose).1 (ho.ne (by decide) (by decide))
  · simp only [h, hskip]

/-- A list goes on behind an item and a comma. -/
theorem looseItems_more (hv : v.Exact)
    (h : looseValue fuel depth (v.chars ++ ',' :: rest) = some (v.node, ',' :: rest)) :
    looseItems (fuel + 1) depth (v.chars ++ ',' :: rest) =
      (looseItems fuel depth rest).map fun (vs, rest) => (v.node :: vs, rest) := by
  have hskip : skipLoose (',' :: rest) = ',' :: rest := skipLoose_cons rest (by decide) (by decide)
  obtain ⟨c, tail, hc, ho⟩ := chars_opens v hv
  rw [hc, List.cons_append] at h ⊢
  rw [looseItems, skipLoose_opens _ ho]
  split
  · next hclose => exact absurd (List.cons.inj hclose).1 (ho.ne (by decide) (by decide))
  · simp only [h, hskip]

/-- The label before a member is the text it quotes, as it is spelled. -/
theorem looseLabel_quote (k : String) (cs : List Char) :
    looseLabel ('"' :: (escape k.toList ++ '"' :: cs)) = some (escape k.toList, cs) :=
  looseText_quote k cs

/-- A record ends behind a member. -/
theorem looseMembers_last (k : String)
    (h : looseValue fuel depth (v.chars ++ '}' :: rest) = some (v.node, '}' :: rest)) :
    looseMembers (fuel + 1) depth (quote k ++ ':' :: (v.chars ++ '}' :: rest)) =
      some ([(escape k.toList, v.node)], rest) := by
  have hcolon : ∀ cs, skipLoose (':' :: cs) = ':' :: cs :=
    fun cs => skipLoose_cons cs (by decide) (by decide)
  have hskip : skipLoose ('}' :: rest) = '}' :: rest := skipLoose_cons rest (by decide) (by decide)
  simp only [quote, List.cons_append, List.append_assoc, List.nil_append]
  rw [looseMembers, skipLoose_opens _ (.inl (by decide))]
  split
  · next hclose => exact absurd (List.cons.inj hclose).1 (by decide)
  · simp only [looseLabel_quote, hcolon, h, hskip]

/-- A record goes on behind a member and a comma. -/
theorem looseMembers_more (k : String)
    (h : looseValue fuel depth (v.chars ++ ',' :: rest) = some (v.node, ',' :: rest)) :
    looseMembers (fuel + 1) depth (quote k ++ ':' :: (v.chars ++ ',' :: rest)) =
      (looseMembers fuel depth rest).map
        fun (ms, rest) => ((escape k.toList, v.node) :: ms, rest) := by
  have hcolon : ∀ cs, skipLoose (':' :: cs) = ':' :: cs :=
    fun cs => skipLoose_cons cs (by decide) (by decide)
  have hskip : skipLoose (',' :: rest) = ',' :: rest := skipLoose_cons rest (by decide) (by decide)
  simp only [quote, List.cons_append, List.append_assoc, List.nil_append]
  rw [looseMembers, skipLoose_opens _ (.inl (by decide))]
  split
  · next hclose => exact absurd (List.cons.inj hclose).1 (by decide)
  · simp only [looseLabel_quote, hcolon, h, hskip]

end Nested

mutual

/-- The compact form of a value is found to be the value, up to what follows it. -/
theorem looseValue_chars : ∀ (v : Value), v.Exact → ∀ (fuel depth : Nat) (rest : List Char),
    3 * v.chars.length ≤ fuel → v.nesting ≤ depth → Closes rest →
    looseValue fuel depth (v.chars ++ rest) = some (v.node, rest)
  | .null, _, fuel, depth, rest, hf, _, hr => by
    obtain ⟨fuel, rfl⟩ : ∃ n, fuel = n + 1 := ⟨fuel - 1, by simp [Value.chars] at hf; omega⟩
    exact looseValue_word (.head _) hr
  | .bool true, _, fuel, depth, rest, hf, _, hr => by
    obtain ⟨fuel, rfl⟩ : ∃ n, fuel = n + 1 := ⟨fuel - 1, by simp [Value.chars] at hf; omega⟩
    exact looseValue_word (.tail _ (.head _)) hr
  | .bool false, _, fuel, depth, rest, hf, _, hr => by
    obtain ⟨fuel, rfl⟩ : ∃ n, fuel = n + 1 := ⟨fuel - 1, by simp [Value.chars] at hf; omega⟩
    exact looseValue_word (.tail _ (.tail _ (.head _))) hr
  | .number n, hv, fuel, depth, rest, hf, _, hr => by
    obtain ⟨c, tail, hc, -⟩ := chars_opens (.number n) hv
    rw [hc, List.length_cons] at hf
    obtain ⟨fuel, rfl⟩ : ∃ n, fuel = n + 1 := ⟨fuel - 1, by omega⟩
    exact looseValue_number hv hr
  | .text s, _, fuel, depth, rest, hf, _, _ => by
    simp only [Value.chars, quote, List.length_append, List.length_cons] at hf
    obtain ⟨fuel, rfl⟩ : ∃ n, fuel = n + 1 := ⟨fuel - 1, by omega⟩
    simp only [Value.chars, quote, List.cons_append, List.append_assoc, List.nil_append]
    refine looseValue_scalar (.inl (by decide)) (by decide) (by decide) ?_
    simp only [looseScalar, looseText_quote, Value.node]
  | .list items, hv, fuel, depth, rest, hf, hd, _ => by
    simp only [Value.chars, List.length_cons, List.length_append, List.length_nil] at hf
    rw [Value.nesting] at hd
    obtain ⟨fuel, rfl⟩ : ∃ n, fuel = n + 1 := ⟨fuel - 1, by omega⟩
    have hitems := looseItems_chars items hv fuel (depth - 1) rest (by omega) (by omega)
    simp only [Value.chars, List.cons_append, List.append_assoc, List.nil_append]
    rw [looseValue, skipLoose_opens _ (.inl (by decide))]
    simp only [if_neg (by omega : ¬depth = 0), hitems, Option.map_some, Value.node]
  | .record members, hv, fuel, depth, rest, hf, hd, _ => by
    simp only [Value.chars, List.length_cons, List.length_append, List.length_nil] at hf
    rw [Value.nesting] at hd
    obtain ⟨fuel, rfl⟩ : ∃ n, fuel = n + 1 := ⟨fuel - 1, by omega⟩
    have hmembers := looseMembers_chars members hv fuel (depth - 1) rest (by omega) (by omega)
    simp only [Value.chars, List.cons_append, List.append_assoc, List.nil_append]
    rw [looseValue, skipLoose_opens _ (.inl (by decide))]
    simp only [if_neg (by omega : ¬depth = 0), hmembers, Option.map_some, Value.node]

/-- The items of a list are found up to its end. -/
theorem looseItems_chars : ∀ (items : List Value), Value.ItemsExact items →
    ∀ (fuel depth : Nat) (rest : List Char), 3 * (Value.itemChars items).length + 1 ≤ fuel →
    Value.itemsNesting items ≤ depth →
    looseItems fuel depth (Value.itemChars items ++ ']' :: rest) =
      some (Value.itemNodes items, rest)
  | [], _, fuel, depth, rest, hf, _ => by
    obtain ⟨fuel, rfl⟩ : ∃ n, fuel = n + 1 := ⟨fuel - 1, by omega⟩
    rfl
  | [v], hv, fuel, depth, rest, hf, hd => by
    obtain ⟨fuel, rfl⟩ : ∃ n, fuel = n + 1 := ⟨fuel - 1, by omega⟩
    simp only [Value.itemChars] at hf ⊢
    simp only [Value.itemsNesting, Nat.max_le] at hd
    have hvalue := looseValue_chars v hv.1 fuel depth (']' :: rest) (by omega) hd.1
      (closes_cons _ (by decide))
    exact looseItems_last hv.1 hvalue
  | v :: w :: more, hv, fuel, depth, rest, hf, hd => by
    obtain ⟨fuel, rfl⟩ : ∃ n, fuel = n + 1 := ⟨fuel - 1, by omega⟩
    simp only [Value.itemChars, List.length_append, List.length_cons] at hf
    rw [Value.itemsNesting, Nat.max_le] at hd
    have hvalue := looseValue_chars v hv.1 fuel depth
      (',' :: (Value.itemChars (w :: more) ++ ']' :: rest)) (by omega) hd.1
      (closes_cons _ (by decide))
    have hmore := looseItems_chars (w :: more) hv.2 fuel depth rest (by omega) hd.2
    rw [Value.itemChars, List.append_assoc, List.cons_append, looseItems_more hv.1 hvalue, hmore]
    rfl

/-- The members of a record are found up to its end. -/
theorem looseMembers_chars : ∀ (members : List (String × Value)), Value.MembersExact members →
    ∀ (fuel depth : Nat) (rest : List Char), 3 * (Value.memberChars members).length + 1 ≤ fuel →
    Value.membersNesting members ≤ depth →
    looseMembers fuel depth (Value.memberChars members ++ '}' :: rest) =
      some (Value.memberNodes members, rest)
  | [], _, fuel, depth, rest, hf, _ => by
    obtain ⟨fuel, rfl⟩ : ∃ n, fuel = n + 1 := ⟨fuel - 1, by omega⟩
    rfl
  | [(k, v)], hv, fuel, depth, rest, hf, hd => by
    obtain ⟨fuel, rfl⟩ : ∃ n, fuel = n + 1 := ⟨fuel - 1, by omega⟩
    simp only [Value.memberChars, List.length_append, List.length_cons] at hf
    rw [Value.membersNesting, Nat.max_le] at hd
    have hvalue := looseValue_chars v hv.1 fuel depth ('}' :: rest) (by omega) hd.1
      (closes_cons _ (by decide))
    rw [Value.memberChars, List.append_assoc, List.cons_append, looseMembers_last k hvalue]
    rfl
  | (k, v) :: m :: more, hv, fuel, depth, rest, hf, hd => by
    obtain ⟨fuel, rfl⟩ : ∃ n, fuel = n + 1 := ⟨fuel - 1, by omega⟩
    simp only [Value.memberChars, List.length_append, List.length_cons] at hf
    rw [Value.membersNesting, Nat.max_le] at hd
    have hvalue := looseValue_chars v hv.1 fuel depth
      (',' :: (Value.memberChars (m :: more) ++ '}' :: rest)) (by omega) hd.1
      (closes_cons _ (by decide))
    have hmore := looseMembers_chars (m :: more) hv.2 fuel depth rest (by omega) hd.2
    simp only [Value.memberChars, List.append_assoc, List.cons_append]
    rw [looseMembers_more k hvalue, hmore]
    rfl

end

/-- The compact text of a value is found to be the value, unless too many lists and records
stand in one another. -/
theorem read?_compact {v : Value} (hv : v.Exact) (hn : v.nesting ≤ maxNesting) :
    Node.read? v.compact = some v.node := by
  have h := looseValue_chars v hv (3 * v.chars.length + 3) maxNesting [] (by omega) hn closes_nil
  rw [List.append_nil] at h
  simp only [Node.read?, Value.compact, String.toList_ofList, h]
  rfl

mutual

/-- What is found in the compact form of a value is written in that form. -/
theorem chars_node : ∀ v : Value, v.node.chars = v.chars
  | .null => rfl
  | .bool true => rfl
  | .bool false => rfl
  | .number _ => rfl
  | .text _ => rfl
  | .list items => by rw [Value.node, Node.chars, Value.chars, itemChars_itemNodes items]
  | .record members => by
    rw [Value.node, Node.chars, Value.chars, memberChars_memberNodes members]

/-- The items that are found are written as they were. -/
theorem itemChars_itemNodes : ∀ items : List Value,
    Node.itemChars (Value.itemNodes items) = Value.itemChars items
  | [] => rfl
  | [v] => chars_node v
  | v :: w :: rest => by
    rw [Value.itemNodes, Value.itemNodes, Node.itemChars, Value.itemChars, chars_node v,
      ← itemChars_itemNodes (w :: rest), Value.itemNodes]

/-- The members that are found are written as they were. -/
theorem memberChars_memberNodes : ∀ members : List (String × Value),
    Node.memberChars (Value.memberNodes members) = Value.memberChars members
  | [] => rfl
  | [(k, v)] => by
    simp only [Value.memberNodes, Node.memberChars, Value.memberChars, chars_node v, quote,
      List.cons_append, List.append_assoc, List.nil_append]
  | (k, v) :: (j, w) :: rest => by
    have hrest := memberChars_memberNodes ((j, w) :: rest)
    rw [Value.memberNodes] at hrest
    simp only [Value.memberNodes, Node.memberChars, Value.memberChars, chars_node v, hrest, quote,
      List.cons_append, List.append_assoc, List.nil_append]

end

/-- What is found in the compact text of a value is written as that text. -/
theorem compact_node (v : Value) : v.node.compact = v.compact :=
  congrArg String.ofList (chars_node v)

/-- A member that is set in what is found is set in the value. -/
theorem setMember_node (record : Value) (name : String) (v : Value) :
    record.node.setMember name v.node = (record.setMember name v).node := by
  cases record with
  | record members =>
    have hset : Node.setIn name v.node (Value.memberNodes members) =
        Value.memberNodes (setIn name v members) := by
      induction members with
      | nil => rfl
      | cons m rest ih =>
        obtain ⟨k, w⟩ := m
        simp only [Value.memberNodes, Node.setIn, setIn, textOfSpelling?_escape,
          Option.some.injEq, ih]
        split
        · rfl
        · rfl
    exact congrArg Node.record hset
  | _ => rfl

/-- The first member of a name in what is found is the one in the value. -/
theorem firstMember?_node (record : Value) (name : String) :
    record.node.firstMember? name = (record.firstMember? name).map Value.node := by
  cases record with
  | record members =>
    show ((Value.memberNodes members).find? fun m => textOfSpelling? m.1 = some name).map (·.2) =
      (members.lookup name).map Value.node
    induction members with
    | nil => rfl
    | cons m rest ih =>
      obtain ⟨k, w⟩ := m
      by_cases hk : k = name
      · subst hk
        simp [Value.memberNodes, textOfSpelling?_escape]
      · have hname : (name == k) = false := beq_eq_false_iff_ne.mpr (Ne.symm hk)
        simp only [Value.memberNodes, List.find?_cons, textOfSpelling?_escape, Option.some.injEq,
          hk, decide_false, List.lookup_cons, hname, ih]
  | _ => rfl

end BuildTriage.Json
