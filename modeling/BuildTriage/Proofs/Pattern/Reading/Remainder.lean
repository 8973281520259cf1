import BuildTriage.Proofs.Pattern.Reading.Body

/-!
# What is left of a text is an end of it

No reader goes back or makes anything up: what it leaves of a text is an end of that text. A
reader that takes a character first leaves an end of what follows that character.
-/

namespace BuildTriage.Pattern

variable {α β : Type}

/-- What is left, where something is read, is an end of a text. -/
def Remains (left : α → List Char) (cs : List Char) (r : Except Refusal α) : Prop :=
  ∀ x, r = .ok x → left x <:+ cs

section Remains

variable {left : α → List Char} {after : β → List Char} {cs more : List Char}
  {r : Except Refusal α}

theorem remains_ok {x : α} (h : left x <:+ cs) : Remains left cs (.ok x) := by
  rintro _ ⟨⟩
  exact h

/-- Nothing is left where nothing is read. -/
theorem remains_error (left : α → List Char) (cs : List Char) (e : Refusal) :
    Remains left cs (.error e) := by
  rintro _ ⟨⟩

/-- One reading goes on with what another leaves. -/
theorem Remains.bind {f : α → Except Refusal β} (h : Remains left cs r)
    (hf : ∀ x, left x <:+ cs → Remains after cs (f x)) : Remains after cs (r >>= f) := by
  cases r with
  | error e => exact remains_error after cs e
  | ok x => exact hf x (h x rfl)

/-- An end of a text is an end of a longer one. -/
theorem Remains.mono (h : Remains left cs r) (hcs : cs <:+ more) : Remains left more r :=
  fun x hx => (h x hx).trans hcs

end Remains

/-- What follows an end of a text is an end of what follows the text. -/
theorem tail_suffix {cs more : List Char} (h : cs <:+ more) : cs.tail <:+ more.tail := by
  cases more with
  | nil =>
    obtain rfl := List.suffix_nil.mp h
    exact List.suffix_rfl
  | cons c more =>
    rcases List.suffix_cons_iff.mp h with rfl | h
    · exact List.suffix_rfl
    · exact (List.tail_suffix cs).trans h

section Readers

variable (verbose : Bool)

/-- Skipping leaves an end of the text. -/
theorem skip_suffix (cs : List Char) : skip verbose cs <:+ cs := by
  have hcomments : ∀ (cs : List Char) (inComment : Bool), skipComments cs inComment <:+ cs := by
    intro cs
    induction cs with
    | nil => intro; exact List.suffix_rfl
    | cons c cs ih =>
      intro inComment
      have hmore := fun b => (ih b).trans (List.suffix_cons c cs)
      cases inComment with
      | true => exact hmore _
      | false =>
        simp only [skipComments]
        split
        · exact hmore _
        · split
          · exact hmore _
          · exact List.suffix_rfl
  cases verbose with
  | false => exact List.suffix_rfl
  | true => exact hcomments cs false

/-- A text whose skipped form starts with a character has an end after it. -/
theorem suffix_of_skip {cs rest : List Char} {c : Char} (h : skip verbose cs = c :: rest) :
    rest <:+ cs.tail := by
  have hskip := tail_suffix (skip_suffix verbose cs)
  rwa [h] at hskip

/-- A run leaves an end of the text. -/
theorem readRun_suffix (p : Char → Bool) (fuel : Nat) (done cs : List Char) :
    (readRun p verbose fuel done cs).2 <:+ cs := by
  induction fuel generalizing done cs with
  | zero => exact List.suffix_rfl
  | succ fuel ih =>
    cases cs with
    | nil => exact List.suffix_rfl
    | cons c cs =>
      simp only [readRun]
      split
      · exact ((ih _ _).trans (skip_suffix verbose cs)).trans (List.suffix_cons c cs)
      · exact List.suffix_rfl

theorem readHexDigits_remains (k n : Nat) (cs : List Char) :
    Remains Prod.snd cs (readHexDigits verbose k n cs) := by
  induction k generalizing n cs with
  | zero =>
    simp only [readHexDigits]
    split
    · exact remains_ok List.suffix_rfl
    · exact remains_error _ _ _
  | succ k ih =>
    cases cs with
    | nil => exact remains_error _ _ _
    | cons c cs =>
      simp only [readHexDigits]
      split
      · exact (ih _ _).mono ((skip_suffix verbose cs).trans (List.suffix_cons c cs))
      · exact remains_error _ _ _

theorem readHexBrace_remains (fuel : Nat) (n : Option Nat) (cs : List Char) :
    Remains Prod.snd cs (readHexBrace verbose fuel n cs) := by
  induction fuel generalizing n cs with
  | zero => exact remains_error _ _ _
  | succ fuel ih =>
    cases cs with
    | nil => exact remains_error _ _ _
    | cons c cs =>
      have hskip := (skip_suffix verbose cs).trans (List.suffix_cons c cs)
      simp only [readHexBrace]
      split
      · split
        · exact remains_ok hskip
        · exact remains_error _ _ _
      · split
        · exact (ih _ _).mono hskip
        · exact remains_error _ _ _

theorem readHex_remains (digits : Nat) (cs : List Char) :
    Remains (·.2.2) cs (readHex verbose digits cs) := by
  have hskip := skip_suffix verbose cs
  unfold readHex
  split
  · exact remains_error _ _ _
  · next rest h =>
    rw [h] at hskip
    have hrest := (skip_suffix verbose rest).trans ((List.suffix_cons '{' rest).trans hskip)
    exact ((readHexBrace_remains verbose _ none _).mono hrest).bind fun x hx => remains_ok hx
  · next rest _ _ =>
    exact ((readHexDigits_remains verbose digits 0 _).mono hskip).bind fun x hx => remains_ok hx

theorem readPropertyName_remains (fuel : Nat) (done cs : List Char) :
    Remains Prod.snd cs (readPropertyName verbose fuel done cs) := by
  induction fuel generalizing done cs with
  | zero => exact remains_error _ _ _
  | succ fuel ih =>
    cases cs with
    | nil => exact remains_error _ _ _
    | cons c cs =>
      simp only [readPropertyName]
      split
      · exact remains_ok (List.suffix_cons c cs)
      · exact (ih _ _).mono ((skip_suffix verbose cs).trans (List.suffix_cons c cs))

theorem readProperty_remains (negated : Bool) (cs : List Char) :
    Remains Prod.snd cs (readProperty verbose negated cs) := by
  have hskip := skip_suffix verbose cs
  unfold readProperty
  split
  · exact remains_error _ _ _
  · next rest h =>
    rw [h] at hskip
    have hrest := (skip_suffix verbose rest).trans ((List.suffix_cons '{' rest).trans hskip)
    exact ((readPropertyName_remains verbose _ [] _).mono hrest).bind fun x hx => remains_ok hx
  · next c rest _ h =>
    rw [h] at hskip
    split
    · exact remains_error _ _ _
    · exact remains_ok ((skip_suffix verbose rest).trans ((List.suffix_cons c rest).trans hskip))

theorem readBoundary_remains (cs : List Char) :
    Remains Prod.snd cs (readBoundary verbose cs) := by
  unfold readBoundary
  split
  · next rest =>
    split
    · exact remains_error _ _ _
    · next c more hskip =>
      split
      · exact remains_ok List.suffix_rfl
      · split
        · next name after hname =>
          have hafter := readRun_suffix verbose isBoundaryChar (more.length + 2) [] (c :: more)
          rw [← readBoundaryName_eq_readRun, hname, ← hskip] at hafter
          have hrest : after <:+ '{' :: rest :=
            (((List.suffix_cons '}' after).trans hafter).trans (skip_suffix verbose rest)).trans
              (List.suffix_cons '{' rest)
          split
          all_goals first
            | exact remains_ok hrest
            | exact remains_error _ _ _
        · exact remains_error _ _ _
  · exact remains_ok List.suffix_rfl

/-- What a backslash introduces takes a character at least. -/
theorem readEscape_remains (cs : List Char) :
    Remains Prod.snd cs.tail (readEscape verbose cs) := by
  cases cs with
  | nil => exact remains_error _ _ _
  | cons c rest =>
    have hhex : ∀ digits, Remains Prod.snd rest (readHex verbose digits rest >>= fun x =>
        .ok (Tree.literal ⟨x.1, x.2.1⟩, x.2.2)) := fun digits =>
      (readHex_remains verbose digits rest).bind fun x hx => remains_ok hx
    have hproperty := fun negated => readProperty_remains verbose negated rest
    have hboundary := readBoundary_remains verbose rest
    unfold readEscape
    dsimp only [List.tail_cons]
    split
    · exact remains_error _ _ _
    · split
      all_goals first
        | exact hhex _
        | exact hproperty _
        | exact hboundary
        | exact remains_ok List.suffix_rfl
        | skip
      split
      · exact remains_ok List.suffix_rfl
      · exact remains_error _ _ _

/-- A count leaves an end of the text. -/
theorem readCount_suffix (cs : List Char) : (readCount verbose cs).2 <:+ cs := by
  have hafter : ∀ (fuel : Nat) (cs : List Char), skipAfterCount verbose fuel cs <:+ cs := by
    intro fuel
    induction fuel with
    | zero => intro cs; exact List.suffix_rfl
    | succ fuel ih =>
      intro cs
      cases cs with
      | nil => exact List.suffix_rfl
      | cons c cs =>
        simp only [skipAfterCount]
        split
        · exact ((ih _).trans (skip_suffix verbose cs)).trans (List.suffix_cons c cs)
        · exact List.suffix_rfl
  unfold readCount
  simp only [readCountDigits_eq_readRun]
  exact ((hafter _ _).trans (readRun_suffix verbose _ _ _ _)).trans (List.dropWhile_suffix _)

theorem readCounts_remains (cs : List Char) :
    Remains (·.2.2) cs (readCounts verbose cs) := by
  intro x hx
  have hskip := skip_suffix verbose cs
  have hleft : ∀ {more rest : List Char} {c : Char} {n : Except Refusal Nat},
      readCount verbose more = (n, c :: rest) → rest <:+ more := by
    intro more rest c n hn
    have hcount := readCount_suffix verbose more
    rw [hn] at hcount
    exact (List.suffix_cons c rest).trans hcount
  cases writes_of_readCounts hx with
  | exactly hcs hn => exact (hleft hn).trans hskip
  | @atLeast n after rest hcs hn hclose =>
    have hrest := suffix_of_skip verbose hclose
    exact (hrest.trans (List.tail_suffix after)).trans ((hleft hn).trans hskip)
  | @between m n after rest hcs hm hopen hn hle =>
    exact ((hleft hn).trans (skip_suffix verbose after)).trans ((hleft hm).trans hskip)

omit verbose in
/-- Flags end with a character at least. -/
theorem readFlags_remains (cs : List Char) (seen : List Flag) (negated dangling : Bool)
    (done : List Setting) : Remains (·.2.2) cs.tail (readFlags cs seen negated dangling done) := by
  induction cs generalizing seen negated dangling done with
  | nil => exact remains_error _ _ _
  | cons c cs ih =>
    have hmore := fun seen negated dangling done =>
      (ih seen negated dangling done).mono (List.tail_suffix cs)
    simp only [readFlags, List.tail_cons]
    split
    all_goals first
      | exact remains_error _ _ _
      | split
        · exact remains_error _ _ _
        · first
          | exact remains_ok List.suffix_rfl
          | exact hmore _ _ _ _

omit verbose in
theorem readGroupName_remains (cs : List Char) :
    Remains Prod.snd cs (readGroupName cs) := by
  unfold readGroupName
  dsimp only
  split
  · exact remains_error _ _ _
  · next first others c rest _ hdrop =>
    have hrest := List.drop_suffix (cs.takeWhile (· ≠ '>')).length cs
    rw [hdrop] at hrest
    split
    · exact remains_ok ((List.suffix_cons c rest).trans hrest)
    · exact remains_error _ _ _
  · exact remains_error _ _ _

theorem readOpening_remains (cs : List Char) :
    Remains Prod.snd cs (readOpening verbose cs) := by
  have hskip := skip_suffix verbose cs
  have hname : ∀ rest, rest <:+ cs → Remains Prod.snd cs (readGroupName rest >>= fun x =>
      .ok (Opening.capture (some x.1), x.2)) := fun rest hrest =>
    ((readGroupName_remains rest).mono hrest).bind fun x hx => remains_ok hx
  unfold readOpening
  split
  all_goals first
    | exact remains_error _ _ _
    | skip
  · next rest h =>
    rw [h] at hskip
    refine hname rest (List.IsSuffix.trans ?_ hskip)
    exact ⟨['?', 'P', '<'], rfl⟩
  · next rest _ _ h =>
    rw [h] at hskip
    refine hname rest (List.IsSuffix.trans ?_ hskip)
    exact ⟨['?', '<'], rfl⟩
  · next rest _ _ _ _ _ _ h =>
    rw [h] at hskip
    have hrest := (List.tail_suffix rest).trans ((List.suffix_cons '?' rest).trans hskip)
    refine ((readFlags_remains rest [] false false []).mono hrest).bind fun x hx => ?_
    dsimp only
    split
    · exact remains_ok hx
    · split
      · exact remains_error _ _ _
      · exact remains_ok hx
  · exact remains_ok hskip

omit verbose in
/-- A named set leaves an end of the text. -/
theorem readAsciiClass_suffix {cs rest : List Char} {set : Charset} {negated : Bool}
    (h : readAsciiClass? cs = some (set, negated, rest)) : rest <:+ cs := by
  have hclosed : ∀ (sign : Bool) (more : List Char),
      closedSet? sign more = some (set, negated, rest) → rest <:+ more := by
    intro sign more hset
    unfold closedSet? at hset
    split at hset
    · next after hdrop =>
      obtain ⟨_, -, hfound⟩ := Option.map_eq_some_iff.mp hset
      cases hfound
      have hafter := List.drop_suffix (more.takeWhile (· ≠ ':')).length more
      rw [hdrop] at hafter
      exact List.IsSuffix.trans ⟨[':', ']'], rfl⟩ hafter
    · exact absurd hset nofun
  cases cs with
  | nil => exact absurd h nofun
  | cons c cs =>
    by_cases hc : c = ':'
    · subst hc
      refine List.IsSuffix.trans ?_ (List.suffix_cons ':' cs)
      cases cs with
      | nil => exact hclosed false [] h
      | cons d cs =>
        by_cases hd : d = '^'
        · subst hd
          exact (hclosed true cs h).trans (List.suffix_cons '^' cs)
        · rw [readAsciiClass_plain hd] at h
          exact hclosed false _ h
    · rw [readAsciiClass_none hc] at h
      exact absurd h nofun

/-- A part of a class takes a character at least. -/
theorem readClassPart_remains (cs : List Char) :
    Remains Prod.snd cs.tail (readClassPart verbose cs) := by
  cases cs with
  | nil => exact remains_error _ _ _
  | cons c cs =>
    by_cases hc : c = '\\'
    · subst hc
      exact (readEscape_remains verbose cs).mono (List.tail_suffix cs)
    · rw [readClassPart_plain hc]
      exact remains_ok List.suffix_rfl

omit verbose in
/-- Two characters in order are joined to a range. -/
def joinRange (first : Tree) (last : Tree × List Char) : Except Refusal (ClassTree × List Char) :=
  match first, last.1 with
  | .literal a, .literal b =>
    if a.char ≤ b.char then return (.range a b, last.2) else throw .classRange
  | _, _ => throw .classRange

omit verbose in
/-- A range leaves what its last character leaves. -/
theorem joinRange_remains (first : Tree) (last : Tree × List Char) :
    Remains Prod.snd last.2 (joinRange first last) := by
  unfold joinRange
  split
  · split
    · exact remains_ok List.suffix_rfl
    · exact remains_error _ _ _
  · exact remains_error _ _ _

theorem rangeEnd_nil {rest : List Char} (h : skip verbose rest = []) (first : Tree) :
    rangeEnd verbose first rest = .error .classUnclosed := by
  rw [rangeEnd, h]
  rfl

theorem rangeEnd_cons {c : Char} {rest more : List Char} (h : skip verbose rest = c :: more)
    (first : Tree) : rangeEnd verbose first rest =
      (readClassPart verbose (c :: more) >>= joinRange first) := by
  rw [rangeEnd, h]
  rfl

theorem rangeEnd_remains (first : Tree) (cs : List Char) :
    Remains Prod.snd cs (rangeEnd verbose first cs) := by
  have hskip := skip_suffix verbose cs
  cases hr : skip verbose cs with
  | nil =>
    rw [rangeEnd_nil verbose hr]
    exact remains_error _ _ _
  | cons c rest =>
    rw [hr] at hskip
    rw [rangeEnd_cons verbose hr]
    exact ((readClassPart_remains verbose (c :: rest)).mono
      ((List.suffix_cons c rest).trans hskip)).bind fun x hx => (joinRange_remains first x).mono hx

/-- What follows the first part of an item of a class: nothing, or the end of a range. -/
def itemAfter (verbose : Bool) (first : Tree) (rest : List Char) :
    Except Refusal (ClassTree × List Char) :=
  match skip verbose rest with
  | [] => throw .classUnclosed
  | c :: rest =>
    if c ≠ '-' || peek verbose (c :: rest) == some ']' ||
        peek verbose (c :: rest) == some '-' then
      return (← classItem first, c :: rest)
    else rangeEnd verbose first rest

/-- An item of a class is read after its first part. -/
theorem readClassRange_first (cs : List Char) : readClassRange verbose cs = (do
    let (first, rest) ← readClassPart verbose cs
    itemAfter verbose first rest) := rfl

theorem itemAfter_remains (first : Tree) (rest : List Char) :
    Remains Prod.snd rest (itemAfter verbose first rest) := by
  have hskip := skip_suffix verbose rest
  unfold itemAfter
  split
  · exact remains_error _ _ _
  · next c rest h =>
    rw [h] at hskip
    split
    · cases classItem first with
      | error e => exact remains_error _ _ _
      | ok item => exact remains_ok hskip
    · exact (rangeEnd_remains verbose first rest).mono ((List.suffix_cons c rest).trans hskip)

/-- An item of a class takes a character at least. -/
theorem readClassRange_remains (cs : List Char) :
    Remains Prod.snd cs.tail (readClassRange verbose cs) := by
  rw [readClassRange_first]
  exact (readClassPart_remains verbose cs).bind fun x hx =>
    (itemAfter_remains verbose x.1 x.2).mono hx

/-- The start of a class leaves an end of the text. -/
theorem readClassStart_suffix (cs : List Char) : (readClassStart verbose cs).2.2 <:+ cs := by
  have hsign : (readSign verbose cs).2 <:+ cs := by
    have hskip := skip_suffix verbose cs
    unfold readSign
    split
    · next rest h =>
      rw [h] at hskip
      exact (skip_suffix verbose rest).trans ((List.suffix_cons '^' rest).trans hskip)
    · exact hskip
  have hhyphens : ∀ (fuel : Nat) (items : List ClassTree) (cs : List Char),
      (readHyphens verbose fuel items cs).2 <:+ cs := by
    intro fuel
    induction fuel with
    | zero => intro items cs; exact List.suffix_rfl
    | succ fuel ih =>
      intro items cs
      unfold readHyphens
      split
      · next n rest hn =>
        obtain rfl := Nat.succ.inj hn
        exact ((ih _ _).trans (skip_suffix verbose rest)).trans (List.suffix_cons '-' rest)
      · exact List.suffix_rfl
  have hfirst : ∀ (items : List ClassTree) (cs : List Char),
      (readFirstClose verbose items cs).2 <:+ cs := by
    intro items cs
    unfold readFirstClose
    split
    · next rest => exact (skip_suffix verbose rest).trans (List.suffix_cons ']' rest)
    · exact List.suffix_rfl
  exact ((hfirst _ _).trans (hhyphens _ _ _)).trans hsign

/-- Classes leave an end of the text, and their items take a character at least. -/
theorem class_remains (fuel : Nat) :
    (∀ cs, Remains (·.2.2) cs (readBracket verbose fuel cs)) ∧
    ∀ items pending cs,
      Remains Prod.snd cs.tail (readClassItems verbose fuel items pending cs) := by
  induction fuel with
  | zero => exact ⟨fun _ => remains_error _ _ _, fun _ _ _ => remains_error _ _ _⟩
  | succ fuel ih =>
    obtain ⟨hbracket, hitems⟩ := ih
    refine ⟨fun cs => ?_, fun items pending cs => ?_⟩
    · rw [readBracket_eq]
      split
      · exact remains_error _ _ _
      · have hstart := (List.tail_suffix _).trans (readClassStart_suffix verbose cs)
        exact ((hitems _ none _).mono hstart).bind fun x hx => remains_ok hx
    · cases hskip : skip verbose cs with
      | nil =>
        rw [readClassItems, hskip]
        exact remains_error _ _ _
      | cons c rest =>
        have hrest := suffix_of_skip verbose hskip
        have hmore : ∀ items pending after, after <:+ cs.tail →
            Remains Prod.snd cs.tail (readClassItems verbose fuel items pending after) :=
          fun items pending after hafter => (hitems items pending after).mono
            ((List.tail_suffix after).trans hafter)
        by_cases hclose : c = ']'
        · subst hclose
          rw [readClassItems, hskip]
          exact remains_ok hrest
        by_cases hopen : c = '['
        · subst hopen
          rw [readClassItems_open hskip]
          cases hset : readAsciiClass? rest with
          | some found => exact hmore _ _ _ ((readAsciiClass_suffix hset).trans hrest)
          | none => exact ((hbracket rest).mono hrest).bind fun x hx => hmore _ _ _ hx
        by_cases hop : StartsOperator c rest
        · obtain ⟨hc, after, rfl⟩ := hop
          rw [readClassItems, hskip]
          simp only [List.mem_cons, List.not_mem_nil, or_false] at hc
          rcases hc with rfl | rfl | rfl
          all_goals exact hmore _ _ _ ((List.suffix_cons _ _).trans hrest)
        · rw [readClassItems_item hskip hclose hopen hop]
          exact ((readClassRange_remains verbose (c :: rest)).mono hrest).bind
            fun x hx => hmore _ _ _ hx

omit verbose in
/-- A question mark after an operator leaves an end of the text. -/
theorem readGreed_suffix (cs : List Char) : (readGreed cs).2 <:+ cs := by
  unfold readGreed
  split
  · exact List.suffix_cons _ _
  · exact List.suffix_rfl

end Readers

/-- What follows the body of a group and the bracket that closes it. -/
def closeGroup (body : Except Refusal (Tree × List String × List Char))
    (next : Tree → List String → List Char → Except Refusal (Tree × List String × List Char)) :
    Except Refusal (Tree × List String × List Char) := do
  let (tree, names, rest) ← body
  match rest with
  | ')' :: rest => next tree names rest
  | _ => throw .groupUnclosed

section Closing

variable {rest : List Char}
  {next : Tree → List String → List Char → Except Refusal (Tree × List String × List Char)}

theorem closeGroup_close {tree : Tree} {names : List String} :
    closeGroup (.ok (tree, names, ')' :: rest)) next = next tree names rest := rfl

/-- A group that ends at another character is not closed. -/
theorem closeGroup_open {tree : Tree} {names : List String} (h : ∀ more, rest ≠ ')' :: more) :
    closeGroup (.ok (tree, names, rest)) next = .error .groupUnclosed := by
  show (match rest with
    | ')' :: rest => next tree names rest
    | _ => throw Refusal.groupUnclosed) = _
  split
  · next more => exact absurd rfl (h more)
  · rfl

end Closing

/-- What follows the opening of a group in a body, as bodies are read. -/
def afterOpening (read : Bool → List String → List Tree → List Tree → List Char →
      Except Refusal (Tree × List String × List Char))
    (verbose : Bool) (names : List String) (branches parts : List Tree) :
    Opening × List Char → Except Refusal (Tree × List String × List Char)
  | (.settings flags, rest) =>
    read (verboseAfter verbose flags) names branches (.settings flags :: parts) rest
  | (.capture name, rest) =>
    if name.any names.contains then .error .groupName
    else closeGroup (read verbose (name.toList ++ names) [] [] rest) fun body names =>
      read verbose names branches (.capture body :: parts)
  | (.group flags, rest) =>
    closeGroup (read (verboseAfter verbose flags) names [] [] rest) fun body names =>
      read verbose names branches (.group flags body :: parts)

/-- A body goes on with the group that is opened. -/
theorem readBody_open {verbose : Bool} {cs rest : List Char} (h : skip verbose cs = '(' :: rest)
    (fuel : Nat) (names : List String) (branches parts : List Tree) :
    readBody (fuel + 1) verbose names branches parts cs =
      readOpening verbose rest >>= afterOpening (readBody fuel) verbose names branches parts := by
  rw [readBody, h]
  refine congrArg (readOpening verbose rest >>= ·) (funext fun x => ?_)
  obtain ⟨opening, after⟩ := x
  cases opening with
  | settings flags => rfl
  | capture name =>
    simp only [afterOpening]
    split
    · rfl
    · rfl
  | group flags => rfl

section Groups

variable {cs : List Char} {body : Except Refusal (Tree × List String × List Char)}
  {next : Tree → List String → List Char → Except Refusal (Tree × List String × List Char)}
  {read : Bool → List String → List Tree → List Tree → List Char →
    Except Refusal (Tree × List String × List Char)}

/-- A group that is closed leaves an end of the text. -/
theorem closeGroup_remains (hbody : Remains (·.2.2) cs body)
    (hnext : ∀ tree names rest, rest <:+ cs → Remains (·.2.2) cs (next tree names rest)) :
    Remains (·.2.2) cs (closeGroup body next) := by
  refine hbody.bind fun x hx => ?_
  obtain ⟨tree, names, after⟩ := x
  dsimp only at hx ⊢
  split
  · next rest => exact hnext tree names rest ((List.suffix_cons ')' rest).trans hx)
  · exact remains_error _ _ _

/-- What follows the opening of a group leaves an end of the text, if bodies do. -/
theorem afterOpening_remains
    (hread : ∀ verbose names branches parts rest, rest <:+ cs →
      Remains (·.2.2) cs (read verbose names branches parts rest))
    (verbose : Bool) (names : List String) (branches parts : List Tree)
    {x : Opening × List Char} (hx : x.2 <:+ cs) :
    Remains (·.2.2) cs (afterOpening read verbose names branches parts x) := by
  obtain ⟨opening, rest⟩ := x
  cases opening with
  | settings flags => exact hread _ _ _ _ _ hx
  | capture name =>
    simp only [afterOpening]
    split
    · exact remains_error _ _ _
    · exact closeGroup_remains (hread _ _ _ _ _ hx) fun _ _ => hread _ _ _ _
  | group flags =>
    simp only [afterOpening]
    exact closeGroup_remains (hread _ _ _ _ _ hx) fun _ _ => hread _ _ _ _

end Groups

/-- The body of a group leaves an end of the text. -/
theorem readBody_remains (fuel : Nat) : ∀ verbose names branches parts cs,
    Remains (·.2.2) cs (readBody fuel verbose names branches parts cs) := by
  induction fuel with
  | zero => exact fun _ _ _ _ _ => remains_error _ _ _
  | succ fuel ih =>
    intro verbose names branches parts cs
    have hmore : ∀ verbose names branches parts after, after <:+ cs →
        Remains (·.2.2) cs (readBody fuel verbose names branches parts after) :=
      fun verbose names branches parts after hafter =>
        (ih verbose names branches parts after).mono hafter
    have hrepeated : ∀ (after : List Char) (min : Nat) (max : Option Nat) (greedy : Bool),
        after <:+ cs → Remains (·.2.2) cs (do
          let parts ← repeatLast parts min max greedy
          readBody fuel verbose names branches parts after) := by
      intro after min max greedy hafter
      cases repeatLast parts min max greedy with
      | error e => exact remains_error _ _ _
      | ok parts => exact hmore _ _ _ _ _ hafter
    have hskip := skip_suffix verbose cs
    cases hr : skip verbose cs with
    | nil =>
      rw [readBody, hr]
      exact remains_ok List.nil_suffix
    | cons c rest =>
      rw [hr] at hskip
      have hrest := (List.suffix_cons c rest).trans hskip
      by_cases hplain : c ∉ [')', '|', '(', '[', '?', '*', '+', '{', '\\', '.', '^', '$']
      · rw [readBody_literal hr hplain]
        exact hmore _ _ _ _ _ hrest
      by_cases hopen : c = '('
      · subst hopen
        rw [readBody_open hr]
        exact ((readOpening_remains verbose rest).mono hrest).bind fun x hx =>
          afterOpening_remains hmore verbose names branches parts hx
      rw [readBody, hr]
      have huncounted := (readGreed_suffix rest).trans hrest
      simp only [List.mem_cons, List.not_mem_nil, or_false, Decidable.not_not] at hplain
      rcases hplain with rfl | rfl | rfl | rfl | rfl | rfl | rfl | rfl | rfl | rfl | rfl | rfl
      · exact remains_ok hskip
      · exact hmore _ _ _ _ _ hrest
      · exact absurd rfl hopen
      · exact (((class_remains verbose _).1 rest).mono hrest).bind fun x hx =>
          hmore _ _ _ _ _ hx
      · exact hrepeated _ _ _ _ huncounted
      · exact hrepeated _ _ _ _ huncounted
      · exact hrepeated _ _ _ _ huncounted
      · cases parts with
        | nil => exact remains_error _ _ _
        | cons part parts =>
          refine ((readCounts_remains verbose rest).mono hrest).bind fun x hx => ?_
          exact hrepeated _ _ _ _ (((readGreed_suffix _).trans (skip_suffix verbose _)).trans hx)
      · exact ((readEscape_remains verbose rest).mono
          ((List.tail_suffix rest).trans hrest)).bind fun x hx => hmore _ _ _ _ _ hx
      all_goals exact hmore _ _ _ _ _ hrest

end BuildTriage.Pattern
