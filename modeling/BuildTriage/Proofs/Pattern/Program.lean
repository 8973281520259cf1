import BuildTriage.Proofs.Pattern.Matches

/-!
# Programs match what their expressions match

A program is followed place by place: each instruction goes on at one of its positions, and
one that takes a character passes over it. An emitter realizes a relation when every way
through the instructions that it adds comes out at the position that it was to lead to,
having passed over a part of the text that the relation matches. The instructions of an
expression realize what the expression matches.
-/

namespace BuildTriage.Pattern

/-- A place of a search: the next instruction between the text passed and the text to come. -/
structure Place where
  /-- The position of the next instruction. -/
  pc : Nat
  /-- The text that has been passed. -/
  front : List Char
  /-- The text to come. -/
  back : List Char

/-- One instruction leads from a place to another. -/
inductive Step (insts : Array Inst) : Place → Place → Prop where
  /-- A character of the set is passed over. -/
  | take {pc next : Nat} {s : Charset} {c : Char} {front back : List Char}
      (h : insts[pc]? = some (.take s next)) (hc : s.contains c.toNat = true) :
      Step insts ⟨pc, front, c :: back⟩ ⟨next, front ++ [c], back⟩
  /-- Any of the positions is chosen. -/
  | split {pc target : Nat} {targets : List Nat} {front back : List Char}
      (h : insts[pc]? = some (.split targets)) (ht : target ∈ targets) :
      Step insts ⟨pc, front, back⟩ ⟨target, front, back⟩
  /-- The condition holds. -/
  | check {pc next : Nat} {l : Look} {front back : List Char}
      (h : insts[pc]? = some (.check l next))
      (hl : l.holds front.getLast? back.head? = true) :
      Step insts ⟨pc, front, back⟩ ⟨next, front, back⟩

section Inversion

variable {insts : Array Inst} {pc : Nat} {front back : List Char} {b : Place}

/-- A split leads to one of its positions. -/
theorem Step.of_split {targets : List Nat} (h : Step insts ⟨pc, front, back⟩ b)
    (hi : insts[pc]? = some (.split targets)) : ∃ target ∈ targets, b = ⟨target, front, back⟩ := by
  cases h with
  | take h _ => rw [hi] at h; simp at h
  | check h _ => rw [hi] at h; simp at h
  | split h ht =>
    obtain rfl := Inst.split.inj (Option.some.inj (hi.symm.trans h))
    exact ⟨_, ht, rfl⟩

/-- A condition that is checked holds. -/
theorem Step.of_check {l : Look} {next : Nat} (h : Step insts ⟨pc, front, back⟩ b)
    (hi : insts[pc]? = some (.check l next)) :
    l.holds front.getLast? back.head? = true ∧ b = ⟨next, front, back⟩ := by
  cases h with
  | take h _ => rw [hi] at h; simp at h
  | split h _ => rw [hi] at h; simp at h
  | check h hl =>
    obtain ⟨rfl, rfl⟩ := Inst.check.inj (Option.some.inj (hi.symm.trans h))
    exact ⟨hl, rfl⟩

/-- A character that is taken is in the set. -/
theorem Step.of_take {s : Charset} {next : Nat} (h : Step insts ⟨pc, front, back⟩ b)
    (hi : insts[pc]? = some (.take s next)) :
    ∃ c rest, back = c :: rest ∧ s.contains c.toNat = true ∧ b = ⟨next, front ++ [c], rest⟩ := by
  cases h with
  | split h _ => rw [hi] at h; simp at h
  | check h _ => rw [hi] at h; simp at h
  | take h hc =>
    obtain ⟨rfl, rfl⟩ := Inst.take.inj (Option.some.inj (hi.symm.trans h))
    exact ⟨_, _, rfl, hc, rfl⟩

/-- A split between a body and the position after it leads to one of them. -/
theorem Step.of_branch {greedy : Bool} {body leave : Nat} (h : Step insts ⟨pc, front, back⟩ b)
    (hi : insts[pc]? = some (branch greedy body leave)) :
    b = ⟨body, front, back⟩ ∨ b = ⟨leave, front, back⟩ := by
  obtain ⟨target, ht, rfl⟩ := h.of_split hi
  have htarget : target = body ∨ target = leave := by
    cases greedy with
    | true => simpa using ht
    | false => simpa [or_comm] using ht
  rcases htarget with rfl | rfl
  · exact .inl rfl
  · exact .inr rfl

end Inversion

/-- A number of instructions lead from a place to another. -/
inductive Path (insts : Array Inst) : Nat → Place → Place → Prop where
  /-- The place itself. -/
  | refl (a : Place) : Path insts 0 a a
  /-- One instruction and then others. -/
  | step {n : Nat} {a b c : Place} (h : Step insts a b) (hp : Path insts n b c) :
      Path insts (n + 1) a c

variable {insts : Array Inst}

/-- A way that does not end where it starts has a first instruction. -/
theorem Path.first {n : Nat} {a b : Place} (hp : Path insts n a b) (hne : b.pc ≠ a.pc) :
    ∃ c k, n = k + 1 ∧ Step insts a c ∧ Path insts k c b := by
  cases hp with
  | refl => exact absurd rfl hne
  | step hs hrest => exact ⟨_, _, rfl, hs, hrest⟩

/-- A path goes on by one more instruction. -/
theorem Path.snoc {n : Nat} {a b c : Place} (hp : Path insts n a b) (h : Step insts b c) :
    Path insts (n + 1) a c := by
  induction hp with
  | refl a => exact .step h (.refl c)
  | step hs _ ih => exact .step hs (ih h)

/-- Nothing leads on from the place where a pattern has matched. -/
theorem Path.of_accept {n : Nat} {a b : Place} (hp : Path insts n a b)
    (h : insts[a.pc]? = some .accept) : b = a := by
  cases hp with
  | refl => rfl
  | step hs _ => cases hs <;> simp_all

/-- Every way from `start` to `last` comes to `next` first, and passes there over what a
relation matches; what is left of it is no longer. -/
def Leads (insts : Array Inst) (r : Relation) (start next : Nat) (last : Place) : Prop :=
  ∀ (n : Nat) (front back : List Char), Path insts n ⟨start, front, back⟩ last →
    ∃ hit rest k, back = hit ++ rest ∧ k ≤ n ∧ r front hit rest ∧
      Path insts k ⟨next, front ++ hit, rest⟩ last

section Leads

variable {r s : Relation} {start middle next : Nat} {last : Place}

theorem Leads.mono (h : Leads insts r start next last)
    (hrs : ∀ front hit back, r front hit back → s front hit back) :
    Leads insts s start next last := by
  intro n front back hp
  obtain ⟨hit, rest, k, hb, hk, hr, hnext⟩ := h n front back hp
  exact ⟨hit, rest, k, hb, hk, hrs _ _ _ hr, hnext⟩

/-- Nothing is passed over from a position to itself. -/
theorem leads_nothing : Leads insts .nothing next next last := by
  intro n front back hp
  exact ⟨[], back, n, rfl, Nat.le_refl n, rfl, by rwa [List.append_nil]⟩

/-- What is passed over on the way to a position in the middle comes before what is passed
over from there. -/
theorem Leads.andThen (hr : Leads insts r start middle last)
    (hs : Leads insts s middle next last) : Leads insts (r.andThen s) start next last := by
  intro n front back hp
  obtain ⟨first, rest, k, rfl, hk, hfirst, hmiddle⟩ := hr n front back hp
  obtain ⟨others, rest, j, rfl, hj, hothers, hnext⟩ := hs k (front ++ first) rest hmiddle
  refine ⟨first ++ others, rest, j, (List.append_assoc ..).symm, by omega,
    ⟨first, others, rfl, hfirst, hothers⟩, ?_⟩
  rwa [← List.append_assoc]

/-- A split between a body and the position after it passes over what the body does or
nothing. -/
theorem leads_branch {greedy : Bool} (hi : insts[start]? = some (branch greedy middle next))
    (hne : last.pc ≠ start) (hr : Leads insts r middle next last) :
    Leads insts (fun front hit back => r front hit back ∨ hit = []) start next last := by
  intro n front back hp
  obtain ⟨c, k, rfl, hs, hrest⟩ := hp.first hne
  rcases hs.of_branch hi with rfl | rfl
  · obtain ⟨hit, rest, j, hb, hj, hhit, hnext⟩ := hr k front back hrest
    exact ⟨hit, rest, j, hb, by omega, .inl hhit, hnext⟩
  · exact ⟨[], back, k, rfl, by omega, .inr rfl, by rwa [List.append_nil]⟩

/-- A split that a body leads back to is left after the body has been passed a number of
times. The induction is on the length of the way, which each round shortens. -/
theorem leads_loop {greedy : Bool} {loop : Nat}
    (hi : insts[loop]? = some (branch greedy start next)) (hne : last.pc ≠ loop)
    (hr : Leads insts r start loop last) :
    Leads insts r.star loop next last := by
  intro n
  induction n using Nat.strongRecOn with
  | ind n ih =>
    intro front back hp
    obtain ⟨c, k, rfl, hs, hrest⟩ := hp.first hne
    rcases hs.of_branch hi with rfl | rfl
    · obtain ⟨first, rest, j, rfl, hj, hfirst, hloop⟩ := hr k front back hrest
      obtain ⟨others, rest, i, rfl, hi', ⟨m, hothers⟩, hnext⟩ :=
        ih j (by omega) (front ++ first) rest hloop
      refine ⟨first ++ others, rest, i, (List.append_assoc ..).symm, by omega,
        ⟨m + 1, first, others, rfl, hfirst, hothers⟩, ?_⟩
      rwa [← List.append_assoc]
    · exact ⟨[], back, k, rfl, by omega, ⟨0, rfl⟩, by rwa [List.append_nil]⟩

end Leads

/-- The instructions from a position on are those of an array. -/
def HasFrom (insts p : Array Inst) (low : Nat) : Prop :=
  ∀ i, low ≤ i → i < p.size → insts[i]? = p[i]?

/-- What every emitter does to the instructions: those that are there stay, and a new one
does not accept. -/
structure Adds (p q : Array Inst) : Prop where
  /-- There are no fewer instructions. -/
  size_le : p.size ≤ q.size
  /-- Those that were there are the same. -/
  kept : ∀ i, i < p.size → q[i]? = p[i]?
  /-- A new one does not accept. -/
  fresh : ∀ i, p.size ≤ i → q[i]? ≠ some .accept

namespace Adds

variable {p q w : Array Inst}

theorem refl (p : Array Inst) : Adds p p where
  size_le := Nat.le_refl _
  kept _ _ := rfl
  fresh i hi := by rw [Array.getElem?_eq_none hi]; simp

theorem trans (h : Adds p q) (k : Adds q w) : Adds p w where
  size_le := Nat.le_trans h.size_le k.size_le
  kept i hi := by rw [k.kept i (Nat.lt_of_lt_of_le hi h.size_le), h.kept i hi]
  fresh i hi := by
    by_cases hq : i < q.size
    · rw [k.kept i hq]; exact h.fresh i hi
    · exact k.fresh i (by omega)

/-- What has the later instructions has the earlier ones. -/
theorem hasFrom {low : Nat} (h : Adds p q) (hi : HasFrom insts q low) : HasFrom insts p low := by
  intro i hl hp
  rw [hi i hl (Nat.lt_of_lt_of_le hp h.size_le), h.kept i hp]

end Adds

/-- One instruction is added. -/
theorem adds_emit {i : Inst} (hi : i ≠ .accept) (p : Array Inst) : Adds p (emit i p).2 where
  size_le := by simp [emit]
  kept j hj := by simp [emit, Array.getElem?_push, Nat.ne_of_lt hj]
  fresh j hj := by
    by_cases h : j = p.size
    · simp [emit, h, hi]
    · have hout : p.size + 1 ≤ j := by omega
      rw [Array.getElem?_eq_none (by simpa [emit] using hout)]
      simp

/-- The added instruction is at the position where it starts. -/
theorem hasFrom_emit {i : Inst} {p : Array Inst} {low : Nat} (hl : low ≤ p.size)
    (h : HasFrom insts (emit i p).2 low) : insts[p.size]? = some i := by
  rw [h p.size hl (by simp [emit])]
  simp [emit]

/-- An emitter adds instructions that lead through what a relation matches. -/
structure Realizes (body : Emitter) (r : Relation) : Prop where
  /-- Instructions are added. -/
  adds : ∀ next p, Adds p (body next p).2
  /-- Every way through them, to a place that is not among them, comes out at the position
  that they lead to. -/
  leads : ∀ next p insts, HasFrom insts (body next p).2 p.size → ∀ last : Place,
    last.pc < p.size ∨ (body next p).2.size ≤ last.pc →
    Leads insts r (body next p).1 next last

namespace Realizes

variable {body first second : Emitter} {r s : Relation}

theorem mono (h : Realizes body r) (hrs : ∀ front hit back, r front hit back → s front hit back) :
    Realizes body s where
  adds := h.adds
  leads next p insts hi last hl := (h.leads next p insts hi last hl).mono hrs

/-- Adding nothing realizes nothing. -/
theorem nothing : Realizes (fun next p => (next, p)) .nothing where
  adds _ p := .refl p
  leads _ _ _ _ _ _ := leads_nothing

/-- Instructions that lead to those of another emitter realize one relation after the
other. -/
theorem andThen (hf : Realizes first r) (hs : Realizes second s) :
    Realizes (fun next p => first (second next p).1 (second next p).2) (r.andThen s) where
  adds next p := (hs.adds next p).trans (hf.adds _ _)
  leads next p insts hi last hl := by
    have hadds := hf.adds (second next p).1 (second next p).2
    have hsize := (hs.adds next p).size_le
    have hsize' := hadds.size_le
    have hsecond := hs.leads next p insts (hadds.hasFrom hi) last (by omega)
    refine (hf.leads _ _ insts (fun i hl => hi i (by omega)) last ?_).andThen hsecond
    rcases hl with hl | hl
    · exact .inl (by omega)
    · exact .inr hl

/-- A body in a row realizes its relation that many times. -/
theorem copies (h : Realizes body r) (n : Nat) : Realizes (copies body n) (r.times n) := by
  induction n with
  | zero => exact nothing
  | succ n ih => exact h.andThen ih

/-- A single instruction realizes what it passes over. -/
theorem emit {i : Nat → Inst} (hi : ∀ next, i next ≠ .accept)
    (hr : ∀ (insts : Array Inst) pc next front back b, insts[pc]? = some (i next) →
      Step insts ⟨pc, front, back⟩ b →
      ∃ hit rest, back = hit ++ rest ∧ r front hit rest ∧ b = ⟨next, front ++ hit, rest⟩) :
    Realizes (fun next => Pattern.emit (i next)) r where
  adds next p := adds_emit (hi next) p
  leads next p insts hh last hl := by
    intro n front back hp
    have hsize : (Pattern.emit (i next) p).2.size = p.size + 1 := by simp [Pattern.emit]
    obtain ⟨c, k, rfl, hs, hrest⟩ := hp.first (by simp only [Pattern.emit] at *; omega)
    obtain ⟨hit, rest, hb, hhit, rfl⟩ :=
      hr insts _ next front back c (hasFrom_emit (Nat.le_refl _) hh) hs
    exact ⟨hit, rest, k, hb, by omega, hhit, hrest⟩

/-- A split before a body realizes the body or nothing. -/
theorem branch (h : Realizes body r) (greedy : Bool) :
    Realizes (fun next p => Pattern.emit (branch greedy (body next p).1 next) (body next p).2)
      (fun front hit back => r front hit back ∨ hit = []) where
  adds next p := (h.adds next p).trans (adds_emit (by simp [Pattern.branch]) _)
  leads next p insts hi last hl := by
    have hsize := (h.adds next p).size_le
    have hlast : last.pc < p.size ∨ (body next p).2.size + 1 ≤ last.pc := by
      simpa [Pattern.emit] using hl
    have hbody := h.leads next p insts
      ((adds_emit (i := Pattern.branch greedy (body next p).1 next) (by simp [Pattern.branch])
        _).hasFrom hi) last (by omega)
    have hsplit := hasFrom_emit (i := Pattern.branch greedy (body next p).1 next) hsize hi
    refine leads_branch hsplit ?_ hbody
    simp only [Pattern.emit]
    omega

/-- A body with a split before it that it leads back to: the split, and the way from the
body. -/
theorem loop (h : Realizes body r) (greedy : Bool) (next : Nat) (p : Array Inst) :
    Adds p ((body p.size (p.push .accept)).2.setIfInBounds p.size
      (Pattern.branch greedy (body p.size (p.push .accept)).1 next)) ∧
    ∀ insts, HasFrom insts ((body p.size (p.push .accept)).2.setIfInBounds p.size
      (Pattern.branch greedy (body p.size (p.push .accept)).1 next)) p.size →
    ∀ last : Place, last.pc < p.size ∨ (body p.size (p.push .accept)).2.size ≤ last.pc →
      Leads insts r.star p.size next last ∧
      Leads insts (r.andThen r.star) (body p.size (p.push .accept)).1 next last := by
  have hadds := h.adds p.size (p.push .accept)
  have hleads := h.leads p.size (p.push .accept)
  generalize body p.size (p.push .accept) = q at hadds hleads ⊢
  have hsize : p.size + 1 ≤ q.2.size := by simpa using hadds.size_le
  refine ⟨⟨by simp; omega, fun i hi => ?_, fun i hi => ?_⟩, fun insts hi last hl => ?_⟩
  · have hkept := hadds.kept i (by simp; omega)
    rw [Array.getElem?_setIfInBounds, if_neg (by omega), hkept, Array.getElem?_push,
      if_neg (by omega)]
  · rw [Array.getElem?_setIfInBounds]
    split
    · split <;> simp [Pattern.branch]
    · exact hadds.fresh i (by simp; omega)
  · have hsplit : insts[p.size]? = some (Pattern.branch greedy q.1 next) := by
      rw [hi p.size (Nat.le_refl _) (by simp; omega), Array.getElem?_setIfInBounds]
      simp; omega
    have hbody : HasFrom insts q.2 (p.push .accept).size := fun i hl hq => by
      simp only [Array.size_push] at hl
      rw [hi i (by omega) (by simpa using hq), Array.getElem?_setIfInBounds,
        if_neg (by omega)]
    have hround := hleads insts hbody last (by simp only [Array.size_push]; omega)
    have hloop := leads_loop hsplit (by omega) hround
    exact ⟨hloop, hround.andThen hloop⟩

/-- A body once or more. -/
theorem onceOrMore (h : Realizes body r) (greedy : Bool) :
    Realizes (onceOrMore body greedy) (r.andThen r.star) where
  adds next p := (h.loop greedy next p).1
  leads next p insts hi last hl :=
    ((h.loop greedy next p).2 insts hi last (by simpa [Pattern.onceOrMore] using hl)).2

/-- A body any number of times. -/
theorem anyNumber (h : Realizes body r) (takes greedy : Bool) :
    Realizes (anyNumber body takes greedy) r.star := by
  cases takes with
  | true =>
    exact {
      adds := fun next p => (h.loop greedy next p).1
      leads := fun next p insts hi last hl =>
        ((h.loop greedy next p).2 insts hi last (by simpa [Pattern.anyNumber] using hl)).1 }
  | false =>
    refine ((h.onceOrMore greedy).branch greedy).mono fun front hit back hm => ?_
    rcases hm with ⟨first, others, rfl, hfirst, n, hothers⟩ | rfl
    · exact ⟨n + 1, first, others, rfl, hfirst, hothers⟩
    · exact ⟨0, rfl⟩

/-- A body up to a number of times. -/
theorem upTo (h : Realizes body r) (greedy : Bool) (n : Nat) :
    Realizes (upTo body greedy n)
      (fun front hit back => ∃ k, k ≤ n ∧ r.times k front hit back) := by
  induction n with
  | zero => exact nothing.mono fun _ _ _ hm => ⟨0, Nat.le_refl _, hm⟩
  | succ n ih =>
    refine ((h.andThen ih).branch greedy).mono fun front hit back hm => ?_
    rcases hm with ⟨first, others, rfl, hfirst, k, hk, hothers⟩ | rfl
    · exact ⟨k + 1, by omega, first, others, rfl, hfirst, hothers⟩
    · exact ⟨0, by omega, rfl⟩

end Realizes

/-- The instructions of a repetition realize what it matches. -/
theorem emit_repeated_realizes {body : Expr} (h : Realizes body.emit body.Matches) (min : Nat)
    (max : Option Nat) (greedy : Bool) :
    Realizes (Expr.repeated body min max greedy).emit
      (Expr.repeated body min max greedy).Matches := by
  cases max with
  | some max =>
    refine ((h.copies min).andThen (h.upTo greedy (max - min))).mono fun front hit back hm => ?_
    obtain ⟨first, others, rfl, hfirst, k, hk, hothers⟩ := hm
    have hleft := Nat.le_max_left min max
    have hright := Nat.le_max_right min max
    have hn : min + k ≤ Nat.max min max := by
      change min + k ≤ Max.max min max
      omega
    exact Expr.matches_repeated (min + k) (by omega) (by rintro _ ⟨⟩; exact hn)
      (Relation.times_add min k ⟨first, others, rfl, hfirst, hothers⟩)
  | none =>
    cases min with
    | zero =>
      refine (h.anyNumber body.takes greedy).mono fun front hit back hm => ?_
      obtain ⟨n, hn⟩ := hm
      exact Expr.matches_repeated n (Nat.zero_le n) (by simp) hn
    | succ min =>
      refine ((h.copies min).andThen (h.onceOrMore greedy)).mono fun front hit back hm => ?_
      obtain ⟨first, others, rfl, hfirst, one, more, rfl, hone, n, hmore⟩ := hm
      exact Expr.matches_repeated (min + (n + 1)) (by omega) (by simp)
        (Relation.times_add min (n + 1)
          ⟨first, one ++ more, rfl, hfirst, one, more, rfl, hone, hmore⟩)

/-- The only character of a set of one is that one. -/
theorem eq_of_contains_single {c d : Char}
    (h : Charset.contains [(c.toNat, c.toNat)] d.toNat = true) : d = c := by
  simp only [Charset.contains, Bool.or_false] at h
  split at h
  · exact absurd h (by simp)
  · have hle := of_decide_eq_true h
    apply Char.ext
    apply UInt32.toNat_inj.mp
    simp only [Char.toNat] at *
    omega

mutual

/-- The instructions of an expression realize what it matches. -/
theorem emit_realizes : ∀ e : Expr, Realizes e.emit e.Matches
  | .empty => Realizes.nothing.mono fun front hit back hm => by
    rw [show hit = [] from hm]
    exact .empty front back
  | .char c => Realizes.emit (i := .take [(c.toNat, c.toNat)]) (by simp)
      fun insts pc next front back b hi hs => by
    obtain ⟨d, rest, rfl, hd, rfl⟩ := hs.of_take hi
    rw [eq_of_contains_single hd]
    exact ⟨[c], rest, rfl, .char c front rest, rfl⟩
  | .set s => Realizes.emit (i := .take s) (by simp) fun insts pc next front back b hi hs => by
    obtain ⟨c, rest, rfl, hc, rfl⟩ := hs.of_take hi
    exact ⟨[c], rest, rfl, .set front rest hc, rfl⟩
  | .look l => Realizes.emit (i := .check l) (by simp) fun insts pc next front back b hi hs => by
    obtain ⟨hl, rfl⟩ := hs.of_check hi
    exact ⟨[], back, rfl, .look hl, by rw [List.append_nil]⟩
  | .repeated body min max greedy =>
    emit_repeated_realizes (emit_realizes body) min max greedy
  | .capture body => (emit_realizes body).mono fun _ _ _ hm => .capture hm
  | .sequence parts => emitAll_realizes parts
  | .choice branches =>
    { adds := fun next p =>
        (emitBranches_adds branches next p).trans (adds_emit (by simp) _)
      leads := fun next p insts hi last hl => by
        have hadds := emitBranches_adds branches next p
        have hsize := hadds.size_le
        have hsplit : insts[((Expr.choice branches).emit next p).1]? =
            some (.split (Expr.emitBranches branches next p).1) := hasFrom_emit hsize hi
        have hlast : last.pc < p.size ∨
            (Expr.emitBranches branches next p).2.size + 1 ≤ last.pc := by
          simpa [Expr.emit, emit] using hl
        have hbranches := emitBranches_leads branches next p insts
          ((adds_emit (i := .split (Expr.emitBranches branches next p).1) (by simp) _).hasFrom hi)
          last (by omega)
        intro n front back hp
        obtain ⟨b, k, rfl, hs, hrest⟩ := hp.first (by simp only [Expr.emit, emit]; omega)
        obtain ⟨start, hstart, rfl⟩ := hs.of_split hsplit
        obtain ⟨e, he, hleads⟩ := hbranches start hstart
        obtain ⟨hit, rest, j, hb, hj, hhit, hnext⟩ := hleads k front back hrest
        exact ⟨hit, rest, j, hb, by omega, .choice he hhit, hnext⟩ }

/-- The instructions of expressions in a row realize what they match one after the other. -/
theorem emitAll_realizes : ∀ es : List Expr,
    Realizes (Expr.emitAll es) (Expr.sequence es).Matches
  | [] => Realizes.nothing.mono fun _ _ _ hm => Expr.matches_nil.mpr hm
  | e :: rest => ((emit_realizes e).andThen (emitAll_realizes rest)).mono
      fun _ _ _ hm => Expr.matches_cons.mpr hm

/-- The instructions of branches are added one after the other. -/
theorem emitBranches_adds : ∀ (es : List Expr) (next : Nat) (p : Array Inst),
    Adds p (Expr.emitBranches es next p).2
  | [], _, p => .refl p
  | e :: rest, next, p =>
    ((emit_realizes e).adds next p).trans (emitBranches_adds rest next (e.emit next p).2)

/-- Where a branch starts, the way leads through what it matches. -/
theorem emitBranches_leads : ∀ (es : List Expr) (next : Nat) (p insts : Array Inst),
    HasFrom insts (Expr.emitBranches es next p).2 p.size → ∀ last : Place,
    last.pc < p.size ∨ (Expr.emitBranches es next p).2.size ≤ last.pc →
    ∀ start ∈ (Expr.emitBranches es next p).1, ∃ e ∈ es, Leads insts e.Matches start next last
  | [], _, _, _, _, _, _, _, hs => absurd hs (by simp [Expr.emitBranches])
  | e :: rest, next, p, insts, hi, last, hl, start, hs => by
    have hrest := emitBranches_adds rest next (e.emit next p).2
    have hsize := ((emit_realizes e).adds next p).size_le
    have hsize' := hrest.size_le
    rcases List.mem_cons.mp hs with rfl | hs
    · refine ⟨e, List.mem_cons_self, ?_⟩
      refine (emit_realizes e).leads next p insts (hrest.hasFrom hi) last ?_
      simp only [Expr.emitBranches] at hl
      omega
    · obtain ⟨f, hf, hleads⟩ := emitBranches_leads rest next (e.emit next p).2 insts
        (fun i hl => hi i (by omega)) last (by simp only [Expr.emitBranches] at hl; omega) start hs
      exact ⟨f, List.mem_cons_of_mem _ hf, hleads⟩

end

/-- A way through the program of an expression, from its start to where it has matched,
passes over what the expression matches. -/
theorem program_matches {e : Expr} {n : Nat} {front back : List Char} {last : Place}
    (hp : Path e.program.insts n ⟨e.program.start, front, back⟩ last)
    (hl : e.program.insts[last.pc]? = some .accept) :
    ∃ hit, back = hit ++ last.back ∧ last.front = front ++ hit ∧ e.Matches front hit last.back := by
  have hadds := (emit_realizes e).adds 0 #[.accept]
  have hzero : last.pc = 0 := by
    rcases Nat.eq_zero_or_pos last.pc with h | h
    · exact h
    · exact absurd hl (hadds.fresh last.pc h)
  have haccept : e.program.insts[0]? = some .accept := hzero ▸ hl
  obtain ⟨hit, rest, k, rfl, -, hhit, hend⟩ := (emit_realizes e).leads 0 #[.accept]
    e.program.insts (fun _ _ _ => rfl) last (.inl (by simp [hzero])) n front back hp
  obtain rfl := hend.of_accept haccept
  exact ⟨hit, rfl, rfl, hhit⟩

end BuildTriage.Pattern
