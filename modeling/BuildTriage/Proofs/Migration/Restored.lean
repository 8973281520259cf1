import BuildTriage.Proofs.Migration.Filled
import BuildTriage.Proofs.Scan.Truth

/-!
# A conversion restores what a scan found

A scan line by line reports the number of the line that it hit, counted from one, and the whole
line; a conversion looks the line up by that number. So a record that a scan reported, left with
its line only, becomes what it was when it is filled in from the same log. This is so whatever
the matcher is, whatever the log has in its lines, and whatever becomes of the attempts. The
numbers are words, and a log has fewer lines than there are words.
-/

namespace BuildTriage

open Scan

variable {log : List String}

namespace FoundIndication

variable {f g h : FoundIndication}

/-- A record is what a match in a line of a log comes to, and may name a build. -/
def OfLine (log : List String) (f : FoundIndication) : Prop :=
  ∃ n text, log[n]? = some text ∧
    f = { ofMatch f.pattern f.matchingFile (UInt64.ofNat (n + 1)) text with build := f.build }

/-- A record is that of a scan line by line, in some turns, and may name a build. -/
def Scanned (log : List String) (f : FoundIndication) : Prop :=
  ∃ (matcher : Matcher) (turns : List (Scan.Turn (String × Nat))) (a : Allowance)
    (found : FoundIndication), turns.map (·.item) = Scanner.lineItems log ∧
    (Scanner.scanLines matcher f.pattern f.matchingFile turns a).1.found = some found ∧
    f = { found with build := f.build }

/-- The record without its text. -/
def stripped (f : FoundIndication) : FoundIndication :=
  { f with matchingString := none, matchingHash := none }

/-- The line of a log after so many others has the next number. -/
theorem toNat_number {n : Nat} {text : String} (hlog : log.length < UInt64.size)
    (htext : log[n]? = some text) : (UInt64.ofNat (n + 1)).toNat = n + 1 := by
  have hlt := (List.getElem?_eq_some_iff.mp htext).1
  exact UInt64.toNat_ofNat_of_lt' (Nat.lt_of_le_of_lt hlt hlog)

/-- What a scan line by line reports is the record of a line. -/
theorem exists_line_of_found {matcher : Matcher} {pattern file : String}
    {turns : List (Scan.Turn (String × Nat))} {a : Allowance}
    (hitems : turns.map (·.item) = Scanner.lineItems log)
    (hfound : (Scanner.scanLines matcher pattern file turns a).1.found = some f) :
    ∃ n text, log[n]? = some text ∧ f = .ofMatch pattern file (UInt64.ofNat (n + 1)) text := by
  obtain ⟨item, hitem, bytes, -, rfl⟩ := Scanner.exists_hit_of_found hfound
  rw [hitems] at hitem
  exact ⟨item.2, item.1, List.mk_mem_zipIdx_iff_getElem?.mp hitem, rfl⟩

/-- The record of a line is filled in again once it is without its text. -/
theorem OfLine.fill?_stripped (h : f.OfLine log) (hlog : log.length < UInt64.size) :
    f.stripped.fill? log = some f := by
  obtain ⟨n, text, htext, hf⟩ := h
  have hindex : max (UInt64.ofNat (n + 1)).toNat 1 - 1 = n := by
    rw [toNat_number hlog htext]
    omega
  rw [hf, fill?_line rfl rfl, hindex, htext]
  rfl

theorem Scanned.ofLine (h : f.Scanned log) : f.OfLine log := by
  obtain ⟨matcher, turns, a, found, hitems, hfound, hf⟩ := h
  obtain ⟨n, text, htext, rfl⟩ := exists_line_of_found hitems hfound
  exact ⟨n, text, htext, hf⟩

/-- The record of a line has its text. -/
theorem OfLine.not_due (h : f.OfLine log) : f.isDue log = false := by
  obtain ⟨n, text, -, hf⟩ := h
  rw [hf]
  rfl

/-- What becomes of a record when those of scans line by line may lose their texts. -/
inductive Stripped (log : List String) : FoundIndication → FoundIndication → Prop where
  /-- The record of a scan line by line loses its text. -/
  | scanned {f : FoundIndication} (h : f.Scanned log) : Stripped log f f.stripped
  /-- A record stays as it is. -/
  | kept (f : FoundIndication) : Stripped log f f

/-- A conversion makes of a stripped record what it makes of the record itself. -/
theorem Stripped.filled (hlog : log.length < UInt64.size) (hstrip : Stripped log f g)
    (hfill : Filled log g h) : Filled log f h := by
  cases hstrip with
  | scanned hscanned =>
    have hrestored : h = f := by
      rw [hfill.eq_getD, hscanned.ofLine.fill?_stripped hlog, Option.getD_some]
    rw [hrestored]
    exact .kept hscanned.ofLine.not_due
  | kept => exact hfill

end FoundIndication

/-- Lists whose items are related one by one, through the items of a list between them. -/
theorem forall₂_trans {α β γ : Type} {r : α → β → Prop} {q : β → γ → Prop} {p : α → γ → Prop}
    {as : List α} {bs : List β} {cs : List γ} (h : ∀ {a b c}, r a b → q b c → p a c)
    (hr : List.Forall₂ r as bs) (hq : List.Forall₂ q bs cs) : List.Forall₂ p as cs := by
  induction hr generalizing cs with
  | nil => cases hq; exact .nil
  | cons hab _ ih =>
    cases hq with
    | cons hbc hrest => exact .cons (h hab hbc) (ih hrest)

namespace FoundCause

/-- What becomes of a found cause when its records of scans line by line may lose their texts. -/
def Stripped (log : List String) (c d : FoundCause) : Prop :=
  d = { c with indications := d.indications } ∧
    List.Forall₂ (FoundIndication.Stripped log) c.indications d.indications

/-- A conversion makes of a stripped cause what it makes of the cause itself. -/
theorem Stripped.filled {c d e : FoundCause} (hlog : log.length < UInt64.size)
    (hstrip : Stripped log c d) (hfill : Filled log d e) : Filled log c e := by
  obtain ⟨hd, hstripped⟩ := hstrip
  obtain ⟨he, hfilled⟩ := hfill
  refine ⟨?_, forall₂_trans (fun hf hg => hf.filled hlog hg) hstripped hfilled⟩
  rw [he, hd]

end FoundCause

namespace Triage

/-- A conversion restores what scans line by line have found. The record of such a scan, left
with its pattern, file and line and filled in from the log, is the record again. If some records
of such scans among those attached to a build lose their texts, then a conversion fills in as
many records as are due and comes to what it would have come to had they kept them; and that is
what there was, if no record was due then. -/
theorem conversion_restores (log : List String) (hlog : log.length < UInt64.size) :
    (∀ (matcher : Matcher) (pattern file : String) (turns : List (Scan.Turn (String × Nat)))
      (a : Allowance) (f : FoundIndication),
      turns.map (·.item) = Scanner.lineItems log →
      (Scanner.scanLines matcher pattern file turns a).1.found = some f →
      ∃ line, f.matchingLine = some line ∧
        (FoundIndication.lineOnly pattern file line).fill? log = some f) ∧
    ∀ (t : Triage) (b : BuildRef) (causes stripped : List FoundCause) (builds : BuildStore),
      t.builds.log b = .ok log → t.builds.found b = .ok (some causes) →
      List.Forall₂ (FoundCause.Stripped log) causes stripped →
      t.builds.attach b stripped = .ok builds →
      ∃ n unstripped t', fillFound b t = .ok n unstripped ∧
        fillFound b { t with builds := builds } = .ok (FoundCause.dueCount log stripped) t' ∧
        t' = { t with builds := t'.builds } ∧ t'.builds.builds = t.builds.builds ∧
        (∀ other, t'.builds.get other = unstripped.builds.get other) ∧
        (FoundCause.dueCount log causes = 0 → unstripped = t) := by
  refine ⟨fun matcher pattern file turns a f hitems hfound => ?_,
    fun t b causes stripped builds hlogs hfound hstripped hattach => ?_⟩
  · obtain ⟨n, text, htext, rfl⟩ := FoundIndication.exists_line_of_found hitems hfound
    have hline : (FoundIndication.ofMatch pattern file (UInt64.ofNat (n + 1)) text).OfLine log :=
      ⟨n, text, htext, rfl⟩
    exact ⟨_, rfl, hline.fill?_stripped hlog⟩
  · have hlogs' : builds.log b = .ok log := (BuildStore.log_setFound hattach b).trans hlogs
    have hfound' : builds.found b = .ok (some stripped) := BuildStore.found_setFound hattach
    -- the two conversions, of the build as it was and of the stripped one
    obtain ⟨n, first, hrun, hfills, -⟩ := BuildStore.exists_fills (BuildStore.mem_of_map_get hlogs)
    obtain ⟨n', second, hrun', hfills', -⟩ :=
      BuildStore.exists_fills (BuildStore.mem_of_map_get hlogs')
    obtain ⟨rfl, filled, hfilled, hafter, -⟩ := hfills.scanned causes log hfound hlogs
    obtain ⟨rfl, restored, hrestored, hafter', -⟩ := hfills'.scanned stripped log hfound' hlogs'
    have hfilled' : List.Forall₂ (FoundCause.Filled log) causes restored :=
      forall₂_trans (fun hc hd => hc.filled hlog hd) hstripped hrestored
    obtain rfl := List.right_unique_forall₂' FoundCause.Filled.unique hfilled hfilled'
    refine ⟨_, _, _, fillFound_ok hrun, fillFound_ok hrun', rfl, ?_, fun other => ?_,
      fun hnone => ?_⟩
    · exact hfills'.builds.trans (BuildStore.builds_setFound hattach)
    · have hinfo : second.info other = first.info other := by
        rw [hfills'.info, BuildStore.info_setFound hattach, hfills.info]
      have hlog' : second.log other = first.log other := by
        rw [hfills'.log, BuildStore.log_setFound hattach, hfills.log]
      refine BuildStore.get_congr hinfo hlog' ?_
      by_cases hother : other = b
      · rw [hother, hafter, hafter']
      · rw [hfills'.others other hother, BuildStore.found_setFound_other hattach hother,
          hfills.others other hother]
    · have hunwritten : first = t.builds := hfills.unwritten hnone
      rw [hunwritten]

/-- A host with a build in whose log a scan has found the second line. -/
def scannedBuild : Triage :=
  { start {} (.ofFile .inMemory) "" with
    builds := ⟨[⟨.bare ⟨"p", 1⟩ .failure, ["miss", "a hit"],
      some [⟨"a", "A", "", [], [.ofMatch "x" "log" 2 "a hit"]⟩]⟩]⟩ }

theorem conversion_restores_scannedBuild :
    let log := ["miss", "a hit"]
    let turns := [⟨("miss", 0), .overdue, []⟩, ⟨("a hit", 1), .answered, []⟩]
    let f := FoundIndication.ofMatch "x" "log" 2 "a hit"
    let stripped : List FoundCause := [⟨"a", "A", "", [], [f.stripped]⟩]
    log.length < UInt64.size ∧ turns.map (·.item) = Scanner.lineItems log ∧
    (Scanner.scanLines (.literal "hit") "x" "log" turns (.fresh 1)).1.found = some f ∧
    (FoundIndication.lineOnly "x" "log" 2).fill? log = some f ∧
    ∃ builds t', scannedBuild.builds.attach ⟨"p", 1⟩ stripped = .ok builds ∧
      fillFound ⟨"p", 1⟩ { scannedBuild with builds := builds } = .ok 1 t' ∧
      ∀ other, t'.builds.get other = scannedBuild.builds.get other := by
  intro log turns f stripped
  have hlog : log.length < UInt64.size := by decide
  have hitems : turns.map (·.item) = Scanner.lineItems log := rfl
  have hfound : (Scanner.scanLines (.literal "hit") "x" "log" turns (.fresh 1)).1.found =
      some f := by decide +kernel
  have hscanned : f.Scanned log := ⟨.literal "hit", turns, .fresh 1, f, hitems, hfound, rfl⟩
  have hstripped : List.Forall₂ (FoundCause.Stripped log)
      [⟨"a", "A", "", [], [f]⟩] stripped := .cons ⟨rfl, .cons (.scanned hscanned) .nil⟩ .nil
  obtain ⟨hrecord, hbuild⟩ := conversion_restores log hlog
  obtain ⟨line, hline, hfill⟩ := hrecord (.literal "hit") "x" "log" turns (.fresh 1) f hitems hfound
  obtain rfl : line = 2 := (Option.some.inj hline).symm
  obtain ⟨n, unstripped, t', -, hrun, -, -, hget, hsame⟩ :=
    hbuild scannedBuild ⟨"p", 1⟩ _ stripped _ rfl rfl hstripped rfl
  rw [hsame rfl] at hget
  exact ⟨hlog, hitems, hfound, hfill, _, t', rfl, hrun, hget⟩

end Triage

end BuildTriage
