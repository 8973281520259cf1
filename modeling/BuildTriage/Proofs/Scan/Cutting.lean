import BuildTriage.Proofs.Scan.Layout
import BuildTriage.Proofs.Words
import BuildTriage.Scan.Report

/-!
# Windows are cut in words

The places where windows start and end are found in words: the size is added to the start, the
sum is held back to the end of the text and pushed forward to a boundary; then the overlap is
taken off the end, and so is found where the next window starts, one byte further on at least. For
a text of fewer than `2 ^ 63` bytes no sum on the way is larger than a word, whatever the size,
and the loop ends with the windows over the text.
-/

namespace BuildTriage

namespace Scan

open Text

namespace Cutting

section Words

variable {a b : UInt64}

/-- The sum of two words, if it is one. -/
def sum? (a b : UInt64) : Option UInt64 :=
  if a.toNat + b.toNat < 2 ^ 64 then some (a + b) else none

/-- The difference of two words, or zero if there is none. -/
def excess (a b : UInt64) : UInt64 := if b ≤ a then a - b else 0

theorem sum_eq (h : a.toNat + b.toNat < 2 ^ 64) :
    sum? a b = some (.ofNat (a.toNat + b.toNat)) := by
  have hsum : a + b = .ofNat (a.toNat + b.toNat) := by
    rw [← UInt64.toNat_inj, UInt64.toNat_add, UInt64.toNat_ofNat']
  rw [sum?, if_pos h, hsum]

theorem toNat_excess (a b : UInt64) : (excess a b).toNat = a.toNat - b.toNat := by
  unfold excess
  split
  · next hle => exact UInt64.toNat_sub_of_le a b hle
  · next hlt =>
    rw [UInt64.le_iff_toNat_le] at hlt
    exact (Nat.sub_eq_zero_of_le (by omega)).symm

end Words

variable {text before rest : List Char} {size overlap : UInt64}

/-- A place is pushed forward, one byte at a time, until it is a boundary. -/
inductive Pushed (text : List Char) : UInt64 → UInt64 → Prop where
  /-- It is one. -/
  | here {place : UInt64} (h : IsBoundary text place.toNat) : Pushed text place place
  /-- It is none, and there is a next byte. -/
  | on {place next edge : UInt64} (h : ¬IsBoundary text place.toNat)
    (hnext : sum? place 1 = some next) (hrest : Pushed text next edge) : Pushed text place edge

/-- Where the window ends that starts at a place. -/
def Ends (text : List Char) (size start stop : UInt64) : Prop :=
  ∃ sum, sum? start size = some sum ∧ Pushed text (min sum (.ofNat (byteLength text))) stop

/-- Where the next window starts. -/
def Resumes (text : List Char) (overlap start stop next : UInt64) : Prop :=
  ∃ after, sum? start 1 = some after ∧ Pushed text (max (excess stop overlap) after) next

/-- The loop that cuts windows, from a place on, with the starts and ends that it gives. -/
inductive Cuts (text : List Char) (size overlap : UInt64) :
    UInt64 → List (UInt64 × UInt64) → Prop where
  /-- The window reaches the end of the text. -/
  | last {start stop : UInt64} (hstop : Ends text size start stop)
    (hlast : .ofNat (byteLength text) ≤ stop) : Cuts text size overlap start [(start, stop)]
  /-- It does not, and the loop goes on. -/
  | next {start stop next : UInt64} {later : List (UInt64 × UInt64)}
    (hstop : Ends text size start stop) (hmore : stop < .ofNat (byteLength text))
    (hnext : Resumes text overlap start stop next) (hlater : Cuts text size overlap next later) :
    Cuts text size overlap start ((start, stop) :: later)

section Unique

variable {place start stop stop' next next' edge edge' : UInt64} {out out' : List (UInt64 × UInt64)}

theorem Pushed.unique (h : Pushed text place edge) (h' : Pushed text place edge') :
    edge = edge' := by
  induction h with
  | here hplace =>
    cases h' with
    | here => rfl
    | on hnot => exact absurd hplace hnot
  | on hnot hnext _ ih =>
    cases h' with
    | here hplace => exact absurd hplace hnot
    | on _ hnext' hrest' => exact ih (Option.some.inj (hnext.symm.trans hnext') ▸ hrest')

theorem Ends.unique (h : Ends text size start stop) (h' : Ends text size start stop') :
    stop = stop' := by
  obtain ⟨sum, hsum, hpushed⟩ := h
  obtain ⟨sum', hsum', hpushed'⟩ := h'
  obtain rfl : sum = sum' := Option.some.inj (hsum.symm.trans hsum')
  exact hpushed.unique hpushed'

theorem Resumes.unique (h : Resumes text overlap start stop next)
    (h' : Resumes text overlap start stop next') : next = next' := by
  obtain ⟨after, hafter, hpushed⟩ := h
  obtain ⟨after', hafter', hpushed'⟩ := h'
  obtain rfl : after = after' := Option.some.inj (hafter.symm.trans hafter')
  exact hpushed.unique hpushed'

/-- The loop gives one list. -/
theorem Cuts.unique (h : Cuts text size overlap start out)
    (h' : Cuts text size overlap start out') :
    out = out' := by
  induction h generalizing out' with
  | last hstop hlast =>
    cases h' with
    | last hstop' => rw [hstop.unique hstop']
    | next hstop' hmore =>
      rw [hstop.unique hstop'] at hlast
      exact absurd hmore (UInt64.not_lt.mpr hlast)
  | next hstop hmore hnext _ ih =>
    cases h' with
    | last hstop' hlast =>
      rw [hstop.unique hstop'] at hmore
      exact absurd hmore (UInt64.not_lt.mpr hlast)
    | next hstop' _ hnext' hlater' =>
      obtain rfl := hstop.unique hstop'
      obtain rfl := hnext.unique hnext'
      rw [ih hlater']

end Unique

/-- The first boundary from a place on. -/
structure FirstBoundary (text : List Char) (place edge : Nat) : Prop where
  /-- It is a boundary. -/
  boundary : IsBoundary text edge
  /-- It does not stand before the place. -/
  le : place ≤ edge
  /-- No boundary stands between them. -/
  first : ∀ other, IsBoundary text other → place ≤ other → edge ≤ other

/-- The shortest beginning with so many bytes ends at the first boundary from there on. -/
theorem firstBoundary_takeBytes {n : Nat} (h : n ≤ byteLength rest) :
    FirstBoundary (before ++ rest) (byteLength before + n)
      (byteLength before + byteLength (takeBytes n rest)) := by
  constructor
  case boundary => exact isBoundary_append (takeBytes_begins n rest)
  case le => exact Nat.add_le_add_left (le_byteLength_takeBytes n rest h) _
  case first =>
    rintro _ ⟨front, hfront, rfl⟩ hle
    obtain ⟨part, rfl⟩ := isPrefix_of_byteLength_le (List.prefix_append before rest) hfront
      (Nat.le_of_add_right_le hle)
    rw [List.prefix_append_right_inj] at hfront
    rw [byteLength_append] at hle ⊢
    have hpart :=
      byteLength_le_of_isPrefix (takeBytes_isPrefix hfront (Nat.le_of_add_le_add_left hle))
    exact Nat.add_le_add_left hpart _

/-- A place is pushed forward to the first boundary, and no step on the way is too large. -/
theorem FirstBoundary.pushed {n edge : Nat} (h : FirstBoundary text n edge)
    (hedge : edge < 2 ^ 64) :
    Pushed text (.ofNat n) (.ofNat edge) := by
  have hle := h.le
  have hn : (UInt64.ofNat n).toNat = n := toNat_word (Nat.lt_of_le_of_lt hle hedge)
  induction hgap : edge - n generalizing n with
  | zero =>
    obtain rfl : n = edge := by omega
    refine .here ?_
    rw [hn]
    exact h.boundary
  | succ gap ih =>
    have hnot : ¬IsBoundary text n := by
      intro hboundary
      have hfirst := h.first n hboundary (Nat.le_refl n)
      omega
    have hnext : FirstBoundary text (n + 1) edge :=
      ⟨h.boundary, by omega, fun other hother hplace => h.first other hother (by omega)⟩
    have hsum : sum? (.ofNat n) 1 = some (.ofNat (n + 1)) := by
      have hone : (1 : UInt64).toNat = 1 := rfl
      rw [sum_eq (by omega), hn, hone]
    have hn' : (UInt64.ofNat (n + 1)).toNat = n + 1 := toNat_word (by omega)
    exact .on (by rwa [hn]) hsum (ih hnext (by omega) hn' (by omega))

/-- The start and the end of a window, in words. -/
def range (w : Window) : UInt64 × UInt64 := (.ofNat w.start, .ofNat w.stop)

section Steps

variable {start : Nat}

/-- Where the front window over the rest of a text ends. -/
theorem ends_front (htext : text = before ++ rest) (hstart : byteLength before = start)
    (hfits : byteLength text < 2 ^ 63) (hsum : start + size.toNat < 2 ^ 64) :
    Ends text size (.ofNat start) (.ofNat (Window.front size.toNat start rest).stop) := by
  subst hstart htext
  rw [byteLength_append] at hfits
  have hplace : (UInt64.ofNat (byteLength before)).toNat = byteLength before :=
    toNat_word (by omega)
  have hlength : (UInt64.ofNat (byteLength (before ++ rest))).toNat =
      byteLength before + byteLength rest := by
    rw [byteLength_append]
    exact toNat_word (by omega)
  have hwhole : (UInt64.ofNat (byteLength before + size.toNat)).toNat =
      byteLength before + size.toNat := toNat_word hsum
  have hheld : min (UInt64.ofNat (byteLength before + size.toNat))
      (.ofNat (byteLength (before ++ rest))) =
      .ofNat (byteLength before + min size.toNat (byteLength rest)) := by
    refine eq_word ?_
    rw [toNat_min, hwhole, hlength]
    omega
  have hfirst : FirstBoundary (before ++ rest)
      (byteLength before + min size.toNat (byteLength rest))
      (Window.front size.toNat (byteLength before) rest).stop := by
    rw [Window.stop_front, ← takeBytes_min]
    exact firstBoundary_takeBytes (Nat.min_le_right _ _)
  have hstop := hfirst.boundary.le
  rw [byteLength_append] at hstop
  refine ⟨.ofNat (byteLength before + size.toNat), ?_, ?_⟩
  · rw [sum_eq (by rwa [hplace]), hplace]
  · rw [hheld]
    exact hfirst.pushed (by omega)

/-- Where the next window over the rest of a text starts. -/
theorem resumes_front (htext : text = before ++ rest) (hstart : byteLength before = start)
    (hfits : byteLength text < 2 ^ 63) (hlt : overlap.toNat < size.toNat)
    (hmore : (Window.front size.toNat start rest).length ≠ rest.length) {step : Nat}
    (hstep : step = (Window.front size.toNat start rest).stride overlap.toNat) :
    Resumes text overlap (.ofNat start) (.ofNat (Window.front size.toNat start rest).stop)
      (.ofNat (start + byteLength (takeBytes step rest))) := by
  obtain ⟨-, -, hshort⟩ := Window.bytes_front hmore
  obtain ⟨hfar, hnear⟩ := Window.bytes_stride hlt hmore
  rw [← hstep] at hfar hnear
  subst hstart htext
  rw [byteLength_append] at hfits
  have hplace : (UInt64.ofNat (byteLength before)).toNat = byteLength before :=
    toNat_word (by omega)
  have hone : (1 : UInt64).toNat = 1 := rfl
  have hafter : (UInt64.ofNat (byteLength before + 1)).toNat = byteLength before + 1 :=
    toNat_word (by omega)
  have hstop : (UInt64.ofNat (Window.front size.toNat (byteLength before) rest).stop).toNat =
      byteLength before + byteLength (takeBytes size.toNat rest) :=
    toNat_word (by rw [Window.stop_front]; omega)
  have hback : max (excess (.ofNat (Window.front size.toNat (byteLength before) rest).stop) overlap)
      (.ofNat (byteLength before + 1)) = .ofNat (byteLength before + step) := by
    refine eq_word ?_
    rw [toNat_max, toNat_excess, hstop, hafter, hstep, Window.stride, Window.chars_front]
    omega
  have hfirst : FirstBoundary (before ++ rest) (byteLength before + step)
      (byteLength before + byteLength (takeBytes step rest)) :=
    firstBoundary_takeBytes (by omega)
  refine ⟨.ofNat (byteLength before + 1), ?_, ?_⟩
  · rw [sum_eq (by omega), hplace, hone]
  · rw [hback]
    exact hfirst.pushed (by omega)

/-- The loop cuts the windows over the rest of a text. Only the first of all windows may be so
large that its size and its start together are more than the text has. -/
theorem cuts_slide (hfits : byteLength text < 2 ^ 63) (hlt : overlap.toNat < size.toNat)
    (htext : text = before ++ rest) (hstart : byteLength before = start)
    (hsize : start = 0 ∨ size.toNat < byteLength text) :
    Cuts text size overlap (.ofNat start)
      ((Window.slide size.toNat overlap.toNat start rest []).map range) := by
  refine Window.slide_induction (P := fun start rest ws => ∀ before, text = before ++ rest →
    byteLength before = start → (start = 0 ∨ size.toNat < byteLength text) →
    Cuts text size overlap (.ofNat start) (ws.map range)) ?_ ?_ start rest before htext hstart hsize
  · intro start rest hlast before htext hstart hsize
    have hlength : byteLength text = start + byteLength rest := by
      rw [htext, byteLength_append, hstart]
    have hword := size.toNat_lt
    have hsum : start + size.toNat < 2 ^ 64 := by omega
    refine .last (ends_front htext hstart hfits hsum) ?_
    rw [Window.stop_last hlast, hlength]
    exact UInt64.le_refl _
  · intro start rest step ws hmore hstep ih before htext hstart hsize
    have hlength : byteLength text = start + byteLength rest := by
      rw [htext, byteLength_append, hstart]
    obtain ⟨hsize', -, hshort⟩ := Window.bytes_front hmore
    have hsum : start + size.toNat < 2 ^ 64 := by omega
    have hresumes := resumes_front htext hstart hfits hlt hmore hstep
    have hlater := ih (before ++ takeBytes step rest)
      (by rw [List.append_assoc, takeBytes_append_dropBytes, htext])
      (by rw [byteLength_append, hstart]) (.inr (by omega))
    refine .next (ends_front htext hstart hfits hsum) ?_ hresumes hlater
    rw [UInt64.lt_iff_toNat_lt, Window.stop_front, toNat_word (by omega), toNat_word (by omega)]
    omega

end Steps

/-- The loop over a whole text gives the windows over it, and nothing else. -/
theorem cuts_cover_iff (hne : text ≠ []) (hlt : overlap < size) (hfits : byteLength text < 2 ^ 63)
    (out : List (UInt64 × UInt64)) :
    Cuts text size overlap 0 out ↔
      out = (Window.cover size.toNat overlap.toNat text).map range := by
  have hcuts : Cuts text size overlap 0
      ((Window.slide size.toNat overlap.toNat 0 text []).map range) :=
    cuts_slide hfits (UInt64.lt_iff_toNat_lt.mp hlt) (List.nil_append text).symm rfl (.inl rfl)
  rw [← Window.cover_eq_slide hne] at hcuts
  exact ⟨fun h => h.unique hcuts, fun h => h ▸ hcuts⟩

/-- Under any settings a window has at least a byte, and more than it shares. And whatever size
and smaller overlap are asked for in words, the loop over a text that is not empty and has fewer
than `2 ^ 63` bytes ends without a sum that is too large for a word, and it gives windows that lie
over the whole text. -/
theorem windows_laid_out :
    (∀ settings : ScannerSettings, 1 ≤ (Scanner.ofSettings settings).size ∧
      (Scanner.ofSettings settings).overlap < (Scanner.ofSettings settings).size ∧
      (Scanner.ofSettings settings).size < 2 ^ 64) ∧
    ∀ (text : List Char) (size overlap : UInt64), text ≠ [] → overlap < size →
      byteLength text < 2 ^ 63 →
      Window.Layout size.toNat overlap.toNat text
        (Window.cover size.toNat overlap.toNat text) ∧
      ∀ out, Cuts text size overlap 0 out ↔
        out = (Window.cover size.toNat overlap.toNat text).map range := by
  refine ⟨fun settings => ?_, fun text size overlap hne hlt hfits => ?_⟩
  · have hsize := settings.blockSize.toNat_lt
    have hword : max settings.blockSize.toNat 1 < 2 ^ 64 := by omega
    exact ⟨Nat.le_max_right _ _, (Scanner.ofSettings settings).overlap_lt, hword⟩
  · exact ⟨Window.layout_cover (UInt64.lt_iff_toNat_lt.mp hlt) hne,
      cuts_cover_iff hne hlt hfits⟩

/-- Windows over characters of one to four bytes: ends and starts are pushed forward. -/
theorem windows_laid_out_sample :
    let text := ['a', 'é', '€', '😀', 'b']
    text ≠ [] ∧ (2 : UInt64) < 3 ∧ byteLength text < 2 ^ 63 ∧
    Window.Layout 3 2 text (Window.cover 3 2 text) ∧
    Cuts text 3 2 0 [(0, 3), (1, 6), (6, 10), (10, 11)] := by
  intro text
  have hne : text ≠ [] := List.cons_ne_nil _ _
  have hlt : (2 : UInt64) < 3 := by decide
  have hfits : byteLength text < 2 ^ 63 := by decide
  obtain ⟨hlayout, hcuts⟩ := windows_laid_out.2 text 3 2 hne hlt hfits
  exact ⟨hne, hlt, hfits, hlayout, (hcuts _).mpr (by decide +kernel)⟩

end Cutting

end Scan

end BuildTriage
