import BuildTriage.Proofs.Scan.Window
import Mathlib.Data.List.Chain

/-!
# How windows lie over a text

A place in a text is the number of bytes before it, and no character is cut at a boundary. All
windows begin and end at boundaries. Each but the last has the wanted bytes, and three more at
most; the next one starts behind its start, ends behind its end, and leaves no gap. A stretch of
no more bytes than two windows share lies in the first window, or it begins where the next window
has started already; so it lies in one of them.
-/

namespace BuildTriage

namespace Text

/-- So many bytes of a text are whole characters. -/
def IsBoundary (text : List Char) (place : Nat) : Prop :=
  ∃ front, front <+: text ∧ byteLength front = place

variable {text before rest : List Char} {n place : Nat}

theorem IsBoundary.le (h : IsBoundary text place) : place ≤ byteLength text := by
  obtain ⟨front, hfront, rfl⟩ := h
  exact byteLength_le_of_isPrefix hfront

/-- A boundary of what follows a part of a text is one of the text. -/
theorem isBoundary_append {front : List Char} (h : front <+: rest) :
    IsBoundary (before ++ rest) (byteLength before + byteLength front) := by
  refine ⟨before ++ front, ?_, byteLength_append before front⟩
  rw [List.prefix_append_right_inj]
  exact h

theorem countBytes_le_length (n : Nat) (l : List Char) : countBytes n l 0 ≤ l.length := by
  induction l generalizing n with
  | nil => exact Nat.le_refl _
  | cons c l ih =>
    have hrest := ih (n - c.utf8Size)
    rw [countBytes]
    split
    · exact Nat.zero_le _
    · rw [countBytes_add, List.length_cons]
      omega

/-- A beginning has the bytes asked for, or it is the whole text. -/
theorem min_le_byteLength_takeBytes (n : Nat) (l : List Char) :
    min n (byteLength l) ≤ byteLength (takeBytes n l) := by
  by_cases h : n ≤ byteLength l
  · have hbytes := le_byteLength_takeBytes n l h
    omega
  · rw [takeBytes_of_le (by omega)]
    omega

theorem takeBytes_min (n : Nat) (l : List Char) : takeBytes (min n (byteLength l)) l =
    takeBytes n l := by
  by_cases h : n ≤ byteLength l
  · rw [Nat.min_eq_left h]
  · rw [Nat.min_eq_right (by omega), takeBytes_of_le (by omega), takeBytes_of_le (by omega)]

theorem takeBytes_begins (n : Nat) (l : List Char) : takeBytes n l <+: l := List.take_prefix _ _

theorem byteLength_dropBytes (n : Nat) (l : List Char) :
    byteLength (takeBytes n l) + byteLength (dropBytes n l) = byteLength l := by
  rw [← byteLength_append, takeBytes_append_dropBytes]

theorem byteLength_pos {l : List Char} (h : l ≠ []) : 0 < byteLength l :=
  Nat.pos_of_ne_zero fun hzero => h (eq_nil_of_byteLength hzero)

end Text

namespace Scan

open Text

namespace Window

variable {size overlap start : Nat} {text rest : List Char}

theorem start_front (size start : Nat) (rest : List Char) :
    (front size start rest).start = start := rfl

theorem stop_front (size start : Nat) (rest : List Char) :
    (front size start rest).stop = start + byteLength (takeBytes size rest) := rfl

/-- The last window ends with the text. -/
theorem stop_last (h : (front size start rest).length = rest.length) :
    (front size start rest).stop = start + byteLength rest := by
  rw [stop, chars, h]
  exact congrArg (start + byteLength ·) List.take_length

/-- A window that is not the last one has the wanted bytes, and three more at most, and it ends
before the text. -/
theorem bytes_front (h : (front size start rest).length ≠ rest.length) :
    size ≤ byteLength (takeBytes size rest) ∧ byteLength (takeBytes size rest) ≤ size + 3 ∧
    byteLength (takeBytes size rest) < byteLength rest := by
  have hlong : size < byteLength rest :=
    Nat.lt_of_not_le fun hle => h (countBytes_of_le hle)
  refine ⟨le_byteLength_takeBytes size rest (Nat.le_of_lt hlong),
    byteLength_takeBytes_le size rest, ?_⟩
  refine Nat.lt_of_le_of_ne (byteLength_le_of_isPrefix (takeBytes_begins size rest)) fun hsame => ?_
  have hall : takeBytes size rest = rest :=
    eq_of_byteLength_eq (takeBytes_begins size rest) (List.prefix_refl rest) hsame
  have hlength := congrArg List.length hall
  rw [takeBytes, List.length_take] at hlength
  exact h (Nat.le_antisymm (countBytes_le_length size rest) (by simp only [front]; omega))

/-- The next window starts behind the start of a window and not behind its end. -/
theorem bytes_stride (hlt : overlap < size) (h : (front size start rest).length ≠ rest.length) :
    let step := (front size start rest).stride overlap
    step ≤ byteLength (takeBytes step rest) ∧
    byteLength (takeBytes step rest) ≤ byteLength (takeBytes size rest) := by
  obtain ⟨hsize, -, hshort⟩ := bytes_front h
  have hstep : (front size start rest).stride overlap ≤ byteLength (takeBytes size rest) := by
    rw [stride, chars_front]
    omega
  refine ⟨le_byteLength_takeBytes _ rest (by omega), ?_⟩
  exact byteLength_le_of_isPrefix (takeBytes_isPrefix (takeBytes_begins size rest) hstep)

/-- A window follows another. -/
structure Follows (v w : Window) : Prop where
  /-- It starts later. -/
  start : v.start < w.start
  /-- It ends later. -/
  stop : v.stop < w.stop
  /-- There is no gap between them. -/
  joined : w.start ≤ v.stop

/-- The next window follows. -/
theorem follows_next (hlt : overlap < size) (h : (front size start rest).length ≠ rest.length)
    {step : Nat} (hstep : step = (front size start rest).stride overlap) :
    Follows (front size start rest)
      (front size (start + byteLength (takeBytes step rest)) (dropBytes step rest)) := by
  obtain ⟨hsize, -, hshort⟩ := bytes_front h
  obtain ⟨hfar, hnear⟩ := bytes_stride hlt h
  rw [← hstep] at hfar hnear
  have hstride : byteLength (takeBytes size rest) - overlap ≤ step ∧ 1 ≤ step := by
    rw [hstep, stride, chars_front]
    omega
  have hbytes := min_le_byteLength_takeBytes size (dropBytes step rest)
  have hsum := byteLength_dropBytes step rest
  constructor
  case start =>
    rw [start_front, start_front]
    omega
  case stop =>
    rw [stop_front, stop_front]
    omega
  case joined =>
    rw [stop_front]
    exact Nat.add_le_add_left hnear start

/-- Windows lie over a text that stands at some place. -/
structure Laid (size start : Nat) (rest : List Char) (ws : List Window) : Prop where
  /-- The first one is at the front. -/
  first : ws.head? = some (front size start rest)
  /-- Each follows the one before. -/
  chain : ws.IsChain Follows
  /-- The last one ends with the text. -/
  last : ∀ w ∈ ws.getLast?, w.stop = start + byteLength rest
  /-- All others have the wanted bytes, and three more at most. -/
  spans : ∀ w ∈ ws.dropLast, w.start + size ≤ w.stop ∧ w.stop ≤ w.start + size + 3

/-- The windows over a text lie over it. -/
theorem laid_slide (hlt : overlap < size) (start : Nat) (rest : List Char) :
    Laid size start rest (slide size overlap start rest []) := by
  refine slide_induction (P := fun start rest ws => Laid size start rest ws) ?_ ?_ start rest
  · intro start rest hlast
    constructor
    case first => rfl
    case chain => exact List.isChain_singleton _
    case last =>
      rintro w ⟨⟩
      exact stop_last hlast
    case spans => exact fun w hw => absurd hw List.not_mem_nil
  · intro start rest step ws hmore hstep ih
    obtain ⟨later, rfl⟩ := List.head?_eq_some_iff.mp ih.first
    have hsum := byteLength_dropBytes step rest
    constructor
    case first => rfl
    case chain => exact List.isChain_cons_cons.mpr ⟨follows_next hlt hmore hstep, ih.chain⟩
    case last =>
      intro w hw
      rw [List.getLast?_cons_cons] at hw
      have hstop := ih.last w hw
      omega
    case spans =>
      intro w hw
      rw [List.dropLast_cons_of_ne_nil (List.cons_ne_nil _ _)] at hw
      rcases List.mem_cons.mp hw with rfl | hw
      · obtain ⟨hsize, hthree, -⟩ := bytes_front hmore
        rw [start_front, stop_front]
        omega
      · exact ih.spans w hw

/-- Where a window is not the last one, there is text behind the start of the next. -/
theorem dropBytes_ne_nil (hlt : overlap < size)
    (h : (front size start rest).length ≠ rest.length) :
    dropBytes ((front size start rest).stride overlap) rest ≠ [] := by
  obtain ⟨-, -, hshort⟩ := bytes_front h
  obtain ⟨-, hnear⟩ := bytes_stride hlt h
  have hsum := byteLength_dropBytes ((front size start rest).stride overlap) rest
  intro hnil
  rw [hnil, byteLength_nil] at hsum
  omega

/-- The front window over a text that is not empty has a byte at least. -/
theorem lt_stop_front (hlt : overlap < size) (hne : rest ≠ []) (start : Nat) :
    (front size start rest).start < (front size start rest).stop := by
  have hbytes := min_le_byteLength_takeBytes size rest
  have hpos := byteLength_pos hne
  rw [start_front, stop_front]
  omega

/-- No window is empty. -/
theorem lt_stop_of_mem_slide (hlt : overlap < size) (hne : rest ≠ []) {w : Window}
    (hw : w ∈ slide size overlap start rest []) : w.start < w.stop := by
  revert hne hw
  refine slide_induction (P := fun _ rest ws => rest ≠ [] → w ∈ ws → w.start < w.stop) ?_ ?_
    start rest
  · intro start rest _ hne hw
    rw [List.mem_singleton.mp hw]
    exact lt_stop_front hlt hne start
  · intro start rest step ws hmore hstep ih hne hw
    rcases List.mem_cons.mp hw with rfl | hw
    · exact lt_stop_front hlt hne start
    · exact ih (hstep ▸ dropBytes_ne_nil hlt hmore) hw

/-- A stretch of a text that has no more bytes than two windows share lies in a window. -/
theorem slide_holds (hlt : overlap < size) {front whole : List Char} (hfront : front <+: whole)
    (hwhole : whole <+: rest) (hlen : byteLength whole ≤ byteLength front + overlap) :
    ∃ w ∈ slide size overlap start rest [],
      w.start ≤ start + byteLength front ∧ start + byteLength whole ≤ w.stop := by
  refine slide_induction (P := fun start rest ws => ∀ front whole : List Char, front <+: whole →
    whole <+: rest → byteLength whole ≤ byteLength front + overlap →
    ∃ w ∈ ws, w.start ≤ start + byteLength front ∧ start + byteLength whole ≤ w.stop) ?_ ?_
    start rest front whole hfront hwhole hlen
  · intro start rest hlast front whole hfront hwhole _
    refine ⟨_, List.mem_singleton_self _, Nat.le_add_right _ _, ?_⟩
    rw [stop_last hlast]
    exact Nat.add_le_add_left (byteLength_le_of_isPrefix hwhole) start
  · intro start rest step ws hmore hstep ih front whole hfront hwhole hlen
    by_cases hin : byteLength whole ≤ byteLength (takeBytes size rest)
    · exact ⟨_, List.mem_cons_self, Nat.le_add_right _ _, Nat.add_le_add_left hin start⟩
    · -- The stretch ends behind the window, so it begins behind the start of the next one.
      have hfar : step ≤ byteLength front := by
        obtain ⟨hsize, -, -⟩ := bytes_front hmore
        rw [hstep, stride, chars_front]
        omega
      obtain ⟨front', rfl⟩ := takeBytes_isPrefix (hfront.trans hwhole) hfar
      obtain ⟨whole', rfl⟩ := (List.prefix_append _ front').trans hfront
      rw [List.prefix_append_right_inj] at hfront
      have hrest : whole' <+: dropBytes step rest := by
        rw [← List.prefix_append_right_inj (takeBytes step rest), takeBytes_append_dropBytes]
        exact hwhole
      rw [byteLength_append, byteLength_append] at hlen
      obtain ⟨w, hw, hstart, hstop⟩ := ih front' whole' hfront hrest (by omega)
      refine ⟨w, List.mem_cons_of_mem _ hw, ?_, ?_⟩
      · rw [byteLength_append]
        omega
      · rw [byteLength_append]
        omega

/-- How windows lie over a whole text. -/
structure Layout (size overlap : Nat) (text : List Char) (ws : List Window) : Prop where
  /-- The first window starts with the text. -/
  first : ∃ w, ws.head? = some w ∧ w.start = 0
  /-- The last one ends with it. -/
  last : ∃ w, ws.getLast? = some w ∧ w.stop = byteLength text
  /-- A window is what stands in the text from its start to its end. -/
  cut : ∀ w ∈ ws, ∃ before after, text = before ++ w.chars ++ after ∧
    byteLength before = w.start ∧ byteLength (before ++ w.chars) = w.stop
  /-- It is not empty, and it starts and ends at boundaries. -/
  whole : ∀ w ∈ ws, w.start < w.stop ∧ IsBoundary text w.start ∧ IsBoundary text w.stop
  /-- Each window starts behind the starts of those before. -/
  starts : (ws.map (·.start)).Pairwise (· < ·)
  /-- It ends behind their ends. -/
  stops : (ws.map (·.stop)).Pairwise (· < ·)
  /-- There is no gap. -/
  joined : ws.IsChain fun v w => w.start ≤ v.stop
  /-- Each window but the last has the wanted bytes, and three more at most. -/
  spans : ∀ w ∈ ws.dropLast, w.start + size ≤ w.stop ∧ w.stop ≤ w.start + size + 3
  /-- A stretch of whole characters lies in a window, if it is no longer than the overlap. -/
  holds : ∀ start stop, IsBoundary text start → IsBoundary text stop → start ≤ stop →
    stop ≤ start + overlap → ∃ w ∈ ws, w.start ≤ start ∧ stop ≤ w.stop

/-- A window over a text is what stands there from its start to its end. -/
theorem cut_of_mem_cover {w : Window} (h : w ∈ cover size overlap text) :
    ∃ before after, text = before ++ w.chars ++ after ∧ byteLength before = w.start ∧
      byteLength (before ++ w.chars) = w.stop := by
  obtain ⟨before, htext, hstart⟩ := rest_of_mem_cover h
  obtain ⟨after, hafter⟩ := w.chars_isPrefix
  refine ⟨before, after, ?_, hstart, ?_⟩
  · rw [htext, List.append_assoc, hafter]
  · rw [byteLength_append, hstart, stop]

theorem cover_eq_slide (hne : text ≠ []) :
    cover size overlap text = slide size overlap 0 text [] := by
  rw [cover, List.isEmpty_eq_false_iff.mpr hne, if_neg Bool.false_ne_true]

/-- The windows over a text that is not empty lie over the whole of it. -/
theorem layout_cover (hlt : overlap < size) (hne : text ≠ []) :
    Layout size overlap text (cover size overlap text) := by
  have hlaid := laid_slide hlt 0 text
  rw [← cover_eq_slide hne] at hlaid
  obtain ⟨later, hcover⟩ := List.head?_eq_some_iff.mp hlaid.first
  constructor
  case first => exact ⟨_, hlaid.first, rfl⟩
  case last =>
    obtain ⟨w, hw⟩ := Option.isSome_iff_exists.mp (List.getLast?_isSome.mpr
      (hcover ▸ List.cons_ne_nil _ later))
    have hstop := hlaid.last w hw
    rw [Nat.zero_add] at hstop
    exact ⟨w, hw, hstop⟩
  case cut => exact fun w hw => cut_of_mem_cover hw
  case whole =>
    intro w hw
    obtain ⟨before, after, htext, hstart, hstop⟩ := cut_of_mem_cover hw
    refine ⟨?_, ⟨before, ?_, hstart⟩, ⟨before ++ w.chars, ?_, hstop⟩⟩
    · rw [cover_eq_slide hne] at hw
      exact lt_stop_of_mem_slide hlt hne hw
    · rw [htext, List.append_assoc]
      exact List.prefix_append _ _
    · rw [htext]
      exact List.prefix_append _ _
  case starts =>
    refine List.isChain_iff_pairwise.mp ((List.isChain_map _).mpr ?_)
    exact hlaid.chain.imp fun _ _ h => h.start
  case stops =>
    refine List.isChain_iff_pairwise.mp ((List.isChain_map _).mpr ?_)
    exact hlaid.chain.imp fun _ _ h => h.stop
  case joined => exact hlaid.chain.imp fun _ _ h => h.joined
  case spans => exact hlaid.spans
  case holds =>
    rintro _ _ ⟨front, hfront, rfl⟩ ⟨whole, hwhole, rfl⟩ hle hlen
    have hinner : front <+: whole := isPrefix_of_byteLength_le hfront hwhole hle
    have hholds : ∃ w ∈ slide size overlap 0 text [],
        w.start ≤ 0 + byteLength front ∧ 0 + byteLength whole ≤ w.stop :=
      slide_holds hlt hinner hwhole hlen
    rw [Nat.zero_add, Nat.zero_add] at hholds
    rw [cover_eq_slide hne]
    exact hholds

end Window

end Scan

end BuildTriage
