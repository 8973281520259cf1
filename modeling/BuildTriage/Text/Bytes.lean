/-!
# Byte offsets into text

A place in a text is named by the number of bytes before it, where a character
counts as many bytes as its encoding in UTF-8 takes. An offset that falls inside a
character is pushed forward to the character's end. Laws: a text cut at an offset
is the text again, and the first part has as many bytes as the offset asks for, or
at most three more, or is the whole text.
-/

namespace BuildTriage.Text

/-- The number of bytes of a text. -/
def byteLength (cs : List Char) : Nat := cs.foldl (fun n c => n + c.utf8Size) 0

/-- How many characters, beyond the `k` counted so far, it takes to have `n` bytes. -/
def countBytes : Nat → List Char → Nat → Nat
  | _, [], k => k
  | n, c :: cs, k => if n = 0 then k else countBytes (n - c.utf8Size) cs (k + 1)

/-- The shortest beginning of a text that has at least `n` bytes, or all of it. -/
def takeBytes (n : Nat) (cs : List Char) : List Char := cs.take (countBytes n cs 0)

/-- What is left of a text after that beginning. -/
def dropBytes (n : Nat) (cs : List Char) : List Char := cs.drop (countBytes n cs 0)

/-- The part of a text from one offset to another. -/
def sliceBytes (start stop : Nat) (cs : List Char) : List Char :=
  takeBytes (stop - start) (dropBytes start cs)

@[simp] theorem takeBytes_append_dropBytes (n : Nat) (cs : List Char) :
    takeBytes n cs ++ dropBytes n cs = cs := List.take_append_drop ..

theorem foldl_utf8Size (cs : List Char) (n : Nat) :
    cs.foldl (fun n c => n + c.utf8Size) n = n + byteLength cs := by
  unfold byteLength
  induction cs generalizing n with
  | nil => rfl
  | cons c cs ih => simp only [List.foldl_cons]; rw [ih, ih (0 + c.utf8Size)]; omega

@[simp] theorem byteLength_nil : byteLength [] = 0 := rfl

@[simp] theorem byteLength_cons (c : Char) (cs : List Char) :
    byteLength (c :: cs) = c.utf8Size + byteLength cs := by
  show cs.foldl _ (0 + c.utf8Size) = _
  rw [foldl_utf8Size]; omega

@[simp] theorem byteLength_append (a b : List Char) :
    byteLength (a ++ b) = byteLength a + byteLength b := by
  induction a with
  | nil => simp
  | cons c a ih => simp [ih]; omega

theorem countBytes_add (n : Nat) (cs : List Char) (k : Nat) :
    countBytes n cs k = countBytes n cs 0 + k := by
  induction cs generalizing n k with
  | nil => simp [countBytes]
  | cons c cs ih =>
    simp only [countBytes]
    split
    · simp
    · rw [ih _ (k + 1), ih _ (0 + 1)]; omega

theorem countBytes_pos {n : Nat} {cs : List Char} (hn : 0 < n) (hc : cs ≠ []) :
    0 < countBytes n cs 0 := by
  cases cs with
  | nil => exact absurd rfl hc
  | cons c cs =>
    have : n ≠ 0 := by omega
    simp only [countBytes, this, if_false]
    rw [countBytes_add]; omega

@[simp] theorem dropBytes_nil (n : Nat) : dropBytes n [] = [] := by simp [dropBytes]

/-- Something is cut off a text that is not empty. -/
theorem length_dropBytes_lt {n : Nat} {cs : List Char} (hn : 0 < n) (hc : cs ≠ []) :
    (dropBytes n cs).length < cs.length := by
  have := countBytes_pos hn hc
  have : 0 < cs.length := List.length_pos_iff.2 hc
  simp only [dropBytes, List.length_drop]
  omega

/-- A beginning has the bytes asked for, unless the text has fewer. -/
theorem le_byteLength_takeBytes (n : Nat) (cs : List Char) (h : n ≤ byteLength cs) :
    n ≤ byteLength (takeBytes n cs) := by
  induction cs generalizing n with
  | nil => simp at h; omega
  | cons c cs ih =>
    by_cases hn : n = 0
    · omega
    · simp only [takeBytes, countBytes, hn, if_false]
      rw [countBytes_add, List.take_succ_cons, byteLength_cons]
      have := ih (n - c.utf8Size) (by simp at h; omega)
      simp only [takeBytes] at this
      omega

/-- A beginning is at most three bytes longer than asked for. -/
theorem byteLength_takeBytes_le (n : Nat) (cs : List Char) :
    byteLength (takeBytes n cs) ≤ n + 3 := by
  induction cs generalizing n with
  | nil => simp [takeBytes]
  | cons c cs ih =>
    by_cases hn : n = 0
    · simp [takeBytes, countBytes, hn]
    · simp only [takeBytes, countBytes, hn, if_false]
      rw [countBytes_add, List.take_succ_cons, byteLength_cons]
      have hs := c.utf8Size_le_four
      by_cases hle : c.utf8Size ≤ n
      · have := ih (n - c.utf8Size)
        simp only [takeBytes] at this
        omega
      · have : n - c.utf8Size = 0 := by omega
        rw [this]
        have hz : byteLength (List.take (countBytes 0 cs 0) cs) = 0 := by
          cases cs <;> simp [countBytes]
        omega

end BuildTriage.Text
