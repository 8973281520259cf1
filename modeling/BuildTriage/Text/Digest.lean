/-!
# The SHA-1 digest

The digest of a text is that of its UTF-8 bytes: the message is padded to whole
blocks of sixteen words, each block is folded into five words of state, and the
state is written in forty hexadecimal digits. All word arithmetic is modulo 2 to
the 32.
-/

namespace BuildTriage.Text.Digest

/-- A word with its bits turned left. -/
def rotate (w : UInt32) (by_ : UInt32) : UInt32 := (w <<< by_) ||| (w >>> (32 - by_))

/-- The five words that blocks are folded into. -/
structure State where
  a : UInt32
  b : UInt32
  c : UInt32
  d : UInt32
  e : UInt32
  deriving DecidableEq, Repr

/-- The state before the first block. -/
def State.start : State := ⟨0x67452301, 0xEFCDAB89, 0x98BADCFE, 0x10325476, 0xC3D2E1F0⟩

/-- The bytes of a number, the highest first. -/
def bigEndian (width n : Nat) : List UInt8 :=
  (List.range width).map fun i => UInt8.ofNat (n >>> (8 * (width - 1 - i)))

/-- The message with a one bit, zeros and its length in bits, in whole blocks. -/
def padded (bytes : List UInt8) : List UInt8 :=
  let n := bytes.length
  bytes ++ (0x80 : UInt8) :: List.replicate ((119 - n % 64) % 64) 0 ++ bigEndian 8 (8 * n)

/-- The words of a message, four bytes each. -/
def words : List UInt8 → List UInt32
  | w :: x :: y :: z :: rest =>
    (w.toUInt32 <<< 24 ||| x.toUInt32 <<< 16 ||| y.toUInt32 <<< 8 ||| z.toUInt32) :: words rest
  | _ => []

/-- Extends a schedule of sixteen words, held last first, by further words. -/
def extend : Nat → List UInt32 → List UInt32
  | 0, ws => ws
  | n + 1, ws =>
    let at_ := fun i => ws.getD (i - 1) 0
    extend n (rotate (at_ 3 ^^^ at_ 8 ^^^ at_ 14 ^^^ at_ 16) 1 :: ws)

/-- The mixing function and constant of a round. -/
def mixing (round : Nat) (s : State) : UInt32 × UInt32 :=
  if round < 20 then ((s.b &&& s.c) ||| (~~~s.b &&& s.d), 0x5A827999)
  else if round < 40 then (s.b ^^^ s.c ^^^ s.d, 0x6ED9EBA1)
  else if round < 60 then ((s.b &&& s.c) ||| (s.b &&& s.d) ||| (s.c &&& s.d), 0x8F1BBCDC)
  else (s.b ^^^ s.c ^^^ s.d, 0xCA62C1D6)

/-- One round with its word of the schedule. -/
def State.round (st : State × Nat) (w : UInt32) : State × Nat :=
  let (s, n) := st
  let (f, k) := mixing n s
  (⟨rotate s.a 5 + f + s.e + k + w, s.a, rotate s.b 30, s.c, s.d⟩, n + 1)

/-- The state after a block of sixteen words. -/
def State.block (s : State) (ws : List UInt32) : State :=
  let schedule := (extend 64 ws.reverse).reverse
  let t := (schedule.foldl State.round (s, 0)).1
  ⟨s.a + t.a, s.b + t.b, s.c + t.c, s.d + t.d, s.e + t.e⟩

/-- The state after the given number of blocks. -/
def State.blocks : Nat → State → List UInt32 → State
  | 0, s, _ => s
  | n + 1, s, ws => State.blocks n (s.block (ws.take 16)) (ws.drop 16)

/-- A word in eight hexadecimal digits. -/
def hexWord (w : UInt32) : List Char :=
  (List.range 8).map fun i => Nat.digitChar ((w.toNat >>> (4 * (7 - i))) % 16)

/-- The digest of a message in forty hexadecimal digits. -/
def ofBytes (bytes : List UInt8) : List Char :=
  let ws := words (padded bytes)
  let s := State.blocks (ws.length / 16) .start ws
  [s.a, s.b, s.c, s.d, s.e].flatMap hexWord

/-- The digest of a text. -/
def ofText (s : String) : String := String.ofList (ofBytes s.toUTF8.toList)

end BuildTriage.Text.Digest
