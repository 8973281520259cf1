import BuildTriage.Toml.Value

/-!
# Numbers and moments in TOML

A scalar that is not quoted is a word of letters, digits, signs, points and colons. It
is a truth value, a whole number of 64 bits in one of four bases, a number with a
fraction or an exponent, or a moment. A blank may stand between a date and a time.
-/

namespace BuildTriage.Toml

/-- A decimal digit's value. -/
def digit? (c : Char) : Option Nat := if c.isDigit then some (c.toNat - '0'.toNat) else none

/-- A digit's value in a base of up to sixteen. -/
def digitIn? (base : Nat) (c : Char) : Option Nat :=
  let v :=
    if c.isDigit then some (c.toNat - '0'.toNat)
    else if 'a' ≤ c ∧ c ≤ 'f' then some (c.toNat - 'a'.toNat + 10)
    else if 'A' ≤ c ∧ c ≤ 'F' then some (c.toNat - 'A'.toNat + 10)
    else none
  v.filter (· < base)

/-- The number of digits in a base, where a low line may stand between two digits. -/
def digitsIn? (base : Nat) : Nat → Bool → List Char → Option Nat
  | n, afterDigit, [] => if afterDigit then some n else none
  | n, true, '_' :: rest => digitsIn? base n false rest
  | n, _, c :: rest => do digitsIn? base (n * base + (← digitIn? base c)) true rest

/-- A whole number of 64 bits with a sign. -/
def inRange (n : Int) : Option Int :=
  if Int64.minValue.toInt ≤ n ∧ n ≤ Int64.maxValue.toInt then some n else none

/-- A decimal number that does not start with a zero, unless it is zero. -/
def plainDigits? : List Char → Option Nat
  | ['0'] => some 0
  | '0' :: _ => none
  | cs => digitsIn? 10 0 false cs

/-- A sign, if there is one, and the rest. -/
def splitSign : List Char → Int × List Char
  | '-' :: rest => (-1, rest)
  | '+' :: rest => (1, rest)
  | cs => (1, cs)

/-- A whole number. -/
def whole? : List Char → Option Int
  | '0' :: 'x' :: rest => do inRange (← digitsIn? 16 0 false rest)
  | '0' :: 'o' :: rest => do inRange (← digitsIn? 8 0 false rest)
  | '0' :: 'b' :: rest => do inRange (← digitsIn? 2 0 false rest)
  | cs => do
    let (sign, rest) := splitSign cs
    inRange (sign * (← plainDigits? rest))

/-- The exponent after its letter. -/
def exponent? (cs : List Char) : Option Int := do
  let (sign, rest) := splitSign cs
  return sign * (← digitsIn? 10 0 false rest)

/-- The text before the first of some characters, and the rest from it on. -/
def breakAt (stop : Char → Bool) (cs : List Char) : List Char × List Char :=
  (cs.takeWhile (!stop ·), cs.dropWhile (!stop ·))

/-- The least number that rounds to no finite number of 64 bits. -/
def hugeBound : Nat := 1 <<< 1024 - 1 <<< 970

/-- Whether a number with the given digits and exponent is too large to be finite. -/
def isHuge (digits : Nat) (exponent : Int) : Bool :=
  digits ≠ 0 &&
    let size := (Nat.toDigits 10 digits).length + exponent
    if size ≤ 308 then false
    else if 310 < size then true
    else if 0 ≤ exponent then hugeBound ≤ digits * Nat.pow 10 exponent.toNat
    else hugeBound * Nat.pow 10 (-exponent).toNat ≤ digits

/-- A number with a fraction or an exponent is well written, and finite if positive. -/
def isReal (cs : List Char) : Bool :=
  let (sign, rest) := splitSign cs
  if rest = ['i', 'n', 'f'] ∨ rest = ['n', 'a', 'n'] then true
  else
    let (front, more) := breakAt (fun c => c = '.' || c = 'e' || c = 'E') rest
    let (fraction, more) := match more with
      | '.' :: more =>
        let (digits, more) := breakAt (fun c => c = 'e' || c = 'E') more
        (some digits, more)
      | more => (none, more)
    let exponent := match more with
      | _ :: more => some more
      | [] => none
    let valid := do
      let _ ← plainDigits? front
      let after := (fraction.getD []).filter (· ≠ '_')
      if fraction.isSome then let _ ← digitsIn? 10 0 false (fraction.getD [])
      let e ← match exponent with
        | some e => exponent? e
        | none => some 0
      guard (fraction.isSome || exponent.isSome)
      let digits := (front.filter (· ≠ '_') ++ after).foldl
        (fun n c => n * 10 + (digit? c).getD 0) 0
      guard !(sign == 1 && isHuge digits (e - after.length))
    valid.isSome

/-- Two digits as a number. -/
def pair? (a b : Char) : Option Nat := do return (← digit? a) * 10 + (← digit? b)

/-- The days of a month. -/
def monthDays (year month : Nat) : Nat :=
  if month = 2 then if year % 4 = 0 ∧ (year % 100 ≠ 0 ∨ year % 400 = 0) then 29 else 28
  else if month = 4 ∨ month = 6 ∨ month = 9 ∨ month = 11 then 30
  else 31

/-- The text after a date, if it starts with one. -/
def skipDate : List Char → Option (List Char)
  | y1 :: y2 :: y3 :: y4 :: '-' :: m1 :: m2 :: '-' :: d1 :: d2 :: rest => do
    let year := (← pair? y1 y2) * 100 + (← pair? y3 y4)
    let month ← pair? m1 m2
    let day ← pair? d1 d2
    guard (1 ≤ month && month ≤ 12 && 1 ≤ day && day ≤ monthDays year month)
    return rest
  | _ => none

/-- The text after a time, if it starts with one. -/
def skipTime : List Char → Option (List Char)
  | h1 :: h2 :: ':' :: m1 :: m2 :: ':' :: s1 :: s2 :: rest => do
    guard ((← pair? h1 h2) ≤ 23 && (← pair? m1 m2) ≤ 59 && (← pair? s1 s2) ≤ 60)
    match rest with
    | '.' :: c :: more => if c.isDigit then return more.dropWhile Char.isDigit else none
    | _ => return rest
  | _ => none

/-- The whole text is an offset from universal time, or nothing. -/
def isOffset : List Char → Bool
  | [] | ['Z'] | ['z'] => true
  | [sign, h1, h2, ':', m1, m2] =>
    (sign = '+' || sign = '-') && (pair? h1 h2).any (· ≤ 23) && (pair? m1 m2).any (· ≤ 59)
  | _ => false

/-- The whole text is a time with an offset or without. -/
def isTimeOffset (cs : List Char) : Bool := (skipTime cs).any isOffset

/-- The whole text is a date, a time or both. -/
def isMoment (cs : List Char) : Bool :=
  match skipDate cs with
  | some [] => true
  | some (c :: rest) => (c = 'T' || c = 't' || c = ' ') && isTimeOffset rest
  | none => skipTime cs == some []

/-- A character of a scalar that is not quoted. -/
def isWordChar (c : Char) : Bool :=
  c.isAlphanum || c = '_' || c = '-' || c = '+' || c = '.' || c = ':'

/-- The value of a word. -/
def word? (cs : List Char) : Option Value :=
  if cs = ['t', 'r', 'u', 'e'] then some (.bool true)
  else if cs = ['f', 'a', 'l', 's', 'e'] then some (.bool false)
  else match whole? cs with
    | some n => some (.whole n)
    | none =>
      if isReal cs then some .real
      else if isMoment cs then some (.moment (String.ofList cs))
      else none

/-- Reads a scalar that is not quoted; a time after a date and a blank belongs to it. -/
def readWord (cs : List Char) : Option (Value × List Char) :=
  let (word, rest) := breakAt (!isWordChar ·) cs
  match skipDate word, rest with
  | some [], ' ' :: more =>
    let (time, rest') := breakAt (!isWordChar ·) more
    if isTimeOffset time then some (.moment (String.ofList (word ++ ' ' :: time)), rest')
    else (word? word).map (·, rest)
  | _, _ => (word? word).map (·, rest)

end BuildTriage.Toml
