import BuildTriage.Json.Value
import BuildTriage.Text.Bytes

/-!
# Reading the written form

A text is read into a document: a value in which every damaged place keeps the
fault that a reader meets there. A reader of a record walks the document in
written order, so a value of the wrong kind is reported before damage that comes
later in the text, and damage before it is reported first. A place may be read
in two ways: used, when its content matters, and skipped, when a member is not
known; a skipped text may name half a surrogate pair, a used one may not.
-/

namespace BuildTriage.Json

/-- Why a text does not read: it is not of the format, it is of the format but of
another shape, or it ends early. -/
inductive Fault where
  | malformed
  | mismatch
  | truncated
  deriving DecidableEq, Repr, Inhabited

/-- How a list or record ends in the text. -/
inductive Ending where
  /-- By its closing bracket. -/
  | closed
  /-- By damage, after a comma or not; the fault differs when the torn place is a
  used or a skipped name. -/
  | torn (afterComma : Bool) (used skipped : Fault)
  deriving DecidableEq, Repr, Inhabited

/-- A value as found in a text, with the damage in it. -/
inductive Doc where
  | null
  | bool (b : Bool)
  /-- A numeral, or the fault of using one that is out of every range. -/
  | number (n : Except Fault Numeral)
  /-- A quoted text, or the fault of using one with half a surrogate pair. -/
  | text (s : Except Fault String)
  | list (items : List Doc) (ending : Ending)
  | record (members : List (Except Fault String × Doc)) (ending : Ending)
  /-- Nothing that could be read. -/
  | broken (used skipped : Fault)
  deriving Inhabited

/-- The blanks of the format. -/
def isBlank (c : Char) : Bool := c = ' ' || c = '\n' || c = '\t' || c = '\r'

/-- The text after its leading blanks. -/
def skipBlank (cs : List Char) : List Char := cs.dropWhile isBlank

/-- The value of a hexadecimal digit of either case. -/
def hexValue? (c : Char) : Option Nat :=
  if '0' ≤ c ∧ c ≤ '9' then some (c.toNat - '0'.toNat)
  else if 'a' ≤ c ∧ c ≤ 'f' then some (c.toNat - 'a'.toNat + 10)
  else if 'A' ≤ c ∧ c ≤ 'F' then some (c.toNat - 'A'.toNat + 10)
  else none

/-- Four hexadecimal digits; fewer than four bytes before the end are an early end,
whatever they are. -/
def readUnit (cs : List Char) : Except Fault (Nat × List Char) :=
  if Text.byteLength (cs.take 4) < 4 then .error .truncated
  else match cs with
    | a :: b :: c :: d :: rest =>
      match hexValue? a, hexValue? b, hexValue? c, hexValue? d with
      | some a, some b, some c, some d => .ok (((a * 16 + b) * 16 + c) * 16 + d, rest)
      | _, _, _, _ => .error .malformed
    | _ => .error .malformed

/-- What stands after a backslash. -/
inductive Escaped where
  /-- A character, and the text after it. -/
  | char (c : Char) (rest : List Char)
  /-- A fault for a reader that uses the text; one that skips it goes on. -/
  | unpaired (fault : Fault) (rest : List Char)
  /-- A fault for every reader. -/
  | fault (f : Fault)
  deriving Inhabited

/-- A code unit of sixteen bits and, for the first half of a pair, its second half. -/
def readPair (unit : Nat) (rest : List Char) : Escaped :=
  if 0xDC00 ≤ unit ∧ unit ≤ 0xDFFF then .unpaired .malformed rest
  else if unit < 0xD800 ∨ 0xDBFF < unit then .char (Char.ofNat unit) rest
  else match rest with
    | [] => .unpaired .truncated rest
    | '\\' :: [] => .unpaired .truncated rest
    | '\\' :: 'u' :: more =>
      match readUnit more with
      | .error f => .unpaired f rest
      | .ok (second, after) =>
        if 0xDC00 ≤ second ∧ second ≤ 0xDFFF then
          .char (Char.ofNat ((unit - 0xD800) * 0x400 + (second - 0xDC00) + 0x10000)) after
        else .unpaired .malformed rest
    | _ => .unpaired .malformed rest

/-- The character that is named after a backslash. -/
def readEscape : List Char → Escaped
  | [] => .fault .truncated
  | '"' :: rest => .char '"' rest
  | '\\' :: rest => .char '\\' rest
  | '/' :: rest => .char '/' rest
  | 'b' :: rest => .char (Char.ofNat 0x08) rest
  | 'f' :: rest => .char (Char.ofNat 0x0c) rest
  | 'n' :: rest => .char '\n' rest
  | 'r' :: rest => .char '\r' rest
  | 't' :: rest => .char '\t' rest
  | 'u' :: rest =>
    match readUnit rest with
    | .error f => .fault f
    | .ok (unit, rest) => readPair unit rest
  | _ :: _ => .fault .malformed

/-- A quoted text, read for use and read to be skipped. -/
structure Quoted where
  /-- The text, for a reader that uses it. -/
  content : Except Fault String
  /-- The text after the closing quote, for a reader that skips it. -/
  rest : Except Fault (List Char)
  deriving Inhabited

/-- Reads up to the closing quote; `done` holds the characters so far, last first,
and `spoiled` the first fault that only a reader who uses the text meets. -/
def readQuoted : Nat → List Char → List Char → Option Fault → Quoted
  | 0, _, _, _ => ⟨.error .truncated, .error .truncated⟩
  | _ + 1, [], _, spoiled => ⟨.error (spoiled.getD .truncated), .error .truncated⟩
  | fuel + 1, c :: rest, done, spoiled =>
    if c = '"' then
      ⟨match spoiled with
        | none => .ok (String.ofList done.reverse)
        | some f => .error f, .ok rest⟩
    else if c = '\\' then
      match readEscape rest with
      | .char c rest => readQuoted fuel rest (c :: done) spoiled
      | .unpaired f rest => readQuoted fuel rest done (some (spoiled.getD f))
      | .fault f => ⟨.error (spoiled.getD f), .error f⟩
    else if c.toNat < 0x20 then ⟨.error (spoiled.getD .malformed), .error .malformed⟩
    else readQuoted fuel rest (c :: done) spoiled

/-- A quoted text whose opening quote has been read. -/
def quoted (cs : List Char) : Quoted := readQuoted (cs.length + 1) cs [] none

/-- The leading run of decimal digits and the text after it. -/
def digits (cs : List Char) : List Char × List Char :=
  (cs.takeWhile Char.isDigit, cs.dropWhile Char.isDigit)

/-- The number that a run of decimal digits writes. -/
def natOfDigits (ds : List Char) : Nat :=
  ds.foldl (fun n c => n * 10 + (c.toNat - '0'.toNat)) 0

/-- The largest unsigned number of 64 bits. -/
def maxWord : Nat := UInt64.size - 1

/-- A whole number to 53 significant bits, a tie going to the even neighbour. -/
def roundedTo53Bits (n : Nat) : Nat :=
  if n < 1 <<< 53 then n
  else
    let shift := n.log2 - 52
    let quotient := n >>> shift
    let remainder := n - quotient <<< shift
    let half := 1 <<< (shift - 1)
    let up := if remainder > half ∨ (remainder = half ∧ quotient % 2 = 1) then 1 else 0
    (quotient + up) <<< shift

/-- The leading digits of a numeral that fit 64 bits, and the power of ten to
multiply them by. -/
def significant (whole fraction : List Char) : Nat × Int :=
  let step := fun (st : Nat × Nat × Bool) (c : Char) =>
    let (n, extra, full) := st
    let next := n * 10 + (c.toNat - '0'.toNat)
    if full || next > maxWord then (n, extra + 1, true) else (next, extra, false)
  let (n, extra, _) := whole.foldl step (0, 0, false)
  let stepDown := fun (st : Nat × Int × Bool) (c : Char) =>
    let (n, e, full) := st
    let next := n * 10 + (c.toNat - '0'.toNat)
    if full || next > maxWord then (n, e, true) else (next, e - 1, false)
  let (n, e, _) := fraction.foldl stepDown (n, (extra : Int), false)
  (n, e)

/-- Whether `n` times a power of ten is beyond the largest number of double
precision. -/
def overflowsDouble (n : Nat) (power : Int) : Bool :=
  n ≠ 0 && power ≥ 0 &&
    (power > 308 ||
      roundedTo53Bits n * roundedTo53Bits (Nat.pow 10 power.toNat) ≥ 1 <<< 1024 - 1 <<< 970)

/-- The exponent that follows an `e`: its value and the text after it. -/
def readExponent : List Char → Except Fault (Int × List Char)
  | '+' :: rest => magnitude false rest
  | '-' :: rest => magnitude true rest
  | rest => magnitude false rest
where
  /-- The digits of an exponent. -/
  magnitude (negative : Bool) (cs : List Char) : Except Fault (Int × List Char) :=
    match digits cs with
    | ([], []) => .error .truncated
    | ([], _ :: _) => .error .malformed
    | (ds, rest) =>
      let n : Int := natOfDigits ds
      .ok (if negative then -n else n, rest)

/-- The fraction after a point, which has a digit at least. -/
def readFraction (cs : List Char) : Except Fault (List Char × List Char) :=
  match digits cs with
  | ([], []) => .error .truncated
  | ([], _ :: _) => .error .malformed
  | (ds, rest) => .ok (ds, rest)

/-- A numeral without its sign: the whole part has no leading zero. -/
def readWhole : List Char → Except Fault (List Char × List Char)
  | [] => .error .truncated
  | '0' :: rest =>
    match rest with
    | c :: _ => if c.isDigit then .error .malformed else .ok (['0'], rest)
    | [] => .ok (['0'], rest)
  | c :: rest => if c.isDigit then .ok (digits (c :: rest)) else .error .malformed

/-- A numeral and the text after it. The inner fault is met by a reader that uses
the number. -/
def readNumber (cs : List Char) : Except Fault (Except Fault Numeral × List Char) := do
  let (negative, body) := match cs with
    | '-' :: rest => (true, rest)
    | _ => (false, cs)
  let (whole, afterWhole) ← readWhole body
  let (fraction, afterFraction) ← match afterWhole with
    | '.' :: rest => readFraction rest
    | _ => pure ([], afterWhole)
  let (exponent, rest) ← match afterFraction with
    | 'e' :: rest => (readExponent rest).map fun (e, r) => (some e, r)
    | 'E' :: rest => (readExponent rest).map fun (e, r) => (some e, r)
    | _ => pure (none, afterFraction)
  let n := natOfDigits whole
  if !negative && fraction.isEmpty && exponent.isNone && n ≤ maxWord then
    return (.ok (.unsigned n), rest)
  let (m, power) := significant whole fraction
  if overflowsDouble m (power + exponent.getD 0) then return (.error .malformed, rest)
  return (.ok (.spelled (String.ofList (cs.take (cs.length - rest.length)))), rest)

/-- The rest of the text after the letters of a fixed word. -/
def readLetters : List Char → List Char → Except Fault (List Char)
  | [], rest => .ok rest
  | _ :: _, [] => .error .truncated
  | c :: cs, d :: rest => if c = d then readLetters cs rest else .error .malformed

/-- A value that is spelled by fixed letters, whose first has been read. -/
def readFixed (doc : Doc) (letters rest : List Char) : Doc × Option (List Char) :=
  match readLetters letters rest with
  | .ok rest => (doc, some rest)
  | .error f => (.broken f f, none)

mutual

/-- A value and, when it is whole, the text after it. -/
def readValue : Nat → List Char → Doc × Option (List Char)
  | 0, _ => (.broken .truncated .truncated, none)
  | fuel + 1, cs =>
    match skipBlank cs with
    | [] => (.broken .truncated .truncated, none)
    | 'n' :: rest => readFixed .null ['u', 'l', 'l'] rest
    | 't' :: rest => readFixed (.bool true) ['r', 'u', 'e'] rest
    | 'f' :: rest => readFixed (.bool false) ['a', 'l', 's', 'e'] rest
    | '"' :: rest =>
      match quoted rest with
      | ⟨content, .ok rest⟩ => (.text content, some rest)
      | ⟨.ok _, .error f⟩ => (.broken f f, none)
      | ⟨.error used, .error skipped⟩ => (.broken used skipped, none)
    | '[' :: rest =>
      match readItems fuel true rest with
      | (items, ending, rest) => (.list items ending, rest)
    | '{' :: rest =>
      match readMembers fuel true rest with
      | (members, ending, rest) => (.record members ending, rest)
    | c :: rest =>
      if c = '-' || c.isDigit then
        match readNumber (c :: rest) with
        | .ok (n, rest) => (.number n, some rest)
        | .error f => (.broken f .malformed, none)
      else (.broken .malformed .malformed, none)

/-- The items of a list whose bracket has been read, how it ends, and the text
after it when it is closed. -/
def readItems : Nat → Bool → List Char → List Doc × Ending × Option (List Char)
  | 0, _, _ => ([], .torn false .truncated .truncated, none)
  | fuel + 1, first, cs =>
    match skipBlank cs with
    | [] => ([], .torn false .truncated .truncated, none)
    | ']' :: rest => ([], .closed, some rest)
    | ',' :: rest =>
      if first then oneItem fuel (',' :: rest)
      else match skipBlank rest with
        | [] => ([], .torn true .truncated .truncated, none)
        | ']' :: _ => ([], .torn true .malformed .malformed, none)
        | rest => oneItem fuel rest
    | rest =>
      if first then oneItem fuel rest
      else ([], .torn false .malformed .malformed, none)

/-- One item and those after it. -/
def oneItem : Nat → List Char → List Doc × Ending × Option (List Char)
  | 0, _ => ([], .torn false .truncated .truncated, none)
  | fuel + 1, cs =>
    match readValue fuel cs with
    | (doc, none) => ([doc], .torn false .truncated .truncated, none)
    | (doc, some rest) =>
      match readItems fuel false rest with
      | (items, ending, rest) => (doc :: items, ending, rest)

/-- The members of a record whose bracket has been read, how it ends, and the text
after it when it is closed. -/
def readMembers :
    Nat → Bool → List Char → List (Except Fault String × Doc) × Ending × Option (List Char)
  | 0, _, _ => ([], .torn false .truncated .truncated, none)
  | fuel + 1, first, cs =>
    match skipBlank cs with
    | [] => ([], .torn false .truncated .truncated, none)
    | '}' :: rest => ([], .closed, some rest)
    | '"' :: rest =>
      if first then oneMember fuel rest
      else ([], .torn false .malformed .malformed, none)
    | ',' :: rest =>
      if first then ([], .torn false .malformed .malformed, none)
      else match skipBlank rest with
        | [] => ([], .torn true .truncated .truncated, none)
        | '"' :: rest => oneMember fuel rest
        | _ => ([], .torn true .malformed .malformed, none)
    | _ => ([], .torn false .malformed .malformed, none)

/-- One member, whose name has its opening quote read, and those after it. -/
def oneMember :
    Nat → List Char → List (Except Fault String × Doc) × Ending × Option (List Char)
  | 0, _ => ([], .torn false .truncated .truncated, none)
  | fuel + 1, cs =>
    match quoted cs with
    | ⟨.ok _, .error f⟩ => ([], .torn true f f, none)
    | ⟨.error used, .error skipped⟩ => ([], .torn true used skipped, none)
    | ⟨name, .ok rest⟩ =>
      match skipBlank rest with
      | ':' :: rest =>
        match readValue fuel rest with
        | (doc, none) => ([(name, doc)], .torn false .truncated .truncated, none)
        | (doc, some rest) =>
          match readMembers fuel false rest with
          | (members, ending, rest) => ((name, doc) :: members, ending, rest)
      | [] => ([(name, .broken .truncated .truncated)], .torn false .truncated .truncated, none)
      | _ :: _ => ([(name, .broken .malformed .malformed)], .torn false .malformed .malformed, none)

end

/-- The document at the start of a text and, when it is whole, the text after it. -/
def Doc.read (cs : List Char) : Doc × Option (List Char) := readValue (3 * cs.length + 3) cs

/-- The fault of a torn ending. -/
def Ending.skipFault : Ending → Option Fault
  | .closed => none
  | .torn _ _ skipped => some skipped

mutual

/-- The first fault that a reader who skips a document meets. -/
def Doc.skipFault : Doc → Option Fault
  | .list items ending => (Doc.skipFaults items).or (Ending.skipFault ending)
  | .record members ending => (Doc.skipMemberFaults members).or (Ending.skipFault ending)
  | .broken _ skipped => some skipped
  | _ => none

/-- The first fault of skipping a list of documents. -/
def Doc.skipFaults : List Doc → Option Fault
  | [] => none
  | d :: rest => d.skipFault.or (Doc.skipFaults rest)

/-- The first fault of skipping the members of a record. -/
def Doc.skipMemberFaults : List (Except Fault String × Doc) → Option Fault
  | [] => none
  | (_, d) :: rest => d.skipFault.or (Doc.skipMemberFaults rest)

end

mutual

/-- The document of an undamaged value. -/
def Value.doc : Value → Doc
  | .null => .null
  | .bool b => .bool b
  | .number n => .number (.ok n)
  | .text s => .text (.ok s)
  | .list items => .list (Value.itemDocs items) .closed
  | .record members => .record (Value.memberDocs members) .closed

/-- The documents of undamaged items. -/
def Value.itemDocs : List Value → List Doc
  | [] => []
  | v :: rest => v.doc :: Value.itemDocs rest

/-- The documents of undamaged members. -/
def Value.memberDocs : List (String × Value) → List (Except Fault String × Doc)
  | [] => []
  | (k, v) :: rest => (.ok k, v.doc) :: Value.memberDocs rest

end

mutual

/-- The value of a document without damage. -/
def Doc.value : Doc → Except Fault Value
  | .null => .ok .null
  | .bool b => .ok (.bool b)
  | .number n => n.map .number
  | .text s => s.map .text
  | .list items ending => do
    let items ← Doc.itemValues items
    match ending with
    | .closed => .ok (.list items)
    | .torn _ used _ => .error used
  | .record members ending => do
    let members ← Doc.memberValues members
    match ending with
    | .closed => .ok (.record members)
    | .torn _ used _ => .error used
  | .broken used _ => .error used

/-- The values of documents without damage. -/
def Doc.itemValues : List Doc → Except Fault (List Value)
  | [] => .ok []
  | d :: rest => do
    let v ← d.value
    let vs ← Doc.itemValues rest
    .ok (v :: vs)

/-- The members of a record without damage. -/
def Doc.memberValues : List (Except Fault String × Doc) → Except Fault (List (String × Value))
  | [] => .ok []
  | (k, d) :: rest => do
    let k ← k
    let v ← d.value
    let vs ← Doc.memberValues rest
    .ok ((k, v) :: vs)

end

/-- The value that a whole text writes, with blanks around it or none. -/
def Value.read (s : String) : Except Fault Value := do
  let (doc, rest) := Doc.read s.toList
  let v ← doc.value
  match rest with
  | some rest => if (skipBlank rest).isEmpty then .ok v else .error .malformed
  | none => .error .truncated

end BuildTriage.Json
