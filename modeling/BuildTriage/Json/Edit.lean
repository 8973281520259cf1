import BuildTriage.Json.Loose

/-!
# Editing a record in place

A stored record can be changed in one member without being read as a typed value: the
first member of that name is replaced, or one is added at the end, and all else keeps its
spelling. A value that is no record has no members and stays as it is.
-/

namespace BuildTriage.Json

/-- The text of a spelling, unless it names half a surrogate pair. -/
def textOfSpelling? (spelling : List Char) : Option String :=
  (quoted (spelling ++ ['"'])).content.toOption

/-- The members with one replaced or added. -/
def Node.setIn (name : String) (v : Node) : List (List Char × Node) → List (List Char × Node)
  | [] => [(escape name.toList, v)]
  | (k, w) :: rest =>
    if textOfSpelling? k = some name then (k, v) :: rest else (k, w) :: Node.setIn name v rest

/-- A record with one member replaced or added. -/
def Node.setMember (record : Node) (name : String) (v : Node) : Node :=
  match record with
  | .record members => .record (Node.setIn name v members)
  | other => other

/-- The first member of that name, when the value is a record that has one. -/
def Node.firstMember? (record : Node) (name : String) : Option Node :=
  match record with
  | .record members => (members.find? fun m => textOfSpelling? m.1 = some name).map (·.2)
  | _ => none

/-- A record whose members are replaced by those of another one, and joined by its others;
nothing changes where the other one is nothing, and anything else takes its place. -/
def Value.overlay (base top : Value) : Value :=
  match base, top with
  | .record ms, .record ns => .record (ms.filter (fun m => !ns.any (·.1 == m.1)) ++ ns)
  | _, .null => base
  | _, _ => top

/-- The value of a signed number of 64 bits. -/
def Value.signed (n : Int64) : Value :=
  if 0 ≤ n.toInt then .nat n.toInt.toNat else .number (.spelled (toString n.toInt))

/-- A numeral as a whole number times a power of ten. -/
structure Scaled where
  /-- The whole number. -/
  digits : Int
  /-- The power of ten. -/
  exponent : Int
  deriving DecidableEq, Repr

/-- The number that some decimal digits stand for. -/
def decimal (cs : List Char) : Nat := cs.foldl (fun n c => n * 10 + (c.toNat - '0'.toNat)) 0

/-- The value of a numeral. -/
def Numeral.scaled : Numeral → Scaled
  | .unsigned n => ⟨n, 0⟩
  | .spelled text =>
    let (negative, cs) := match text.toList with
      | '-' :: rest => (true, rest)
      | cs => (false, cs)
    let whole := cs.takeWhile Char.isDigit
    let (fraction, rest) := match cs.dropWhile Char.isDigit with
      | '.' :: more => (more.takeWhile Char.isDigit, more.dropWhile Char.isDigit)
      | more => ([], more)
    let exponent : Int := match rest with
      | _ :: '-' :: more => -(decimal more : Int)
      | _ :: '+' :: more => decimal more
      | _ :: more => decimal more
      | [] => 0
    let digits : Int := decimal (whole ++ fraction)
    ⟨if negative then -digits else digits, exponent - fraction.length⟩

/-- A numeral is less than a signed number of 64 bits; one with a large exponent is
decided by its sign, as no number of 64 bits has more than nineteen digits. -/
def Numeral.below (n : Numeral) (bound : Int64) : Bool :=
  let ⟨digits, exponent⟩ := n.scaled
  if digits = 0 then 0 < bound.toInt
  else if 20 ≤ exponent then digits < 0
  else if 0 ≤ exponent then digits * Nat.pow 10 exponent.toNat < bound.toInt
  else if (Nat.toDigits 10 digits.natAbs).length + exponent ≤ 0 then
    0 < bound.toInt || (bound.toInt = 0 && digits < 0)
  else digits < bound.toInt * Nat.pow 10 (-exponent).toNat

end BuildTriage.Json
