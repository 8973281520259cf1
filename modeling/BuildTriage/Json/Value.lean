/-!
# Values of the stored record format

A value is a null, a truth value, a numeral, a text, a list or a record whose
members keep the order in which they are written. It has two written forms: a
compact one without blanks, and an indented one with a member or item on each
line. Both print a text through one escaping function, so the two forms differ
in layout only.
-/

namespace BuildTriage.Json

/-- A numeral: an unsigned whole number, or any other number by its own spelling. -/
inductive Numeral where
  /-- A whole number without a sign. -/
  | unsigned (n : Nat)
  /-- A number with a sign, a fraction, an exponent or more than 64 bits, as it is spelled. -/
  | spelled (text : String)
  deriving DecidableEq, Repr, Inhabited

/-- A value of the format; the members of a record are in written order. -/
inductive Value where
  | null
  | bool (b : Bool)
  | number (n : Numeral)
  | text (s : String)
  | list (items : List Value)
  | record (members : List (String × Value))
  deriving Repr, Inhabited

/-- The value of an unsigned number. -/
def Value.nat (n : Nat) : Value := .number (.unsigned n)

/-- The value of an unsigned number of 64 bits. -/
def Value.word (n : UInt64) : Value := .nat n.toNat

/-- The list of the values of some texts. -/
def Value.texts (ss : List String) : Value := .list (ss.map .text)

/-- A null for nothing. -/
def Value.ofOption {α : Type} (f : α → Value) : Option α → Value
  | none => .null
  | some a => f a

/-- A member that is left out when there is nothing to write. -/
def optionalMember {α : Type} (name : String) (f : α → Value) : Option α → List (String × Value)
  | none => []
  | some a => [(name, f a)]

/-- The sixteen digits, in lower case. -/
def hexDigit (n : Nat) : Char := Nat.digitChar (n % 16)

/-- A character inside a quoted text: quote and backslash take a backslash, a
control character has a short or a four-digit name, and all else stands for itself. -/
def escapeChar (c : Char) : List Char :=
  if c = '"' then ['\\', '"']
  else if c = '\\' then ['\\', '\\']
  else if c.toNat < 0x20 then
    if c.toNat = 0x08 then ['\\', 'b']
    else if c.toNat = 0x09 then ['\\', 't']
    else if c.toNat = 0x0a then ['\\', 'n']
    else if c.toNat = 0x0c then ['\\', 'f']
    else if c.toNat = 0x0d then ['\\', 'r']
    else ['\\', 'u', '0', '0', hexDigit (c.toNat / 16), hexDigit c.toNat]
  else [c]

/-- The characters of a text between its quotes. -/
def escape (cs : List Char) : List Char := cs.flatMap escapeChar

/-- A text with its quotes. -/
def quote (s : String) : List Char := '"' :: escape s.toList ++ ['"']

/-- The spelling of a numeral. -/
def Numeral.spelling : Numeral → List Char
  | .unsigned n => Nat.toDigits 10 n
  | .spelled text => text.toList

mutual

/-- The compact form of a value. -/
def Value.chars : Value → List Char
  | .null => ['n', 'u', 'l', 'l']
  | .bool true => ['t', 'r', 'u', 'e']
  | .bool false => ['f', 'a', 'l', 's', 'e']
  | .number n => n.spelling
  | .text s => quote s
  | .list items => '[' :: Value.itemChars items ++ [']']
  | .record members => '{' :: Value.memberChars members ++ ['}']

/-- The items of a list, separated by commas. -/
def Value.itemChars : List Value → List Char
  | [] => []
  | [v] => v.chars
  | v :: w :: rest => v.chars ++ ',' :: Value.itemChars (w :: rest)

/-- The members of a record, separated by commas. -/
def Value.memberChars : List (String × Value) → List Char
  | [] => []
  | [(k, v)] => quote k ++ ':' :: v.chars
  | (k, v) :: m :: rest => quote k ++ ':' :: v.chars ++ ',' :: Value.memberChars (m :: rest)

end

/-- The compact text of a value. -/
def Value.compact (v : Value) : String := String.ofList v.chars

/-- A new line that starts with two blanks for every level of nesting. -/
def lineBreak (depth : Nat) : List Char := '\n' :: List.replicate (2 * depth) ' '

mutual

/-- The indented form of a value that stands `depth` levels deep; an empty list
or record stays on its line. -/
def Value.indentedChars (depth : Nat) : Value → List Char
  | .null => ['n', 'u', 'l', 'l']
  | .bool true => ['t', 'r', 'u', 'e']
  | .bool false => ['f', 'a', 'l', 's', 'e']
  | .number n => n.spelling
  | .text s => quote s
  | .list [] => ['[', ']']
  | .list (v :: rest) =>
    '[' :: Value.indentedItems (depth + 1) (v :: rest) ++ lineBreak depth ++ [']']
  | .record [] => ['{', '}']
  | .record (m :: rest) =>
    '{' :: Value.indentedMembers (depth + 1) (m :: rest) ++ lineBreak depth ++ ['}']

/-- The items of a list, each on a line of its own. -/
def Value.indentedItems (depth : Nat) : List Value → List Char
  | [] => []
  | [v] => lineBreak depth ++ v.indentedChars depth
  | v :: w :: rest =>
    lineBreak depth ++ v.indentedChars depth ++ ',' :: Value.indentedItems depth (w :: rest)

/-- The members of a record, each on a line of its own. -/
def Value.indentedMembers (depth : Nat) : List (String × Value) → List Char
  | [] => []
  | [(k, v)] => lineBreak depth ++ quote k ++ ':' :: ' ' :: v.indentedChars depth
  | (k, v) :: m :: rest =>
    lineBreak depth ++ quote k ++ ':' :: ' ' :: v.indentedChars depth ++
      ',' :: Value.indentedMembers depth (m :: rest)

end

/-- The indented text of a value. -/
def Value.indented (v : Value) : String := String.ofList (v.indentedChars 0)

/-- The last member of that name, when the value is a record that has one. -/
def Value.member? (v : Value) (name : String) : Option Value :=
  match v with
  | .record members => (members.reverse.find? (·.1 == name)).map (·.2)
  | _ => none

end BuildTriage.Json
