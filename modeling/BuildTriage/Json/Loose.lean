import BuildTriage.Json.Doc

/-!
# The loose form

The functions that tables have for texts read more than the written form. They take names
without quotes and texts in single quotes, further escapes, numbers with a plus sign, in
hexadecimal digits or with nothing on one side of the point, words for what is no number,
comments, further blanks, and a comma before a closing bracket. A text keeps the spelling
it has between its quotes; what the written form does not have is put into that form. Up
to a thousand lists and records may stand in one another.
-/

namespace BuildTriage.Json

/-- A value as it is found in a text; its texts are spelled as they are between quotes. -/
inductive Node where
  | null
  | bool (b : Bool)
  | number (n : Numeral)
  | text (spelling : List Char)
  | list (items : List Node)
  | record (members : List (List Char × Node))
  deriving Repr, Inhabited

/-- A text ends before a null character. -/
def endsText : List Char → Bool
  | [] => true
  | c :: _ => c.toNat = 0

/-- The blanks of the loose form. -/
def isLooseBlank (c : Char) : Bool :=
  let n := c.toNat
  (0x09 ≤ n && n ≤ 0x0d) || n = 0x20 || n = 0xa0 || n = 0x1680 || (0x2000 ≤ n && n ≤ 0x200a) ||
    n = 0x2028 || n = 0x2029 || n = 0x202f || n = 0x205f || n = 0x3000 || n = 0xfeff

/-- A separator of lines or paragraphs. -/
def isSeparator (c : Char) : Bool := c.toNat = 0x2028 || c.toNat = 0x2029

/-- The text after a comment that goes to the end of its line. -/
def afterLine : List Char → List Char
  | [] => []
  | c :: rest =>
    if c.toNat = 0 then c :: rest
    else if c = '\n' || c = '\r' || isSeparator c then rest
    else afterLine rest

/-- The text after a comment that goes to its closing mark, if it has one. -/
def afterComment? : List Char → Option (List Char)
  | [] => none
  | '*' :: '/' :: rest => some rest
  | c :: rest => if c.toNat = 0 then none else afterComment? rest

/-- The text after the comment with which it starts, if it starts with one. -/
def startingComment? : List Char → Option (List Char)
  | '/' :: '/' :: rest => some (afterLine rest)
  | '/' :: '*' :: rest => afterComment? rest
  | _ => none

/-- The text after its leading blanks and comments, of which so many are skipped at most. -/
def skipLooseWithin : Nat → List Char → List Char
  | 0, cs => cs
  | fuel + 1, cs =>
    let rest := cs.dropWhile isLooseBlank
    match startingComment? rest with
    | some rest => skipLooseWithin fuel rest
    | none => rest

/-- The text after its leading blanks and comments. -/
def skipLoose (cs : List Char) : List Char := skipLooseWithin (cs.length + 1) cs

/-- A hexadecimal digit. -/
def isHex (c : Char) : Bool := (hexValue? c).isSome

/-- What stands after a backslash, as it is spelled in the written form, and the text after
it. -/
def looseEscape : List Char → Option (List Char × List Char)
  | '"' :: rest => some (['\\', '"'], rest)
  | '\\' :: rest => some (['\\', '\\'], rest)
  | '/' :: rest => some (['\\', '/'], rest)
  | 'b' :: rest => some (['\\', 'b'], rest)
  | 'f' :: rest => some (['\\', 'f'], rest)
  | 'n' :: rest => some (['\\', 'n'], rest)
  | 'r' :: rest => some (['\\', 'r'], rest)
  | 't' :: rest => some (['\\', 't'], rest)
  | 'u' :: a :: b :: c :: d :: rest =>
    if isHex a && isHex b && isHex c && isHex d then some (['\\', 'u', a, b, c, d], rest) else none
  | 'x' :: a :: b :: rest =>
    if isHex a && isHex b then some (['\\', 'u', '0', '0', a, b], rest) else none
  | '\'' :: rest => some (['\''], rest)
  | 'v' :: rest => some (['\\', 'u', '0', '0', '0', '9'], rest)
  | '0' :: rest => some (['\\', 'u', '0', '0', '0', '0'], rest)
  | '\r' :: '\n' :: rest => some ([], rest)
  | c :: rest => if c = '\n' || c = '\r' || isSeparator c then some ([], rest) else none
  | [] => none

/-- Reads up to the closing quote: the spelling in the written form, and the text after
it. -/
def looseQuoted (closing : Char) : Nat → List Char → Option (List Char × List Char)
  | 0, _ | _ + 1, [] => none
  | fuel + 1, c :: rest =>
    if c = closing then some ([], rest)
    else if c = '\\' then
      match looseEscape rest with
      | none => none
      | some (first, rest) =>
        (looseQuoted closing fuel rest).map fun (more, rest) => (first ++ more, rest)
    else if c.toNat < 0x20 then none
    else
      let first := if c = '"' then ['\\', '"'] else [c]
      (looseQuoted closing fuel rest).map fun (more, rest) => (first ++ more, rest)

/-- A character of a name without quotes. -/
def isNameChar (c : Char) : Bool :=
  (c.isAlphanum || c = '_' || c = '$' || 0x80 ≤ c.toNat) && !isLooseBlank c

/-- The leading characters of a name without quotes, and the text after them. -/
def looseName : List Char → List Char × List Char
  | '\\' :: 'u' :: a :: b :: c :: d :: rest =>
    if isHex a && isHex b && isHex c && isHex d then
      let (more, rest) := looseName rest
      (['\\', 'u', a, b, c, d] ++ more, rest)
    else ([], '\\' :: 'u' :: a :: b :: c :: d :: rest)
  | c :: rest =>
    if isNameChar c then
      let (more, rest) := looseName rest
      (c :: more, rest)
    else ([], c :: rest)
  | [] => ([], [])

/-- The text after a word, in that case of its letters or in any, when the word ends
there. -/
def afterWord? (word : String) (anyCase : Bool) (cs : List Char) : Option (List Char) :=
  let start := cs.take word.toList.length
  let rest := cs.drop word.toList.length
  let start := if anyCase then start.map Char.toLower else start
  if start = word.toList ∧ !(rest.head?.any Char.isAlphanum) then some rest else none

/-- A number that is larger than any other. -/
def boundless : Node := .number (.spelled "9e999")

/-- The words that stand for a value, and the text after one. -/
def looseWord (cs : List Char) : Option (Node × List Char) :=
  [("null", false, Node.null), ("true", false, .bool true), ("false", false, .bool false),
    ("inf", true, boundless), ("infinity", true, boundless), ("nan", true, .null),
    ("qnan", true, .null), ("snan", true, .null)].findSome? fun (word, anyCase, v) =>
      (afterWord? word anyCase cs).map fun rest => (v, rest)

/-- The numeral of a spelling. -/
def Numeral.ofSpelling (cs : List Char) : Numeral :=
  if cs.all Char.isDigit then .unsigned (natOfDigits cs) else .spelled (String.ofList cs)

/-- The digits of a hexadecimal number in decimal ones; a number of more than 64 bits is
larger than any. -/
def decimalOfHex (digits : List Char) : List Char :=
  let n := digits.foldl (fun n c => n * 16 + (hexValue? c).getD 0) 0
  if n ≤ maxWord then Nat.toDigits 10 n else "9.0e999".toList

/-- An exponent, which has a digit at least, as it is spelled. -/
def looseExponent (cs : List Char) : List Char × List Char :=
  match cs with
  | e :: rest =>
    if e = 'e' || e = 'E' then
      let (sign, rest) := match rest with
        | '+' :: more => (['+'], more)
        | '-' :: more => (['-'], more)
        | _ => ([], rest)
      match digits rest with
      | ([], _) => ([], cs)
      | (ds, rest) => (e :: sign ++ ds, rest)
    else ([], cs)
  | [] => ([], [])

/-- A number without its sign, spelled in the written form: one side of its point has a
digit, and the other gets one. -/
def looseUnsigned (cs : List Char) : Option (List Char × List Char) :=
  match cs with
  | '0' :: 'x' :: d :: rest | '0' :: 'X' :: d :: rest =>
    if isHex d then
      some (decimalOfHex (d :: rest.takeWhile isHex), rest.dropWhile isHex)
    else some (['0'], cs.drop 1)
  | _ =>
    let (whole, rest) := digits cs
    if whole.head? = some '0' ∧ whole ≠ ['0'] then none
    else
      match rest with
      | '.' :: more =>
        let (fraction, more) := digits more
        if whole.isEmpty && fraction.isEmpty then none
        else
          let (exponent, more) := looseExponent more
          let filled (ds : List Char) := if ds.isEmpty then ['0'] else ds
          some (filled whole ++ '.' :: filled fraction ++ exponent, more)
      | _ =>
        if whole.isEmpty then none
        else
          let (exponent, more) := looseExponent rest
          some (whole ++ exponent, more)

/-- A number behind its sign, or one that is larger than any. -/
def looseSigned (cs : List Char) : Option (List Char × List Char) :=
  match looseUnsigned cs with
  | some r => some r
  | none =>
    if (cs.take 3).map Char.toLower = "inf".toList then
      let rest := cs.drop 3
      let rest := if (rest.take 5).map Char.toLower = "inity".toList then rest.drop 5 else rest
      some ("9e999".toList, rest)
    else none

/-- A number, spelled in the written form, and the text after it. -/
def looseNumber : List Char → Option (List Char × List Char)
  | '-' :: rest => (looseSigned rest).map fun (ds, rest) => ('-' :: ds, rest)
  | '+' :: rest => looseSigned rest
  | cs => looseUnsigned cs

/-- A text in quotes of either kind. -/
def looseText : List Char → Option (List Char × List Char)
  | '"' :: rest => looseQuoted '"' (rest.length + 1) rest
  | '\'' :: rest => looseQuoted '\'' (rest.length + 1) rest
  | _ => none

/-- The name of a member; without quotes it does not start with a digit and is no word for a
value. -/
def looseLabel (cs : List Char) : Option (List Char × List Char) :=
  match cs with
  | '"' :: _ | '\'' :: _ => looseText cs
  | _ =>
    if (looseWord cs).isSome || (cs.take 1).any Char.isDigit then none
    else
      match looseName cs with
      | ([], _) => none
      | (name, rest) => some (name, rest)

/-- A value that is no list or record, and the text after it. -/
def looseScalar (cs : List Char) : Option (Node × List Char) :=
  match looseText cs with
  | some (spelling, rest) => some (.text spelling, rest)
  | none =>
    match looseNumber cs with
    | some (spelling, rest) => some (.number (.ofSpelling spelling), rest)
    | none => looseWord cs

mutual

/-- A value and the text after it; so many lists and records may stand in one another. -/
def looseValue : Nat → Nat → List Char → Option (Node × List Char)
  | 0, _, _ => none
  | fuel + 1, depth, cs =>
    match skipLoose cs with
    | '[' :: rest =>
      if depth = 0 then none
      else (looseItems fuel (depth - 1) rest).map fun (items, rest) => (.list items, rest)
    | '{' :: rest =>
      if depth = 0 then none
      else (looseMembers fuel (depth - 1) rest).map fun (ms, rest) => (.record ms, rest)
    | cs => looseScalar cs

/-- The items of a list up to its closing bracket, and the text after it. -/
def looseItems : Nat → Nat → List Char → Option (List Node × List Char)
  | 0, _, _ => none
  | fuel + 1, depth, cs =>
    match skipLoose cs with
    | ']' :: rest => some ([], rest)
    | cs =>
      match looseValue fuel depth cs with
      | none => none
      | some (v, rest) =>
        match skipLoose rest with
        | ']' :: rest => some ([v], rest)
        | ',' :: rest => (looseItems fuel depth rest).map fun (vs, rest) => (v :: vs, rest)
        | _ => none

/-- The members of a record up to its closing bracket, and the text after it. -/
def looseMembers : Nat → Nat → List Char → Option (List (List Char × Node) × List Char)
  | 0, _, _ => none
  | fuel + 1, depth, cs =>
    match skipLoose cs with
    | '}' :: rest => some ([], rest)
    | cs =>
      match looseLabel cs with
      | none => none
      | some (name, rest) =>
        match skipLoose rest with
        | ':' :: rest =>
          match looseValue fuel depth rest with
          | none => none
          | some (v, rest) =>
            match skipLoose rest with
            | '}' :: rest => some ([(name, v)], rest)
            | ',' :: rest =>
              (looseMembers fuel depth rest).map fun (ms, rest) => ((name, v) :: ms, rest)
            | _ => none
        | _ => none

end

/-- How many lists and records may stand in one another. -/
def maxNesting : Nat := 1000

/-- The value of a whole text. -/
def Node.read? (text : String) : Option Node :=
  let cs := text.toList
  match looseValue (3 * cs.length + 3) maxNesting cs with
  | some (v, rest) => if endsText (skipLoose rest) then some v else none
  | none => none

mutual

/-- The compact form of a value. -/
def Node.chars : Node → List Char
  | .null => ['n', 'u', 'l', 'l']
  | .bool true => ['t', 'r', 'u', 'e']
  | .bool false => ['f', 'a', 'l', 's', 'e']
  | .number n => n.spelling
  | .text spelling => '"' :: spelling ++ ['"']
  | .list items => '[' :: Node.itemChars items ++ [']']
  | .record members => '{' :: Node.memberChars members ++ ['}']

/-- The items of a list, separated by commas. -/
def Node.itemChars : List Node → List Char
  | [] => []
  | [v] => v.chars
  | v :: w :: rest => v.chars ++ ',' :: Node.itemChars (w :: rest)

/-- The members of a record, separated by commas. -/
def Node.memberChars : List (List Char × Node) → List Char
  | [] => []
  | [(k, v)] => '"' :: k ++ '"' :: ':' :: v.chars
  | (k, v) :: m :: rest => '"' :: k ++ '"' :: ':' :: v.chars ++ ',' :: Node.memberChars (m :: rest)

end

/-- The compact text of a value. -/
def Node.compact (v : Node) : String := String.ofList v.chars

mutual

/-- A value as it is found in its written form. -/
def Value.node : Value → Node
  | .null => .null
  | .bool b => .bool b
  | .number n => .number n
  | .text s => .text (escape s.toList)
  | .list items => .list (Value.itemNodes items)
  | .record members => .record (Value.memberNodes members)

/-- Items as they are found in their written form. -/
def Value.itemNodes : List Value → List Node
  | [] => []
  | v :: rest => v.node :: Value.itemNodes rest

/-- Members as they are found in their written form. -/
def Value.memberNodes : List (String × Value) → List (List Char × Node)
  | [] => []
  | (k, v) :: rest => (escape k.toList, v.node) :: Value.memberNodes rest

end

end BuildTriage.Json
