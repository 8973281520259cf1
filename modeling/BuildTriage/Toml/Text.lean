import BuildTriage.Json.Doc

/-!
# Quoted text in TOML

There are four kinds of quotes: basic ones, in which a backslash starts an escape, and
literal ones, in which it stands for itself; each once for a text on one line and
three times for one over several lines. A new line right after three opening quotes is
left out, a new line in the text is a line feed however it is written, and a backslash
at the end of a line joins it to the next word.
-/

namespace BuildTriage.Toml

open Json (hexValue?)

/-- The blanks within a line. -/
def isSpace (c : Char) : Bool := c = ' ' || c = '\t'

/-- A character that may stand in a comment or a literal text: no control character but
the tab. -/
def isPrintable (c : Char) : Bool := c = '\t' || (0x20 ≤ c.toNat && c.toNat ≠ 0x7f)

/-- The character of a number, if it has one. -/
def scalar? (n : Nat) : Option Char := if n.isValidChar then some (Char.ofNat n) else none

/-- The number of some hexadecimal digits. -/
def hexNumber? (cs : List Char) : Option Nat :=
  cs.foldlM (fun n c => do return n * 16 + (← hexValue? c)) 0

/-- The character of an escape that is named by one letter. -/
def shortEscape? : Char → Option Char
  | 'b' => some '\x08'
  | 't' => some '\t'
  | 'n' => some '\n'
  | 'f' => some '\x0c'
  | 'r' => some '\r'
  | '"' => some '"'
  | '\\' => some '\\'
  | _ => none

/-- Reads a basic text on one line, after its opening quote. -/
def readBasic : List Char → List Char → Option (List Char × List Char)
  | '"' :: rest, done => some (done.reverse, rest)
  | '\\' :: 'u' :: a :: b :: c :: d :: rest, done => do
    readBasic rest ((← scalar? (← hexNumber? [a, b, c, d])) :: done)
  | '\\' :: 'U' :: a :: b :: c :: d :: e :: f :: g :: h :: rest, done => do
    readBasic rest ((← scalar? (← hexNumber? [a, b, c, d, e, f, g, h])) :: done)
  | '\\' :: c :: rest, done => do readBasic rest ((← shortEscape? c) :: done)
  | c :: rest, done => if isPrintable c then readBasic rest (c :: done) else none
  | [], _ => none

/-- Reads a literal text on one line, after its opening quote. -/
def readLiteral : List Char → List Char → Option (List Char × List Char)
  | '\'' :: rest, done => some (done.reverse, rest)
  | c :: rest, done => if isPrintable c then readLiteral rest (c :: done) else none
  | [], _ => none

/-- The text after a new line that stands at its front, if one does. -/
def skipLineEnd : List Char → List Char
  | '\n' :: rest => rest
  | '\r' :: '\n' :: rest => rest
  | cs => cs

/-- What a text over several lines may end with: three quotes, after up to two that
belong to the text. -/
def closing (quote : Char) : List Char → Option (Nat × List Char)
  | a :: b :: c :: d :: e :: rest =>
    if a = quote ∧ b = quote ∧ c = quote then
      if d = quote then if e = quote then some (2, rest) else some (1, e :: rest)
      else some (0, d :: e :: rest)
    else none
  | [a, b, c, d] =>
    if a = quote ∧ b = quote ∧ c = quote then
      if d = quote then some (1, []) else some (0, [d])
    else none
  | [a, b, c] => if a = quote ∧ b = quote ∧ c = quote then some (0, []) else none
  | _ => none

/-- Whether the rest of the line has blanks only; a text that ends here has no new line
to join. -/
def endsLine : List Char → Bool
  | '\n' :: _ => true
  | '\r' :: '\n' :: _ => true
  | c :: rest => isSpace c && endsLine rest
  | [] => false

/-- Reads a literal text over several lines, after its opening quotes. -/
def readLiteralLines : List Char → List Char → Option (List Char × List Char)
  | [], _ => none
  | '\r' :: '\n' :: rest, done => readLiteralLines rest ('\n' :: done)
  | c :: rest, done =>
    match closing '\'' (c :: rest) with
    | some (extra, after) => some (done.reverse ++ List.replicate extra '\'', after)
    | none =>
      if c = '\n' || isPrintable c then readLiteralLines rest (c :: done) else none

/-- Reads a basic text over several lines, after its opening quotes; `joining` tells that
blanks and new lines are skipped. -/
def readBasicLines : Bool → List Char → List Char → Option (List Char × List Char)
  | _, [], _ => none
  | true, '\r' :: '\n' :: rest, done => readBasicLines true rest done
  | false, '\r' :: '\n' :: rest, done => readBasicLines false rest ('\n' :: done)
  | _, '\\' :: 'u' :: a :: b :: c :: d :: rest, done => do
    readBasicLines false rest ((← scalar? (← hexNumber? [a, b, c, d])) :: done)
  | _, '\\' :: 'U' :: a :: b :: c :: d :: e :: f :: g :: h :: rest, done => do
    readBasicLines false rest ((← scalar? (← hexNumber? [a, b, c, d, e, f, g, h])) :: done)
  | _, '\\' :: c :: rest, done =>
    match shortEscape? c with
    | some x => readBasicLines false rest (x :: done)
    | none => if endsLine (c :: rest) then readBasicLines true (c :: rest) done else none
  | joining, c :: rest, done =>
    if joining && (isSpace c || c = '\n') then readBasicLines true rest done
    else match closing '"' (c :: rest) with
      | some (extra, after) => some (done.reverse ++ List.replicate extra '"', after)
      | none =>
        if c = '\n' || isPrintable c then readBasicLines false rest (c :: done) else none

/-- Reads a quoted text on one line. -/
def readLine : List Char → Option (String × List Char)
  | '"' :: rest => (readBasic rest []).map fun (s, r) => (String.ofList s, r)
  | '\'' :: rest => (readLiteral rest []).map fun (s, r) => (String.ofList s, r)
  | _ => none

/-- Reads a quoted text of any kind. -/
def readQuoted : List Char → Option (String × List Char)
  | '"' :: '"' :: '"' :: rest =>
    (readBasicLines false (skipLineEnd rest) []).map fun (s, r) => (String.ofList s, r)
  | '\'' :: '\'' :: '\'' :: rest =>
    (readLiteralLines (skipLineEnd rest) []).map fun (s, r) => (String.ofList s, r)
  | cs => readLine cs

end BuildTriage.Toml
