import BuildTriage.Toml.Scalar
import BuildTriage.Toml.Text

/-!
# Reading TOML

A document is read line by line: a header names a table, a pair gives a value to a key
in the table named last. A list may go over several lines, a table that is written out
stays on one.
-/

namespace BuildTriage.Toml

/-- The text after its leading blanks. -/
def skipSpace (cs : List Char) : List Char := cs.dropWhile isSpace

/-- The text after a comment at its front, if there is one. -/
def skipComment : List Char → List Char
  | '#' :: rest => rest.dropWhile isPrintable
  | cs => cs

/-- The next line, when nothing but blanks and a comment is left of this one. -/
def nextLine (cs : List Char) : Option (List Char) :=
  match skipComment (skipSpace cs) with
  | [] => some []
  | '\n' :: rest => some rest
  | '\r' :: '\n' :: rest => some rest
  | _ => none

/-- The text after blanks, comments and new lines; a comment has to end with its line. -/
def skipFiller : Bool → List Char → Option (List Char)
  | _, '\n' :: rest => skipFiller false rest
  | _, '\r' :: '\n' :: rest => skipFiller false rest
  | true, c :: rest => if isPrintable c then skipFiller true rest else none
  | true, [] => none
  | false, '#' :: rest => skipFiller true rest
  | false, c :: rest => if isSpace c then skipFiller false rest else some (c :: rest)
  | false, [] => some []

/-- A character of a key that is not quoted. -/
def isKeyChar (c : Char) : Bool := c.isAlphanum || c = '_' || c = '-'

/-- Reads one part of a key. -/
def readKeyPart (cs : List Char) : Option (String × List Char) :=
  match cs with
  | '"' :: _ => readLine cs
  | '\'' :: _ => readLine cs
  | _ =>
    let (part, rest) := breakAt (!isKeyChar ·) cs
    if part.isEmpty then none else some (String.ofList part, rest)

/-- The most parts of a key, and the most brackets that a value stands in. -/
def maxDepth : Nat := 79

/-- Reads a key with the blanks around it: its parts, the last one first. -/
def readKeyParts : Nat → List String → List Char → Option (List String × List Char)
  | 0, _, _ => none
  | fuel + 1, done, cs => do
    let (part, rest) ← readKeyPart (skipSpace cs)
    match skipSpace rest with
    | '.' :: more => readKeyParts fuel (part :: done) more
    | rest => return (part :: done, rest)

/-- Reads a key with the blanks around it: the parts before the last, and the last. -/
def readKey (cs : List Char) : Option (List String × String × List Char) := do
  match ← readKeyParts maxDepth [] cs with
  | (last :: front, rest) => return (front.reverse, last, rest)
  | ([], _) => none

mutual

/-- Reads a value that stands in `depth` brackets. -/
def readValue : Nat → Nat → List Char → Option (Value × List Char)
  | 0, _, _ => none
  | fuel + 1, depth, cs =>
    match cs with
    | '[' :: rest =>
      if depth < maxDepth then readItems fuel (depth + 1) rest [] else none
    | '{' :: rest =>
      if depth < maxDepth then
        match skipSpace rest with
        | '}' :: after => some (.table [], after)
        | rest => readPairs fuel (depth + 1) rest []
      else none
    | '"' :: _ => (readQuoted cs).map fun (s, r) => (.text s, r)
    | '\'' :: _ => (readQuoted cs).map fun (s, r) => (.text s, r)
    | _ => readWord cs

/-- Reads the items of a list after those in `done`, of which the latest stands first. -/
def readItems : Nat → Nat → List Char → List Value → Option (Value × List Char)
  | 0, _, _, _ => none
  | fuel + 1, depth, cs, done => do
    match ← skipFiller false cs with
    | ']' :: rest => return (.list done.reverse, rest)
    | cs =>
      let (v, rest) ← readValue fuel depth cs
      match ← skipFiller false rest with
      | ',' :: rest => readItems fuel depth rest (v :: done)
      | ']' :: rest => return (.list (v :: done).reverse, rest)
      | _ => none

/-- Reads the pairs of a table that is written out, and adds them to its members. -/
def readPairs : Nat → Nat → List Char → List (String × Node) → Option (Value × List Char)
  | 0, _, _, _ => none
  | fuel + 1, depth, cs, members => do
    let (path, key, rest) ← readKey cs
    match rest with
    | '=' :: rest =>
      let (v, rest) ← readValue fuel depth (skipSpace rest)
      let members ← assign path key v members
      match skipSpace rest with
      | ',' :: rest => readPairs fuel depth rest members
      | '}' :: rest => return (.table (Node.memberValues members), rest)
      | _ => none
    | _ => none

end

/-- Reads the lines of a document into the table `root`; pairs belong to the table at
`current`. -/
def readLines : Nat → List String → List Char → List (String × Node) →
    Option (List (String × Node))
  | 0, _, _, _ => none
  | fuel + 1, current, cs, root => do
    match skipSpace cs with
    | [] => return root
    | '[' :: '[' :: rest =>
      let (path, key, rest) ← readKey rest
      match rest with
      | ']' :: ']' :: rest =>
        let root ← descend (declareItem key) path root
        readLines fuel (path ++ [key]) (← nextLine rest) root
      | _ => none
    | '[' :: rest =>
      let (path, key, rest) ← readKey rest
      match rest with
      | ']' :: rest =>
        let root ← descend (declareTable key) path root
        readLines fuel (path ++ [key]) (← nextLine rest) root
      | _ => none
    | c :: rest =>
      if c = '\n' ∨ c = '\r' ∨ c = '#' then readLines fuel current (← nextLine (c :: rest)) root
      else
        let (path, key, rest) ← readKey (c :: rest)
        match rest with
        | '=' :: rest =>
          let (v, rest) ← readValue (2 * rest.length + 2) 0 (skipSpace rest)
          let root ← descend (assign path key v) current root
          readLines fuel current (← nextLine rest) root
        | _ => none

/-- The table of a document, which may start with a byte order mark. -/
def read (text : String) : Option Value := do
  let cs := match text.toList with
    | '\uFEFF' :: rest => rest
    | cs => cs
  return .table (Node.memberValues (← readLines (cs.length + 1) [] cs []))

end BuildTriage.Toml
