import BuildTriage.Pattern.Tree
import BuildTriage.Charset.Category
import BuildTriage.Charset.Property
import BuildTriage.Text.Blank

/-!
# Reading a pattern

The reader turns the text of a pattern into its tree, or refuses it with the first
cause it meets. In verbose text blanks and comments between the parts are passed
over. The main definition is `Tree.read`; it reads the whole text and bounds the
depth of the tree.
-/

namespace BuildTriage.Pattern

/-- Why a text is no pattern, or a pattern without a meaning. -/
inductive Refusal where
  /-- A bracketed class is not closed. -/
  | classUnclosed
  /-- Something that is no character stands in a class. -/
  | classItem
  /-- An end of a range is no character, or the ends are out of order. -/
  | classRange
  /-- The count of a repetition is missing, too large, not closed or out of order. -/
  | repetitionCount
  /-- A repetition has nothing to repeat. -/
  | repetitionMissing
  /-- A backslash ends the text or stands before a letter that has no meaning. -/
  | escape
  /-- A character is named by bad digits, or by the number of none. -/
  | hexadecimal
  /-- A digit refers to a group. -/
  | backReference
  /-- A group looks ahead or behind. -/
  | lookAround
  /-- Flags are unknown, repeated, unfinished or missing. -/
  | flags
  /-- The name of a group is empty, malformed or already taken. -/
  | groupName
  /-- A group is not closed. -/
  | groupUnclosed
  /-- A group is closed that was not opened. -/
  | groupUnopened
  /-- The name after a word boundary is unknown or not closed. -/
  | boundaryName
  /-- The nesting is too deep. -/
  | depth
  /-- A property or its value is unknown. -/
  | property
  /-- A class of the character database, where characters are not looked at. -/
  | charactersOff
  /-- The pattern could match within a character. -/
  | withinCharacter
  /-- The compiled program is too large. -/
  | size
  deriving DecidableEq, Repr, Inhabited

/-- What is wrong with a refused pattern. -/
def Refusal.reason : Refusal → String
  | .size => "Compiled regex exceeds size limit of 2097152 bytes."
  | _ => "regex parse error:"

/-- The text after blanks and comments; `inComment` when it starts in a comment. -/
def skipComments : List Char → Bool → List Char
  | [], _ => []
  | c :: rest, true => skipComments rest (c ≠ '\n')
  | c :: rest, false =>
    if Text.isBlank c then skipComments rest false
    else if c = '#' then skipComments rest true
    else c :: rest

/-- The text where the next part begins. -/
def skip (verbose : Bool) (cs : List Char) : List Char :=
  if verbose then skipComments cs false else cs

/-- The next character that counts after the first one. In verbose text blanks are
passed over, and the sign that opens a comment, once. -/
def peek (verbose : Bool) (cs : List Char) : Option Char :=
  if !verbose then cs[1]?
  else match (cs.drop 1).dropWhile Text.isBlank with
    | '#' :: rest =>
      match rest.dropWhile Text.isBlank with
      | c :: _ => some c
      | [] => cs[1]?
    | c :: _ => some c
    | [] => cs[1]?

/-- The characters that stand for themselves after a backslash because they have a
meaning without it. -/
def isMeta (c : Char) : Bool := "\\.+*?()|[]\x7b\x7d^$#&-~".toList.contains c

/-- Whether a backslash may stand before the character without need. -/
def isEscapable (c : Char) : Bool :=
  c.toNat < 0x80 && !c.isAlphanum && c ≠ '<' && c ≠ '>'

/-- The value of a hexadecimal digit. -/
def hexDigit? (c : Char) : Option Nat :=
  if '0' ≤ c ∧ c ≤ '9' then some (c.toNat - 0x30)
  else if 'a' ≤ c ∧ c ≤ 'f' then some (c.toNat - 0x57)
  else if 'A' ≤ c ∧ c ≤ 'F' then some (c.toNat - 0x37)
  else none

/-- The character of a number, if it is the number of one. -/
def charOf? (n : Nat) : Option Char :=
  if h : n.isValidChar then some (Char.ofNatAux n h) else none

/-- A character by a given number of hexadecimal digits. -/
def readHexDigits (verbose : Bool) : Nat → Nat → List Char → Except Refusal (Char × List Char)
  | 0, n, cs =>
    match charOf? n with
    | some c => .ok (c, cs)
    | none => .error .hexadecimal
  | _ + 1, _, [] => .error .escape
  | k + 1, n, c :: rest =>
    match hexDigit? c with
    | some d => readHexDigits verbose k (n * 16 + d) (skip verbose rest)
    | none => .error .hexadecimal

/-- A character by the hexadecimal digits up to a closing brace; `n` is the number
so far, if there was a digit. -/
def readHexBrace (verbose : Bool) :
    Nat → Option Nat → List Char → Except Refusal (Char × List Char)
  | 0, _, _ => .error .escape
  | _ + 1, _, [] => .error .escape
  | fuel + 1, n, c :: rest =>
    if c = '}' then
      match n.bind fun n => if n < UInt32.size then charOf? n else none with
      | some c => .ok (c, skip verbose rest)
      | none => .error .hexadecimal
    else match hexDigit? c with
      | some d => readHexBrace verbose fuel (some (n.getD 0 * 16 + d)) (skip verbose rest)
      | none => .error .hexadecimal

/-- A character by its number, after the letter that announces it; `digits` is the
number of digits without braces. -/
def readHex (verbose : Bool) (digits : Nat) (cs : List Char) :
    Except Refusal (Char × Bool × List Char) :=
  match skip verbose cs with
  | [] => .error .escape
  | '{' :: rest => do
    let (c, rest) ← readHexBrace verbose (rest.length + 1) none (skip verbose rest)
    return (c, false, rest)
  | cs => do
    let (c, rest) ← readHexDigits verbose digits 0 cs
    return (c, digits == 2, rest)

/-- Splits a text at the first place where the second text stands. -/
def splitAt? (cs sep : List Char) : Option (List Char × List Char) :=
  match cs with
  | [] => none
  | c :: rest =>
    if sep.isPrefixOf cs then some ([], cs.drop sep.length)
    else (splitAt? rest sep).map fun (a, b) => (c :: a, b)

/-- What the name between braces asks for, and whether it asks for the opposite. -/
def propertyQuery (name : List Char) : PropertyQuery × Bool :=
  match splitAt? name ['!', '='] with
  | some (p, v) => (.value (String.ofList p) (String.ofList v), true)
  | none =>
    match splitAt? name [':'] with
    | some (p, v) => (.value (String.ofList p) (String.ofList v), false)
    | none =>
      match splitAt? name ['='] with
      | some (p, v) => (.value (String.ofList p) (String.ofList v), false)
      | none => (.name (String.ofList name), false)

/-- The name up to a closing brace, last character first. -/
def readPropertyName (verbose : Bool) :
    Nat → List Char → List Char → Except Refusal (List Char × List Char)
  | 0, _, _ => .error .escape
  | _ + 1, _, [] => .error .escape
  | fuel + 1, done, c :: rest =>
    if c = '}' then .ok (done.reverse, rest)
    else readPropertyName verbose fuel (c :: done) (skip verbose rest)

/-- A class of the character database, after its letter. -/
def readProperty (verbose negated : Bool) (cs : List Char) : Except Refusal (Tree × List Char) :=
  match skip verbose cs with
  | [] => .error .escape
  | '{' :: rest => do
    let (name, rest) ← readPropertyName verbose (rest.length + 1) [] (skip verbose rest)
    let (query, opposite) := propertyQuery name
    return (.property query (negated != opposite), rest)
  | c :: rest =>
    if c = '\\' then .error .property
    else .ok (.property (.name (String.ofList [c])) negated, skip verbose rest)

/-- Whether a character may stand in the name of a word boundary. -/
def isBoundaryChar (c : Char) : Bool := c.isAlpha || c == '-'

/-- The name of a word boundary, last character first, and the text after it. -/
def readBoundaryName (verbose : Bool) : Nat → List Char → List Char → List Char × List Char
  | fuel + 1, done, c :: rest =>
    if isBoundaryChar c then readBoundaryName verbose fuel (c :: done) (skip verbose rest)
    else (done.reverse, c :: rest)
  | _, done, cs => (done.reverse, cs)

/-- A word boundary, which may be followed by a name in braces. Braces that do not
start with a letter or hyphen are left for a repetition. -/
def readBoundary (verbose : Bool) (cs : List Char) : Except Refusal (Tree × List Char) :=
  match cs with
  | '{' :: rest =>
    match skip verbose rest with
    | [] => .error .boundaryName
    | c :: more =>
      if !isBoundaryChar c then .ok (.anchor .wordBoundary, cs)
      else match readBoundaryName verbose (more.length + 2) [] (c :: more) with
        | (name, '}' :: rest) =>
          match String.ofList name with
          | "start" => .ok (.anchor .wordStart, rest)
          | "end" => .ok (.anchor .wordEnd, rest)
          | "start-half" => .ok (.anchor .wordStartHalf, rest)
          | "end-half" => .ok (.anchor .wordEndHalf, rest)
          | _ => .error .boundaryName
        | _ => .error .boundaryName
  | _ => .ok (.anchor .wordBoundary, cs)

/-- The part that a backslash introduces. -/
def readEscape (verbose : Bool) : List Char → Except Refusal (Tree × List Char)
  | [] => .error .escape
  | c :: rest =>
    let char := fun (n : Nat) => Except.ok (Tree.literal ⟨Char.ofNat n, false⟩, rest)
    let hex := fun (digits : Nat) => do
      let (c, byte, rest) ← readHex verbose digits rest
      Except.ok (Tree.literal ⟨c, byte⟩, rest)
    let shorthand := fun (kind : Shorthand) (negated : Bool) =>
      Except.ok (Tree.shorthand kind negated, rest)
    let anchor := fun (a : Anchor) => Except.ok (Tree.anchor a, rest)
    if c.isDigit then .error .backReference
    else match c with
      | 'x' => hex 2
      | 'u' => hex 4
      | 'U' => hex 8
      | 'p' => readProperty verbose false rest
      | 'P' => readProperty verbose true rest
      | 'd' => shorthand .digit false
      | 'D' => shorthand .digit true
      | 's' => shorthand .space false
      | 'S' => shorthand .space true
      | 'w' => shorthand .word false
      | 'W' => shorthand .word true
      | 'a' => char 0x07
      | 'f' => char 0x0c
      | 't' => char 0x09
      | 'n' => char 0x0a
      | 'r' => char 0x0d
      | 'v' => char 0x0b
      | 'A' => anchor .textStart
      | 'z' => anchor .textEnd
      | 'b' => readBoundary verbose rest
      | 'B' => anchor .notWordBoundary
      | '<' => anchor .wordStart
      | '>' => anchor .wordEnd
      | _ =>
        if isMeta c || isEscapable c then .ok (.literal ⟨c, false⟩, rest) else .error .escape

/-- The digits of a count, last first; in verbose text blanks may stand between. -/
def readCountDigits (verbose : Bool) : Nat → List Char → List Char → List Char × List Char
  | fuel + 1, done, c :: rest =>
    if c.isDigit then readCountDigits verbose fuel (c :: done) (skip verbose rest)
    else (done.reverse, c :: rest)
  | _, done, cs => (done.reverse, cs)

/-- The text after blanks, and after comments that follow a blank in verbose text. -/
def skipAfterCount (verbose : Bool) : Nat → List Char → List Char
  | fuel + 1, c :: rest =>
    if Text.isBlank c then skipAfterCount verbose fuel (skip verbose rest) else c :: rest
  | _, cs => cs

/-- A count, with blanks around it or none. -/
def readCount (verbose : Bool) (cs : List Char) : Except Refusal Nat × List Char :=
  let cs := cs.dropWhile Text.isBlank
  let (ds, rest) := readCountDigits verbose (cs.length + 1) [] cs
  let rest := skipAfterCount verbose (rest.length + 1) rest
  let n := ds.foldl (fun n c => n * 10 + (c.toNat - '0'.toNat)) 0
  (if ds.isEmpty || n ≥ UInt32.size then .error .repetitionCount else .ok n, rest)

/-- The counts of a repetition, after the opening brace. -/
def readCounts (verbose : Bool) (cs : List Char) :
    Except Refusal (Nat × Option Nat × List Char) := do
  let cs := skip verbose cs
  if cs.isEmpty then throw .repetitionCount
  let (least, rest) := readCount verbose cs
  match rest with
  | ',' :: rest =>
    match skip verbose rest with
    | '}' :: rest => return (← least, none, rest)
    | cs =>
      let least ← least
      let (most, rest) := readCount verbose cs
      let most ← most
      match rest with
      | '}' :: rest => if least ≤ most then return (least, some most, rest)
                       else throw .repetitionCount
      | _ => throw .repetitionCount
  | '}' :: rest =>
    let n ← least
    return (n, some n, rest)
  | _ => throw .repetitionCount

/-- The flags up to the colon or bracket that ends them: the settings, the kinds seen
so far and whether a hyphen has been seen, the last sign being one or not. -/
def readFlags : List Char → List Flag → Bool → Bool → List Setting →
    Except Refusal (List Setting × Char × List Char)
  | [], _, _, _, _ => .error .flags
  | c :: rest, seen, negated, dangling, done =>
    let flag := fun (f : Flag) =>
      if seen.contains f then .error .flags
      else readFlags rest (f :: seen) negated false (done ++ [(f, !negated)])
    match c with
    | ':' => if dangling then .error .flags else .ok (done, c, rest)
    | ')' => if dangling then .error .flags else .ok (done, c, rest)
    | '-' => if negated then .error .flags else readFlags rest seen true true done
    | 'i' => flag .ignoreCase
    | 'm' => flag .multiLine
    | 's' => flag .dotAll
    | 'U' => flag .swapGreed
    | 'u' => flag .unicode
    | 'R' => flag .crlf
    | 'x' => flag .verbose
    | _ => .error .flags

/-- The alphabetic characters. -/
def alphabetic : Charset := (Charset.property? "alphabetic").getD []

/-- The characters that are numbers. -/
def numeric : Charset := (Charset.category? "n").getD []

/-- Whether a character may stand in the name of a group, at its start or later. -/
def isNameChar (c : Char) (first : Bool) : Bool :=
  c == '_' || alphabetic.contains c.toNat ||
    (!first && (c == '.' || c == '[' || c == ']' || numeric.contains c.toNat))

/-- The name of a group up to the angle bracket that closes it. -/
def readGroupName (cs : List Char) : Except Refusal (String × List Char) :=
  let name := cs.takeWhile (· ≠ '>')
  match name, cs.drop name.length with
  | [], _ => .error .groupName
  | first :: others, _ :: rest =>
    if isNameChar first true && others.all (isNameChar · false)
    then .ok (String.ofList name, rest) else .error .groupName
  | _, [] => .error .groupName

/-- How a group opens. -/
inductive Opening where
  /-- Flags for the rest of the group around it. -/
  | settings (flags : List Setting)
  | capture (name : Option String)
  | group (flags : List Setting)

/-- The opening of a group after its bracket. -/
def readOpening (verbose : Bool) (cs : List Char) : Except Refusal (Opening × List Char) :=
  match skip verbose cs with
  | '?' :: '=' :: _ => .error .lookAround
  | '?' :: '!' :: _ => .error .lookAround
  | '?' :: '<' :: '=' :: _ => .error .lookAround
  | '?' :: '<' :: '!' :: _ => .error .lookAround
  | '?' :: 'P' :: '<' :: rest => do
    let (name, rest) ← readGroupName rest
    return (.capture (some name), rest)
  | '?' :: '<' :: rest => do
    let (name, rest) ← readGroupName rest
    return (.capture (some name), rest)
  | '?' :: rest => do
    let (flags, last, rest) ← readFlags rest [] false false []
    if last = ':' then return (.group flags, rest)
    else if flags.isEmpty then throw .repetitionMissing
    else return (.settings flags, rest)
  | cs => .ok (.capture none, cs)

/-- The value that settings give the flag for verbose text. -/
def verboseAfter (verbose : Bool) (flags : List Setting) : Bool :=
  match flags.find? (·.1 == .verbose) with
  | some (_, value) => value
  | none => verbose

/-- The named sets of ASCII characters. -/
def asciiClasses : List (String × Charset) := [
  ("alnum", [(0x30, 0x39), (0x41, 0x5A), (0x61, 0x7A)]),
  ("alpha", [(0x41, 0x5A), (0x61, 0x7A)]),
  ("ascii", [(0, 0x7F)]),
  ("blank", [(0x09, 0x09), (0x20, 0x20)]),
  ("cntrl", [(0, 0x1F), (0x7F, 0x7F)]),
  ("digit", [(0x30, 0x39)]),
  ("graph", [(0x21, 0x7E)]),
  ("lower", [(0x61, 0x7A)]),
  ("print", [(0x20, 0x7E)]),
  ("punct", [(0x21, 0x2F), (0x3A, 0x40), (0x5B, 0x60), (0x7B, 0x7E)]),
  ("space", [(0x09, 0x0D), (0x20, 0x20)]),
  ("upper", [(0x41, 0x5A)]),
  ("word", [(0x30, 0x39), (0x41, 0x5A), (0x5F, 0x5F), (0x61, 0x7A)]),
  ("xdigit", [(0x30, 0x39), (0x41, 0x46), (0x61, 0x66)])]

/-- A named set of ASCII characters after the bracket that opens it, if one stands
there. -/
def readAsciiClass? : List Char → Option (Charset × Bool × List Char)
  | ':' :: cs =>
    let (negated, cs) := match cs with
      | '^' :: rest => (true, rest)
      | _ => (false, cs)
    let name := cs.takeWhile (· ≠ ':')
    match cs.drop name.length with
    | ':' :: ']' :: rest =>
      (asciiClasses.lookup (String.ofList name)).map fun set => (set, negated, rest)
    | _ => none
  | _ => none

/-- A part as an item of a class. -/
def classItem : Tree → Except Refusal ClassTree
  | .literal l => .ok (.literal l)
  | .shorthand kind negated => .ok (.shorthand kind negated)
  | .property query negated => .ok (.property query negated)
  | _ => .error .classItem

/-- One character of a class or what a backslash introduces. -/
def readClassPart (verbose : Bool) : List Char → Except Refusal (Tree × List Char)
  | [] => .error .classUnclosed
  | '\\' :: rest => readEscape verbose rest
  | c :: rest => .ok (.literal ⟨c, false⟩, rest)

/-- One item of a class, or a range of two. -/
def readClassRange (verbose : Bool) (cs : List Char) :
    Except Refusal (ClassTree × List Char) := do
  let (first, rest) ← readClassPart verbose cs
  match skip verbose rest with
  | [] => throw .classUnclosed
  | c :: rest =>
    let next := peek verbose (c :: rest)
    if c ≠ '-' || next == some ']' || next == some '-' then
      return (← classItem first, c :: rest)
    else match skip verbose rest with
      | [] => throw .classUnclosed
      | cs =>
        let (last, rest) ← readClassPart verbose cs
        match first, last with
        | .literal a, .literal b =>
          if a.char ≤ b.char then return (.range a b, rest) else throw .classRange
        | _, _ => throw .classRange

/-- The hyphens at the start of a class, as items, last first. -/
def readHyphens (verbose : Bool) :
    Nat → List ClassTree → List Char → List ClassTree × List Char
  | fuel + 1, items, '-' :: rest =>
    readHyphens verbose fuel (.literal ⟨'-', false⟩ :: items) (skip verbose rest)
  | _, items, cs => (items, cs)

/-- The left side of an operator joined with its right side. -/
def joinPending (pending : Option (ClassOp × ClassTree)) (right : ClassTree) : ClassTree :=
  match pending with
  | some (kind, left) => .op kind left right
  | none => right

mutual

/-- A class after its bracket: whether it is negated, and what is inside. -/
def readBracket (verbose : Bool) :
    Nat → List Char → Except Refusal (Bool × ClassTree × List Char)
  | 0, _ => .error .depth
  | fuel + 1, cs => do
    let (negated, cs) := match skip verbose cs with
      | '^' :: rest => (true, skip verbose rest)
      | cs => (false, cs)
    let (items, cs) := readHyphens verbose (cs.length + 1) [] cs
    let (items, cs) := match items, cs with
      | [], ']' :: rest => ([ClassTree.literal ⟨']', false⟩], skip verbose rest)
      | _, _ => (items, cs)
    if cs.isEmpty then throw .classUnclosed
    let (inner, rest) ← readClassItems verbose fuel items none cs
    return (negated, inner, rest)

/-- The items of a class up to its closing bracket; `items` holds those since the
last operator, last first, and `pending` that operator and its left side. -/
def readClassItems (verbose : Bool) :
    Nat → List ClassTree → Option (ClassOp × ClassTree) → List Char →
      Except Refusal (ClassTree × List Char)
  | 0, _, _, _ => .error .depth
  | fuel + 1, items, pending, cs =>
    let joined := joinPending pending (.ofItems items.reverse)
    match skip verbose cs with
    | [] => .error .classUnclosed
    | ']' :: rest => .ok (joined, rest)
    | '[' :: rest =>
      match readAsciiClass? rest with
      | some (set, negated, rest) =>
        readClassItems verbose fuel (.ascii set negated :: items) pending rest
      | none => do
        let (negated, inner, rest) ← readBracket verbose fuel rest
        readClassItems verbose fuel (.bracket negated inner :: items) pending rest
    | '&' :: '&' :: rest => readClassItems verbose fuel [] (some (.intersection, joined)) rest
    | '-' :: '-' :: rest => readClassItems verbose fuel [] (some (.difference, joined)) rest
    | '~' :: '~' :: rest =>
      readClassItems verbose fuel [] (some (.symmetricDifference, joined)) rest
    | cs => do
      let (item, rest) ← readClassRange verbose cs
      readClassItems verbose fuel (item :: items) pending rest

end

/-- The parts with the last one repeated, if there is one that can be. -/
def repeatLast (parts : List Tree) (min : Nat) (max : Option Nat) (greedy : Bool) :
    Except Refusal (List Tree) :=
  match parts with
  | [] => .error .repetitionMissing
  | .empty :: _ => .error .repetitionMissing
  | .settings _ :: _ => .error .repetitionMissing
  | part :: rest => .ok (.repeated part min max greedy :: rest)

/-- Whether an operator is greedy: a question mark after it takes that away. -/
def readGreed : List Char → Bool × List Char
  | '?' :: rest => (false, rest)
  | cs => (true, cs)

/-- The tree of the branches and the parts since the last of them, last first. -/
def closeBody (branches parts : List Tree) : Tree :=
  let last := Tree.ofParts parts.reverse
  match branches with
  | [] => last
  | _ => .choice (last :: branches).reverse

/-- The body of a group up to its closing bracket or the end of the text: the tree,
the group names taken so far, and the rest of the text. -/
def readBody : Nat → Bool → List String → List Tree → List Tree → List Char →
    Except Refusal (Tree × List String × List Char)
  | 0, _, _, _, _, _ => .error .depth
  | fuel + 1, verbose, names, branches, parts, cs =>
    let push := fun (part : Tree) (rest : List Char) =>
      readBody fuel verbose names branches (part :: parts) rest
    let uncounted := fun (min : Nat) (max : Option Nat) (rest : List Char) => do
      let (greedy, rest) := readGreed rest
      let parts ← repeatLast parts min max greedy
      readBody fuel verbose names branches parts rest
    match skip verbose cs with
    | [] => .ok (closeBody branches parts, names, [])
    | ')' :: rest => .ok (closeBody branches parts, names, ')' :: rest)
    | '|' :: rest =>
      readBody fuel verbose names (Tree.ofParts parts.reverse :: branches) [] rest
    | '(' :: rest => do
      let (opening, rest) ← readOpening verbose rest
      match opening with
      | .settings flags =>
        readBody fuel (verboseAfter verbose flags) names branches (.settings flags :: parts) rest
      | .capture name =>
        if name.any names.contains then throw .groupName
        let (body, names, rest) ← readBody fuel verbose (name.toList ++ names) [] [] rest
        match rest with
        | ')' :: rest => readBody fuel verbose names branches (.capture body :: parts) rest
        | _ => throw .groupUnclosed
      | .group flags =>
        let (body, names, rest) ← readBody fuel (verboseAfter verbose flags) names [] [] rest
        match rest with
        | ')' :: rest => readBody fuel verbose names branches (.group flags body :: parts) rest
        | _ => throw .groupUnclosed
    | '[' :: rest => do
      let (negated, inner, rest) ← readBracket verbose (2 * rest.length + 2) rest
      push (.bracket negated inner) rest
    | '?' :: rest => uncounted 0 (some 1) rest
    | '*' :: rest => uncounted 0 none rest
    | '+' :: rest => uncounted 1 none rest
    | '{' :: rest => do
      if parts.isEmpty then throw .repetitionMissing
      let (min, max, rest) ← readCounts verbose rest
      let (greedy, rest) := readGreed (skip verbose rest)
      let parts ← repeatLast parts min max greedy
      readBody fuel verbose names branches parts rest
    | '\\' :: rest => do
      let (part, rest) ← readEscape verbose rest
      push part rest
    | '.' :: rest => push .dot rest
    | '^' :: rest => push (.anchor .lineStart) rest
    | '$' :: rest => push (.anchor .lineEnd) rest
    | c :: rest => push (.literal ⟨c, false⟩) rest

/-- The deepest nesting that is accepted. -/
def maxDepth : Nat := 250

/-- The tree of a whole text. -/
def Tree.read (cs : List Char) : Except Refusal Tree := do
  let (tree, _, rest) ← readBody (cs.length + 1) false [] [] [] cs
  if !rest.isEmpty then throw .groupUnopened
  if tree.depth > maxDepth then throw .depth
  return tree

end BuildTriage.Pattern
