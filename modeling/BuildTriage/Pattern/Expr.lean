import BuildTriage.Pattern.Reader
import BuildTriage.Charset.Age
import BuildTriage.Charset.Breaks
import BuildTriage.Charset.Folding
import BuildTriage.Charset.Script

/-!
# The meaning of a pattern

An expression is a tree with its flags resolved: every class is a set of
characters and every anchor says what it looks at. Flags hold from where they stand
to the end of their group, in later branches too. A part that could match a piece of
a character has no meaning here and is refused.
-/

namespace BuildTriage.Pattern

/-- How a word boundary is told from the characters before and after a place. -/
inductive WordLook where
  | boundary
  | inside
  | start
  | finish
  | startHalf
  | finishHalf
  deriving DecidableEq, Repr

/-- A condition on the characters before and after a place. -/
inductive Look where
  | textStart
  | textEnd
  /-- At the start of the text or after a line feed. -/
  | lineStart
  /-- At the end of the text or before a line feed. -/
  | lineEnd
  /-- Like `lineStart`, with a carriage return and both together ending lines too. -/
  | anyLineStart
  | anyLineEnd
  /-- A word boundary; the words are of ASCII characters only or of all. -/
  | word (kind : WordLook) (ascii : Bool)
  deriving DecidableEq, Repr

/-- A pattern with a meaning. -/
inductive Expr where
  | empty
  | char (c : Char)
  | set (s : Charset)
  | look (l : Look)
  | repeated (body : Expr) (min : Nat) (max : Option Nat) (greedy : Bool)
  | capture (body : Expr)
  | sequence (parts : List Expr)
  | choice (branches : List Expr)
  deriving Repr, Inhabited

/-- The flags in force at a place. -/
structure Modes where
  /-- Letters match in either case. -/
  ignoreCase : Bool := false
  /-- The line anchors hold at every line. -/
  multiLine : Bool := false
  /-- The dot matches a line feed too. -/
  dotAll : Bool := false
  /-- Greedy and reluctant repetitions change places. -/
  swapGreed : Bool := false
  /-- Characters are looked at, and not bytes. -/
  unicode : Bool := true
  /-- Lines end with carriage returns too. -/
  crlf : Bool := false
  deriving DecidableEq, Repr, Inhabited

/-- The modes after one setting. -/
def Modes.apply (m : Modes) : Setting → Modes
  | (.ignoreCase, b) => { m with ignoreCase := b }
  | (.multiLine, b) => { m with multiLine := b }
  | (.dotAll, b) => { m with dotAll := b }
  | (.swapGreed, b) => { m with swapGreed := b }
  | (.unicode, b) => { m with unicode := b }
  | (.crlf, b) => { m with crlf := b }
  | (.verbose, _) => m

/-- The modes after some settings. -/
def Modes.applyAll (m : Modes) (flags : List Setting) : Modes := flags.foldl Modes.apply m

/-- A name of the character database in lower case, without blanks, hyphens, low
lines and characters beyond ASCII, and without a leading `is`. -/
def normalName (name : String) : String :=
  let cs := name.toList
  let (isPrefixed, body) := match cs with
    | a :: b :: rest => if a.toLower = 'i' && b.toLower = 's' then (true, rest) else (false, cs)
    | _ => (false, cs)
  let kept := (body.filter fun c =>
    c.toNat < 0x80 && c ≠ ' ' && c ≠ '_' && c ≠ '-').map Char.toLower
  if isPrefixed && kept == ['c'] then "isc" else String.ofList kept

/-- The set that a single name asks for: a property, a category or a script. -/
def namedSet? (name : String) : Option Charset :=
  let name := normalName name
  let isProperty := name ≠ "cf" && name ≠ "sc" && name ≠ "lc"
  (if isProperty then Charset.property? name else none)
    |>.or (Charset.category? name)
    |>.or (Charset.find? Charset.scripts name)

/-- The set of the characters for which a property has a value. -/
def valueSet? (property value : String) : Option Charset :=
  let value := normalName value
  match normalName property with
  | "gc" | "generalcategory" => Charset.category? value
  | "sc" | "script" => Charset.find? Charset.scripts value
  | "scx" | "scriptextensions" => Charset.find? Charset.scriptExtensions value
  | "age" => Charset.age? value
  | "gcb" | "graphemeclusterbreak" => Charset.find? Charset.clusterBreaks value
  | "wb" | "wordbreak" => Charset.find? Charset.wordBreaks value
  | "sb" | "sentencebreak" => Charset.find? Charset.sentenceBreaks value
  | _ => none

/-- The set that a query asks for. -/
def PropertyQuery.set? : PropertyQuery → Option Charset
  | .name n => namedSet? n
  | .value p v => valueSet? p v

/-- The decimal digits of all scripts. -/
def digitSet : Charset := (Charset.category? "nd").getD []

/-- The blank characters. -/
def spaceSet : Charset :=
  [(0x09, 0x0d), (0x20, 0x20), (0x85, 0x85), (0xa0, 0xa0), (0x1680, 0x1680),
    (0x2000, 0x200a), (0x2028, 0x2029), (0x202f, 0x202f), (0x205f, 0x205f), (0x3000, 0x3000)]

/-- The characters of words: alphabetic ones, marks, digits, connectors and joiners. -/
def wordSet : Charset :=
  [Charset.category? "m", some digitSet, Charset.category? "pc", Charset.property? "joincontrol"]
    |>.foldl (fun s part => Charset.union s (part.getD [])) alphabetic

/-- The ASCII characters of words. -/
def asciiWordSet : Charset := [(0x30, 0x39), (0x41, 0x5A), (0x5F, 0x5F), (0x61, 0x7A)]

/-- The set of a shorthand, of all characters or of ASCII ones. -/
def Shorthand.set : Shorthand → Bool → Charset
  | .digit, true => digitSet
  | .space, true => spaceSet
  | .word, true => wordSet
  | .digit, false => [(0x30, 0x39)]
  | .space, false => [(0x09, 0x0d), (0x20, 0x20)]
  | .word, false => asciiWordSet

/-- The largest element of a class: a character, or a byte. -/
def Modes.limit (m : Modes) : Nat := if m.unicode then Charset.top else 0xFF

/-- The set closed under case, where letters match in either. -/
def Modes.fold (m : Modes) (s : Charset) : Charset :=
  if !m.ignoreCase then s
  else if m.unicode then Charset.caseClosure s
  else Charset.asciiCaseClosure s

/-- The set or what is outside it; a set of bytes may hold ASCII only. -/
def Modes.finish (m : Modes) (negated : Bool) (s : Charset) : Except Refusal Charset :=
  let s := if negated then s.complement m.limit else s
  if m.unicode || s.within 0x7F then .ok s else .error .withinCharacter

/-- The element of a class that a literal names. -/
def Modes.element (m : Modes) (l : Literal) : Except Refusal Nat :=
  if m.unicode || l.char.toNat ≤ 0x7F then .ok l.char.toNat
  else if l.byte then .error .withinCharacter
  else .error .charactersOff

/-- The set of a query, closed under case, or what is outside it. -/
def Modes.property (m : Modes) (query : PropertyQuery) (negated : Bool) :
    Except Refusal Charset :=
  if !m.unicode then .error .charactersOff
  else match query.set? with
    | some s => m.finish negated (m.fold s)
    | none => .error .property

mutual

/-- The set of a class. -/
def ClassTree.set (m : Modes) : ClassTree → Except Refusal Charset
  | .empty => .ok []
  | .literal l => do
    let c ← m.element l
    return [(c, c)]
  | .range first last => do
    let lo ← m.element first
    let hi ← m.element last
    return [(lo, hi)]
  | .ascii s negated => m.finish negated (m.fold s)
  | .shorthand kind negated => m.finish negated (kind.set m.unicode)
  | .property query negated => m.property query negated
  | .bracket negated inner => do
    let s ← inner.set m
    m.finish negated (m.fold s)
  | .union items => ClassTree.unionSet m items
  | .op kind left right => do
    let s := m.fold (← left.set m)
    let t := m.fold (← right.set m)
    match kind with
    | .intersection => return s.inter t m.limit
    | .difference => return s.diff t m.limit
    | .symmetricDifference => return s.symmDiff t m.limit

/-- The union of some classes. -/
def ClassTree.unionSet (m : Modes) : List ClassTree → Except Refusal Charset
  | [] => .ok []
  | t :: rest => do
    let s ← t.set m
    let u ← ClassTree.unionSet m rest
    return s.union u

end

/-- A literal, as a class of its cases where letters match in either. -/
def Modes.literal (m : Modes) (l : Literal) : Except Refusal Expr :=
  if !m.unicode && l.byte && l.char.toNat > 0x7F then .error .withinCharacter
  else if !m.ignoreCase || (!m.unicode && !l.char.isAlpha) then .ok (.char l.char)
  else
    let c := l.char.toNat
    match m.fold [(c, c)] with
    | [(lo, hi)] => if lo = hi then .ok (.char l.char) else .ok (.set [(lo, hi)])
    | s => .ok (.set s)

/-- What the dot matches. -/
def Modes.dot (m : Modes) : Except Refusal Expr :=
  if !m.unicode then .error .withinCharacter
  else if m.dotAll then .ok (.set [(0, Charset.top)])
  else if m.crlf then .ok (.set [(0, 0x09), (0x0B, 0x0C), (0x0E, Charset.top)])
  else .ok (.set [(0, 0x09), (0x0B, Charset.top)])

/-- What an anchor looks at. -/
def Modes.look (m : Modes) : Anchor → Look
  | .lineStart =>
    if !m.multiLine then .textStart else if m.crlf then .anyLineStart else .lineStart
  | .lineEnd =>
    if !m.multiLine then .textEnd else if m.crlf then .anyLineEnd else .lineEnd
  | .textStart => .textStart
  | .textEnd => .textEnd
  | .wordBoundary => .word .boundary (!m.unicode)
  | .notWordBoundary => .word .inside (!m.unicode)
  | .wordStart => .word .start (!m.unicode)
  | .wordEnd => .word .finish (!m.unicode)
  | .wordStartHalf => .word .startHalf (!m.unicode)
  | .wordEndHalf => .word .finishHalf (!m.unicode)

mutual

/-- The expression of a tree, and the modes in force after it. -/
def Tree.resolve (m : Modes) : Tree → Except Refusal (Expr × Modes)
  | .empty => .ok (.empty, m)
  | .settings flags => .ok (.empty, m.applyAll flags)
  | .literal l => do return (← m.literal l, m)
  | .dot => do return (← m.dot, m)
  | .anchor a => .ok (.look (m.look a), m)
  | .shorthand kind negated => do
    return (.set (← m.finish negated (kind.set m.unicode)), m)
  | .property query negated => do return (.set (← m.property query negated), m)
  | .bracket negated inner => do
    let s ← inner.set m
    return (.set (← m.finish negated (m.fold s)), m)
  | .repeated body min max greedy => do
    let (e, m) ← body.resolve m
    return (.repeated e min max (greedy != m.swapGreed), m)
  | .capture body => do
    let (e, _) ← body.resolve m
    return (.capture e, m)
  | .group flags body => do
    let (e, _) ← body.resolve (m.applyAll flags)
    return (e, m)
  | .sequence parts => do
    let (es, m) ← Tree.resolveAll m parts
    return (.sequence es, m)
  | .choice branches => do
    let (es, m) ← Tree.resolveAll m branches
    return (.choice es, m)

/-- The expressions of trees one after the other, each under the modes that the one
before it leaves. -/
def Tree.resolveAll (m : Modes) : List Tree → Except Refusal (List Expr × Modes)
  | [] => .ok ([], m)
  | t :: rest => do
    let (e, m) ← t.resolve m
    let (es, m) ← Tree.resolveAll m rest
    return (e :: es, m)

end

/-- The expression that a whole text writes. -/
def Expr.read (cs : List Char) : Except Refusal Expr := do
  let tree ← Tree.read cs
  let (e, _) ← tree.resolve {}
  return e

end BuildTriage.Pattern
