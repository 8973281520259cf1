import BuildTriage.Charset.Basic

/-!
# The written form of a pattern

A tree has a node for each part of a pattern as it is written: flags are still
unresolved, classes are expressions over their items, and a sequence or choice of
one part is that part. The depth of a tree counts the nodes that hold others.
-/

namespace BuildTriage.Pattern

/-- A switch of the pattern language. -/
inductive Flag where
  | ignoreCase
  | multiLine
  | dotAll
  | swapGreed
  | unicode
  | crlf
  | verbose
  deriving DecidableEq, Repr

/-- A flag with the value it is given. -/
abbrev Setting := Flag × Bool

/-- A condition on the place between two characters. -/
inductive Anchor where
  | lineStart
  | lineEnd
  | textStart
  | textEnd
  | wordBoundary
  | notWordBoundary
  | wordStart
  | wordEnd
  | wordStartHalf
  | wordEndHalf
  deriving DecidableEq, Repr

/-- A class that has a letter of its own. -/
inductive Shorthand where
  | digit
  | space
  | word
  deriving DecidableEq, Repr

/-- What a class of the character database is asked for by. -/
inductive PropertyQuery where
  /-- A single name. -/
  | name (name : String)
  /-- A property and its value. -/
  | value (property value : String)
  deriving DecidableEq, Repr

/-- A character as written; `byte` when two hexadecimal digits name it, so that it
stands for a byte where characters are not looked at. -/
structure Literal where
  /-- The character. -/
  char : Char
  /-- Two hexadecimal digits name it. -/
  byte : Bool := false
  deriving DecidableEq, Repr

/-- How the two sides of a class operator are joined. -/
inductive ClassOp where
  | intersection
  | difference
  | symmetricDifference
  deriving DecidableEq, Repr

/-- The inside of a bracketed class. -/
inductive ClassTree where
  | empty
  | literal (l : Literal)
  | range (first last : Literal)
  /-- A named set of ASCII characters. -/
  | ascii (set : Charset) (negated : Bool)
  | shorthand (kind : Shorthand) (negated : Bool)
  | property (query : PropertyQuery) (negated : Bool)
  | bracket (negated : Bool) (inner : ClassTree)
  | union (items : List ClassTree)
  | op (kind : ClassOp) (left right : ClassTree)
  deriving Repr, Inhabited

/-- A pattern as written. -/
inductive Tree where
  | empty
  /-- Flags that hold for the rest of the group. -/
  | settings (flags : List Setting)
  | literal (l : Literal)
  | dot
  | anchor (a : Anchor)
  | shorthand (kind : Shorthand) (negated : Bool)
  | property (query : PropertyQuery) (negated : Bool)
  | bracket (negated : Bool) (inner : ClassTree)
  | repeated (body : Tree) (min : Nat) (max : Option Nat) (greedy : Bool)
  /-- A group that captures. -/
  | capture (body : Tree)
  /-- A group that does not capture, with flags of its own. -/
  | group (flags : List Setting) (body : Tree)
  | sequence (parts : List Tree)
  | choice (branches : List Tree)
  deriving Repr, Inhabited

/-- The class of some items. -/
def ClassTree.ofItems : List ClassTree → ClassTree
  | [] => .empty
  | [item] => item
  | items => .union items

/-- The pattern of some parts in a row. -/
def Tree.ofParts : List Tree → Tree
  | [] => .empty
  | [part] => part
  | parts => .sequence parts

mutual

/-- The number of nested nodes of a class. -/
def ClassTree.depth : ClassTree → Nat
  | .bracket _ inner => inner.depth + 1
  | .union items => ClassTree.depths items + 1
  | .op _ left right => max left.depth right.depth + 1
  | _ => 0

/-- The largest depth of some classes. -/
def ClassTree.depths : List ClassTree → Nat
  | [] => 0
  | t :: rest => max t.depth (ClassTree.depths rest)

end

mutual

/-- The number of nested nodes of a pattern. -/
def Tree.depth : Tree → Nat
  | .bracket _ inner => inner.depth + 1
  | .repeated body _ _ _ => body.depth + 1
  | .capture body => body.depth + 1
  | .group _ body => body.depth + 1
  | .sequence parts => Tree.depths parts + 1
  | .choice branches => Tree.depths branches + 1
  | _ => 0

/-- The largest depth of some patterns. -/
def Tree.depths : List Tree → Nat
  | [] => 0
  | t :: rest => max t.depth (Tree.depths rest)

end

end BuildTriage.Pattern
