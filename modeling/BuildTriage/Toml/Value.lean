import BuildTriage.Json.Value

/-!
# TOML values

A TOML document is a table of values. Tables are made of lines in different places:
a header names the table to which the lines after it belong, and a dotted key names
tables on its way. How a table came to be decides whether it may be added to, so a
document in the making is a tree of nodes that remember it.
-/

namespace BuildTriage.Toml

/-- A TOML value. -/
inductive Value where
  | text (s : String)
  | whole (n : Int)
  /-- A number with a fraction or exponent, or one that is not finite. -/
  | real
  | bool (b : Bool)
  /-- A date, a time or both, as it is spelled. -/
  | moment (spelling : String)
  | list (items : List Value)
  | table (members : List (String × Value))
  deriving Inhabited, Repr

/-- How a table came to be. -/
inductive Origin where
  /-- A header names it, or it is written out. -/
  | declared
  /-- A header names a table inside it. -/
  | implied
  /-- A dotted key goes through it. -/
  | dotted
  deriving DecidableEq, Repr, Inhabited

/-- A place in a document in the making. -/
inductive Node where
  /-- A value that is complete. -/
  | leaf (v : Value)
  /-- A table that may get more members. -/
  | table (origin : Origin) (members : List (String × Node))
  /-- A list of tables, the latest first; the latest may get more members. -/
  | tables (items : List (List (String × Node)))
  deriving Inhabited

mutual

/-- The value of a finished node. -/
def Node.value : Node → Value
  | .leaf v => v
  | .table _ members => .table (Node.memberValues members)
  | .tables items => .list (Node.tableValues items).reverse

/-- The values of finished members. -/
def Node.memberValues : List (String × Node) → List (String × Value)
  | [] => []
  | (k, n) :: rest => (k, n.value) :: Node.memberValues rest

/-- The values of finished tables. -/
def Node.tableValues : List (List (String × Node)) → List Value
  | [] => []
  | t :: rest => .table (Node.memberValues t) :: Node.tableValues rest

end

/-- The node of a member. -/
def find? (key : String) (members : List (String × Node)) : Option Node := members.lookup key

/-- The members with one changed or added. -/
def put (key : String) (n : Node) : List (String × Node) → List (String × Node)
  | [] => [(key, n)]
  | (k, m) :: rest => if k = key then (k, n) :: rest else (k, m) :: put key n rest

/-- Adds a value under a dotted key to a table. A table on the way must not have been
declared, the last of them must come of dotted keys, and the value must be new. -/
def assign : List String → String → Value → List (String × Node) →
    Option (List (String × Node))
  | [], key, v, members =>
    match find? key members with
    | none => some (put key (.leaf v) members)
    | some _ => none
  | k :: path, key, v, members => do
    match (find? k members).getD (.table .dotted []) with
    | .leaf _ => none
    | .tables [] => none
    | .tables (latest :: items) =>
      if path.isEmpty then none
      else
        let latest ← assign path key v latest
        return put k (.tables (latest :: items)) members
    | .table found inner =>
      if found = .declared ∨ (path.isEmpty ∧ found ≠ .dotted) then none
      else
        let inner ← assign path key v inner
        return put k (.table found inner) members

/-- Goes down to a table, through the latest of each list of tables, and changes it;
tables that are not there yet are implied. -/
def descend (change : List (String × Node) → Option (List (String × Node))) :
    List String → List (String × Node) → Option (List (String × Node))
  | [], members => change members
  | k :: path, members => do
    match (find? k members).getD (.table .implied []) with
    | .leaf _ => none
    | .tables [] => none
    | .tables (latest :: items) =>
      let latest ← descend change path latest
      return put k (.tables (latest :: items)) members
    | .table found inner =>
      let inner ← descend change path inner
      return put k (.table found inner) members

/-- Declares a table, which must be new or only implied. -/
def declareTable (key : String) (members : List (String × Node)) :
    Option (List (String × Node)) :=
  match (find? key members).getD (.table .implied []) with
  | .table .implied inner => some (put key (.table .declared inner) members)
  | _ => none

/-- Declares one more table of a list of tables, which must be new or such a list. -/
def declareItem (key : String) (members : List (String × Node)) :
    Option (List (String × Node)) :=
  match (find? key members).getD (.tables []) with
  | .tables items => some (put key (.tables ([] :: items)) members)
  | _ => none

/-- The name under which a moment is written as a record. -/
def momentKey : String := "$__toml_private_datetime"

mutual

/-- The value as one of the stored record format; numbers keep whether they are whole
and not negative. -/
def Value.record : Value → Json.Value
  | .text s => .text s
  | .whole n => if 0 ≤ n then .nat n.toNat else .number (.spelled (toString n))
  | .real => .number (.spelled "0.0")
  | .bool b => .bool b
  | .moment s => .record [(momentKey, .text s)]
  | .list items => .list (Value.itemRecords items)
  | .table members => .record (Value.memberRecords members)

/-- The items of a list as values of the stored record format. -/
def Value.itemRecords : List Value → List Json.Value
  | [] => []
  | v :: rest => v.record :: Value.itemRecords rest

/-- The members of a table as members of a record. -/
def Value.memberRecords : List (String × Value) → List (String × Json.Value)
  | [] => []
  | (k, v) :: rest => (k, v.record) :: Value.memberRecords rest

end

end BuildTriage.Toml
