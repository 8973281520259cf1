import BuildTriage.KnowledgeBase.Basic
import Mathlib.Data.Finset.Sort
import Mathlib.Data.List.Sort
import Mathlib.Data.String.Basic

/-!
# The catalog that every knowledge base keeps

A catalog is a list of causes with distinct ids, in the order in which they were added. It
says what each request to a knowledge base changes and answers, with nothing of how and
where causes are kept. Requests that add a cause under an id in use are not part of it.
-/

namespace BuildTriage

/-- A request to a knowledge base. Adding and saving have a fresh id at hand. -/
inductive Request where
  | add (fresh : String) (cause : FailureCause)
  | save (fresh : String) (cause : FailureCause)
  | remove (id : String) (stone : Tombstone)
  | lastSeen (ids : List String) (time : UInt64)
  | get (id : String)
  | causes
  | names
  | shallow
  | categories

/-- What a request is answered with. -/
inductive Answer where
  | cause (c : FailureCause)
  | found (c : Option FailureCause)
  | done
  | causes (cs : List FailureCause)
  | names (ns : List CauseName)
  | shallow (ss : List ShallowCause)
  | categories (cs : List String)
  deriving DecidableEq

/-- A request is answered, or fails. -/
abbrev Reply := Except KnowledgeBaseError Answer

/-- Causes with distinct ids, in order. -/
structure Catalog where
  /-- The causes, removed ones too. -/
  causes : List FailureCause
  /-- No two of them have the same id. -/
  distinct : (causes.map (·.id)).Nodup

namespace Catalog

/-- A catalog without causes. -/
def empty : Catalog := ⟨[], List.nodup_nil⟩

/-- The ids in use. -/
def ids (cat : Catalog) : List String := cat.causes.map (·.id)

/-- The cause under which a new one is entered: it gets the fresh id if it has none. -/
def entry (fresh : String) (cause : FailureCause) : FailureCause :=
  if cause.id = "" then { cause with id := fresh } else cause

/-- The catalog with a cause at its end. -/
def append (cat : Catalog) (cause : FailureCause) (h : cause.id ∉ cat.ids) : Catalog where
  causes := cat.causes ++ [cause]
  distinct := by
    rw [List.map_append, List.nodup_append]
    refine ⟨cat.distinct, by simp, ?_⟩
    rintro id hid other hother rfl
    rw [List.map_singleton, List.mem_singleton] at hother
    exact h (hother ▸ hid)

/-- The catalog with some causes changed, which keep their ids. -/
def adjust (cat : Catalog) (f : FailureCause → FailureCause) (h : ∀ c, (f c).id = c.id) :
    Catalog where
  causes := cat.causes.map f
  distinct := by
    have hids : (cat.causes.map f).map (·.id) = cat.causes.map (·.id) := by
      rw [List.map_map]
      exact List.map_congr_left fun c _ => h c
    rw [hids]
    exact cat.distinct

/-- A cause takes the place of the one of its id. -/
def replacement (cause c : FailureCause) : FailureCause := if c.id = cause.id then cause else c

/-- The cause of an id gets a tombstone, and nothing else changes. -/
def burial (id : String) (stone : Tombstone) (c : FailureCause) : FailureCause :=
  if c.id = id then { c with removed := some stone } else c

/-- The causes of some ids were last seen at the given time, or later. -/
def sighting (ids : List String) (time : UInt64) (c : FailureCause) : FailureCause :=
  if c.id ∈ ids then
    { c with lastOccurred := some (match c.lastOccurred with
      | some last => max last time
      | none => time) }
  else c

/-- Enters a cause under an id that is not in use. -/
def add (cat : Catalog) (cause : FailureCause) : Catalog :=
  if h : cause.id ∈ cat.ids then cat else cat.append cause h

/-- Replaces the cause of that id in its place, or enters it. -/
def save (cat : Catalog) (cause : FailureCause) : Catalog :=
  if h : cause.id ∈ cat.ids then
    cat.adjust (replacement cause) fun c => by
      unfold replacement
      split
      · next he => exact he.symm
      · rfl
  else cat.append cause h

/-- Puts a tombstone on the cause of an id. -/
def remove (cat : Catalog) (id : String) (stone : Tombstone) : Catalog :=
  cat.adjust (burial id stone) fun c => by unfold burial; split <;> rfl

/-- Moves the last occurrence of the causes of some ids forward to a time. -/
def lastSeen (cat : Catalog) (ids : List String) (time : UInt64) : Catalog :=
  cat.adjust (sighting ids time) fun c => by unfold sighting; split <;> rfl

/-- The cause of an id, removed or not. -/
def get (cat : Catalog) (id : String) : Option FailureCause :=
  cat.causes.find? fun c => decide (c.id = id)

/-- The causes that are not removed, in order. -/
def live (cat : Catalog) : List FailureCause := cat.causes.filter fun c => c.removed.isNone

/-- The live causes in the order of their names in lower case, those of one name in the
order of the catalog. -/
def byName (cat : Catalog) : List FailureCause :=
  cat.live.insertionSort fun a b => Text.lowercase a.name ≤ Text.lowercase b.name

/-- The categories of the live causes, in strictly increasing order. -/
def categories (cat : Catalog) : List String :=
  (cat.live.flatMap (·.categories)).toFinset.sort

/-- What a request changes, and how it is answered. A cause whose name is blank is refused. -/
def perform (cat : Catalog) : Request → Reply × Catalog
  | .add fresh cause =>
    if Text.allBlank cause.name then (.error (.cause .emptyName), cat)
    else (.ok (.cause (entry fresh cause)), cat.add (entry fresh cause))
  | .save fresh cause =>
    if Text.allBlank cause.name then (.error (.cause .emptyName), cat)
    else if cause.id = "" then
      (.ok (.cause (entry fresh cause)), cat.add (entry fresh cause))
    else (.ok (.cause cause), cat.save cause)
  | .remove id stone => (.ok (.found ((cat.remove id stone).get id)), cat.remove id stone)
  | .lastSeen ids time => (.ok .done, cat.lastSeen ids time)
  | .get id => (.ok (.found (cat.get id)), cat)
  | .causes => (.ok (.causes cat.live), cat)
  | .names => (.ok (.names (cat.live.map fun c => ⟨c.id, c.name⟩)), cat)
  | .shallow =>
    (.ok (.shallow (cat.byName.map fun c => ⟨c.id, c.name, c.description, c.categories⟩)), cat)
  | .categories => (.ok (.categories cat.categories), cat)

/-- The replies to some requests, made one after the other. -/
def replies : Catalog → List Request → List Reply
  | _, [] => []
  | cat, r :: rest => (cat.perform r).1 :: (cat.perform r).2.replies rest

/-- The cause was not seen at a time beyond the signed numbers of 64 bits. -/
def Timely (cause : FailureCause) : Prop := ∀ t, cause.lastOccurred = some t → t.toNat < 2 ^ 63

instance (cause : FailureCause) : Decidable (Timely cause) :=
  decidable_of_iff ((cause.lastOccurred.all fun t => decide (t.toNat < 2 ^ 63)) = true) <| by
    unfold Timely
    cases cause.lastOccurred <;> simp

/-- A request that adds no cause under an id in use, and has times below 2^63. -/
def Admits (cat : Catalog) : Request → Prop
  | .add fresh cause => (entry fresh cause).id ∉ cat.ids ∧ Timely cause
  | .save fresh cause => (cause.id = "" → fresh ∉ cat.ids) ∧ Timely cause
  | .lastSeen _ time => time.toNat < 2 ^ 63
  | _ => True

instance (cat : Catalog) : (request : Request) → Decidable (cat.Admits request)
  | .add fresh cause =>
    inferInstanceAs (Decidable ((entry fresh cause).id ∉ cat.ids ∧ Timely cause))
  | .save fresh cause =>
    inferInstanceAs (Decidable ((cause.id = "" → fresh ∉ cat.ids) ∧ Timely cause))
  | .lastSeen _ time => inferInstanceAs (Decidable (time.toNat < 2 ^ 63))
  | .remove _ _ | .get _ | .causes | .names | .shallow | .categories =>
    inferInstanceAs (Decidable True)

/-- A request that adds no cause under an id in use, and sees causes at a time below 2^63. -/
def Accepts (cat : Catalog) : Request → Prop
  | .add fresh cause => (entry fresh cause).id ∉ cat.ids
  | .save fresh cause => cause.id = "" → fresh ∉ cat.ids
  | .lastSeen _ time => time.toNat < 2 ^ 63
  | _ => True

/-- What is admitted is accepted. -/
theorem Admits.accepts {cat : Catalog} {request : Request} (h : cat.Admits request) :
    cat.Accepts request := by
  cases request with
  | add fresh cause => exact h.1
  | save fresh cause => exact h.1
  | lastSeen ids time => exact h
  | remove | get | causes | names | shallow | categories => trivial

/-- Each of some requests is admitted when its turn comes. -/
def AdmitsAll : Catalog → List Request → Prop
  | _, [] => True
  | cat, r :: rest => cat.Admits r ∧ (cat.perform r).2.AdmitsAll rest

instance decidableAdmitsAll :
    (cat : Catalog) → (requests : List Request) → Decidable (cat.AdmitsAll requests)
  | _, [] => inferInstanceAs (Decidable True)
  | cat, r :: rest =>
    have := decidableAdmitsAll (cat.perform r).2 rest
    inferInstanceAs (Decidable (cat.Admits r ∧ (cat.perform r).2.AdmitsAll rest))

end Catalog

namespace KnowledgeBase

/-- Makes a request to a knowledge base. -/
def perform : Request → Op KnowledgeBase Answer
  | .add fresh cause => .cause <$> add fresh cause
  | .save fresh cause => .cause <$> save fresh cause
  | .remove id stone => .found <$> remove id stone
  | .lastSeen ids time => (fun _ => .done) <$> lastSeen ids time
  | .get id => .found <$> getCause id
  | .causes => .causes <$> causes
  | .names => .names <$> names
  | .shallow => .shallow <$> shallow
  | .categories => .categories <$> categories

/-- The replies to some requests, made one after the other; one that fails is followed by
the next. -/
def replies : KnowledgeBase → List Request → List Reply
  | _, [] => []
  | k, r :: rest =>
    match perform r k with
    | .ok a k => .ok a :: k.replies rest
    | .error e k => .error e :: k.replies rest

end KnowledgeBase

end BuildTriage
