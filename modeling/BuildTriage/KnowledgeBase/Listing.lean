import BuildTriage.Cause
import BuildTriage.Text.Lowercase

/-!
# Listings of causes

All listings are made of the list of live causes: their names in that order, what a list
shows of them in the order of their names, and the categories that they belong to.
-/

namespace BuildTriage

/-- The live causes among some. -/
def liveCauses (causes : List FailureCause) : List FailureCause := causes.filter (!·.isRemoved)

/-- Puts a text in its place in a strictly increasing list, unless it is there. -/
def insertDistinct (s : String) : List String → List String
  | [] => [s]
  | t :: rest =>
    if s < t then s :: t :: rest
    else if s = t then t :: rest
    else t :: insertDistinct s rest

/-- The distinct categories of the live causes among some, in increasing order. -/
def categoriesOf (causes : List FailureCause) : List String :=
  ((liveCauses causes).flatMap (·.categories)).foldr insertDistinct []

/-- The ids and names of some causes. -/
def namesOf (causes : List FailureCause) : List CauseName := causes.map FailureCause.nameOnly

/-- What a list shows of some causes: they are sorted by their names in lower case, and
those of one name stay in order. -/
def shallowOf (causes : List FailureCause) : List ShallowCause :=
  let keyed := causes.map fun c => (Text.lowercase c.name, c.shallow)
  (keyed.mergeSort fun a b => decide (a.1 ≤ b.1)).map (·.2)

end BuildTriage
