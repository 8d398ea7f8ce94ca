import ShapedTree.Text.Collation
import ShapedTree.Text.EditDistance
import ShapedTree.Text.LetterCase

namespace ShapedTree

namespace Suggestion

/-- The distance of two names, letter case aside. -/
def distance (value candidate : String) : Nat :=
  editDistance (LetterCase.lowerText value) (LetterCase.lowerText candidate)

/-- The largest distance at which a candidate is still close: half the length of the name, between
one and three. -/
def limit (value : String) : Nat := min 3 (max 1 (Text.size value / 2))

/-- A candidate with its distance comes before another one. -/
def better (a b : String × Nat) : Bool :=
  a.2 < b.2 || (a.2 == b.2 && Collation.compare a.1 b.1 == .lt)

/-- The better of the best candidate so far and the next one. -/
def further (value : String) (best : Option (String × Nat)) (candidate : String) :
    Option (String × Nat) :=
  let next := (candidate, distance value candidate)
  match best with
  | none => some next
  | some b => some (if better next b then next else b)

/-- The best candidate; of equal ones the earliest. -/
def best? (value : String) (candidates : List String) : Option (String × Nat) :=
  candidates.foldl (further value) none

end Suggestion

/-- The candidate closest to a name, if one is close enough. -/
def closestMatch (value : String) (candidates : List String) : Option String :=
  match Suggestion.best? value candidates with
  | none => none
  | some (candidate, distance) =>
    if distance ≤ Suggestion.limit value then some candidate else none

/-- The question that offers the closest candidate. -/
def didYouMean (value : String) (candidates : List String) : Option String :=
  (closestMatch value candidates).map fun candidate => s!"Did you mean '{candidate}'?"

end ShapedTree
