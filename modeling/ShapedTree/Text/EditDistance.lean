import ShapedTree.Text.Units

namespace ShapedTree

namespace EditDistance

/-- The cells behind the first one of the next row. `corner` and `above` are the neighbours in the
row before, `left` the cell just written. -/
def cells (l : Nat) : (corner left : Nat) → List Nat → List Nat → List Nat
  | corner, left, r :: right, above :: row =>
    let cell := min (left + 1) (min (above + 1) (corner + if l = r then 0 else 1))
    cell :: cells l above cell right row
  | _, _, _, _ => []

/-- The row of a beginning that is one unit longer. -/
def nextRow (l : Nat) (right : List Nat) : List Nat → List Nat
  | [] => []
  | corner :: row => (corner + 1) :: cells l corner (corner + 1) right row

/-- The distance of two rows of units. -/
def ofUnits (left right : List Nat) : Nat :=
  let start := List.range (right.length + 1)
  let last := left.foldl (fun row l => nextRow l right row) start
  last.getLastD 0

end EditDistance

def editDistance (left right : String) : Nat :=
  EditDistance.ofUnits (Text.units left) (Text.units right)

end ShapedTree
