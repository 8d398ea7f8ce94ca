namespace ShapedTree

namespace Table

/-- One more character of a table: the numbers read so far, the sign and the digits of the next
one. -/
def step : List Int × Bool × Option Nat → Char → List Int × Bool × Option Nat
  | (done, negative, pending), c =>
    if c = '-' then (done, true, pending)
    else if c.isDigit then (done, negative, some (pending.getD 0 * 10 + (c.toNat - '0'.toNat)))
    else
      match pending with
      | none => (done, negative, none)
      | some n => ((if negative then -(n : Int) else n) :: done, false, none)

/-- The numbers of a table in their order. -/
def numbers (lines : List String) : List Int :=
  (lines.foldl (fun state line => (line.push ' ').foldl step state) ([], false, none)).1.reverse

def pairs : List Int → List (Nat × Nat)
  | a :: b :: rest => (a.toNat, b.toNat) :: pairs rest
  | _ => []

def triples : List Int → List (Nat × Nat × Nat)
  | a :: b :: c :: rest => (a.toNat, b.toNat, c.toNat) :: triples rest
  | _ => []

/-- Numbers in rows of three counts and a distance. -/
def rows : List Int → List (Nat × Nat × Nat × Int)
  | a :: b :: c :: d :: rest => (a.toNat, b.toNat, c.toNat, d) :: rows rest
  | _ => []

end Table

end ShapedTree
