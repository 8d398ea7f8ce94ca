import ShapedTree.Number.Basic

namespace ShapedTree

namespace Binary64

/-- The natural number nearest to `n / d`, a tie going to the even neighbour. -/
def nearestEven (n d : Nat) : Nat :=
  let q := n / d
  let r := n % d
  if 2 * r < d then q
  else if d < 2 * r then q + 1
  else if q % 2 = 0 then q else q + 1

/-- The fraction `n / d` divided by `2 ^ e`, as numerator and denominator. -/
def scaled (n d : Nat) (e : Int) : Nat × Nat :=
  if 0 ≤ e then (n, d * Nat.pow 2 e.toNat) else (n * Nat.pow 2 (-e).toNat, d)

/-- The exponent of the unit of the last place of the positive value `n / d`. -/
def unitExponent (n d : Nat) : Int :=
  let guess : Int := Nat.log2 n - Nat.log2 d - 53
  let (a, b) := scaled n d guess
  max (if b * Number.exactLimit ≤ a then guess + 1 else guess) (-1074)

/-- The value `m * 2 ^ e`. -/
def ofParts (m : Nat) (e : Int) : Rat :=
  if 0 ≤ e then ((m * Nat.pow 2 e.toNat : Nat) : Rat) else mkRat m (Nat.pow 2 (-e).toNat)

/-- The binary64 magnitude nearest to `n / d`; none where it is infinite. -/
def roundMagnitude (n d : Nat) : Option Rat :=
  if n = 0 then some 0
  else
    let e := unitExponent n d
    let (a, b) := scaled n d e
    let q := ofParts (nearestEven a b) e
    if ((Nat.pow 2 1024 : Nat) : Rat) ≤ q then none else some q

end Binary64

namespace Number

/-- The binary64 number nearest to a rational; integers up to `2 ^ 53` are kept as they are. -/
def ofRat (q : Rat) : Number :=
  if q.den = 1 ∧ q.num.natAbs ≤ exactLimit then .finite q
  else
    match Binary64.roundMagnitude q.num.natAbs q.den with
    | none => .infinity (decide (q < 0))
    | some m => .finite (if q < 0 then -m else m)

def add : Number → Number → Number
  | .nan, _ | _, .nan => .nan
  | .infinity a, .infinity b => if a = b then .infinity a else .nan
  | .infinity a, .finite _ => .infinity a
  | .finite _, .infinity b => .infinity b
  | .finite a, .finite b => ofRat (a + b)

def sub (a b : Number) : Number := a.add b.neg

def mul : Number → Number → Number
  | .nan, _ | _, .nan => .nan
  | .infinity a, .infinity b => .infinity (a != b)
  | .infinity a, .finite q | .finite q, .infinity a =>
    if q = 0 then .nan else .infinity (a != decide (q < 0))
  | .finite a, .finite b => ofRat (a * b)

instance : Add Number := ⟨add⟩
instance : Sub Number := ⟨sub⟩
instance : Mul Number := ⟨mul⟩
instance : Neg Number := ⟨neg⟩

end Number

end ShapedTree
