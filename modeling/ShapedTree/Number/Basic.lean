namespace ShapedTree

/-- A number as values and limits hold it. -/
inductive Number where
  | nan
  | infinity (negative : Bool)
  | finite (value : Rat)
deriving DecidableEq, Repr, Inhabited

namespace Number

instance : OfNat Number n := ⟨.finite n⟩

instance : Coe Nat Number := ⟨fun n => .finite n⟩

/-- `2 ^ 53`: no other integer below it in magnitude rounds to a number of that size. -/
def exactLimit : Nat := 9007199254740992

/-- The number of an integer that needs no rounding. -/
def ofInt (n : Int) : Number := .finite n

/-- The order of numbers; the undefined number is neither below nor above anything. -/
def lt : Number → Number → Bool
  | .nan, _ | _, .nan => false
  | .infinity a, .infinity b => a && !b
  | .infinity a, .finite _ => a
  | .finite _, .infinity b => !b
  | .finite a, .finite b => decide (a < b)

/-- Equality of numbers as values; the undefined number equals nothing. -/
def same : Number → Number → Bool
  | .nan, _ | _, .nan => false
  | a, b => decide (a = b)

/-- At most: below or the same. -/
def le (a b : Number) : Bool := a.lt b || a.same b

def isFinite : Number → Bool
  | .finite _ => true
  | _ => false

def isInteger : Number → Bool
  | .finite q => q.den == 1
  | _ => false

/-- Neither zero nor undefined. -/
def isNonzero : Number → Bool
  | .nan => false
  | .infinity _ => true
  | .finite q => decide (q ≠ 0)

def neg : Number → Number
  | .nan => .nan
  | .infinity n => .infinity !n
  | .finite q => .finite (-q)

/-- The nearest integer, a half going up. -/
def roundHalfUp : Number → Number
  | .finite q => .finite ((q + 1 / 2).floor)
  | x => x

/-- The largest natural number that is at most the given number. -/
def floorNat : Number → Option Nat
  | .finite q => some q.floor.toNat
  | .infinity true => some 0
  | _ => none

end Number

end ShapedTree
