import ShapedTree.Number.Rounding

namespace ShapedTree

namespace Decimal

def digits (n : Nat) : List Char := Nat.toDigits 10 n

/-- The text of an integer: its digits behind a minus sign where it is negative. -/
def integerText (n : Int) : String :=
  if n < 0 then String.ofList ('-' :: digits n.natAbs) else String.ofList (digits n.natAbs)

/-- The number of digits before the point of the positive value `n / d`: the least `p` with
`n / d < 10 ^ p`. -/
def magnitude (n d : Nat) : Int :=
  if d ≤ n then (digits (n / d)).length
  else
    let k := (digits (d / n)).length
    if n * Nat.pow 10 (k - 1) = d then 2 - (k : Int) else 1 - (k : Int)

/-- One step of the search: a decimal `c * 10 ^ g` within the values that round to `m * 2 ^ e`,
the nearer one of the two neighbours of `m * 2 ^ e` on that grid. -/
def onGrid? (m : Nat) (e g : Int) : Option Nat :=
  -- At a power of two the values below are twice as close.
  let low := if m = Nat.pow 2 52 ∧ -1074 < e then 4 * m - 1 else 4 * m - 2
  let high := 4 * m + 2
  let x := Nat.pow 2 (e - 2).toNat * Nat.pow 10 (-g).toNat
  let y := Nat.pow 2 (2 - e).toNat * Nat.pow 10 g.toNat
  let within (c : Nat) : Bool :=
    -- The bounds themselves round to an even mantissa.
    if m % 2 = 0 then low * x ≤ c * y && c * y ≤ high * x
    else low * x < c * y && c * y < high * x
  let value := 4 * m * x
  let below := value / y
  let above := below + 1
  match within below, within above with
  | false, false => none
  | true, false => some below
  | false, true => some above
  | true, true =>
    let down := value - below * y
    let up := above * y - value
    if down < up then some below
    else if up < down then some above
    else if below % 2 = 0 then some below else some above

/-- The first grid, from `count` digits on, with a decimal that reads back as `m * 2 ^ e`. -/
def search (m : Nat) (e p : Int) : Nat → Nat → Nat × Int
  | 0, count => (4 * m, p - count)
  | tries + 1, count =>
    match onGrid? m e (p - count) with
    | some c => (c, p - count)
    | none => search m e p tries (count + 1)

/-- A decimal without zeros at its end. -/
def trimZeros : Nat → Nat → Int → Nat × Int
  | 0, c, g => (c, g)
  | n + 1, c, g => if c % 10 = 0 then trimZeros n (c / 10) (g + 1) else (c, g)

/-- The shortest decimal `c * 10 ^ g` that reads back as the positive value `n / d`. -/
def shortest (n d : Nat) : Nat × Int :=
  let e := Binary64.unitExponent n d
  let (a, b) := Binary64.scaled n d e
  let (c, g) := search (a / b) e (magnitude n d) 17 1
  trimZeros 20 c g

/-- The layout of the decimal with digits `ds` and `point` digits before the point. -/
def layout (ds : List Char) (point : Int) : List Char :=
  let k : Int := ds.length
  if k ≤ point ∧ point ≤ 21 then ds ++ List.replicate (point - k).toNat '0'
  else if 0 < point ∧ point ≤ 21 then ds.take point.toNat ++ '.' :: ds.drop point.toNat
  else if -6 < point ∧ point ≤ 0 then '0' :: '.' :: List.replicate (-point).toNat '0' ++ ds
  else
    let exponent := point - 1
    let sign := if exponent < 0 then '-' else '+'
    let mantissa := match ds with
      | [] => []
      | [c] => [c]
      | c :: rest => c :: '.' :: rest
    mantissa ++ 'e' :: sign :: digits exponent.natAbs

end Decimal

namespace Number

/-- The text of a number. -/
def text : Number → String
  | .nan => "NaN"
  | .infinity negative => if negative then "-Infinity" else "Infinity"
  | .finite q =>
    if q.den = 1 ∧ q.num.natAbs ≤ exactLimit then Decimal.integerText q.num
    else
      let (c, g) := Decimal.shortest q.num.natAbs q.den
      let ds := Decimal.digits c
      let body := Decimal.layout ds (ds.length + g)
      String.ofList (if q < 0 then '-' :: body else body)

end Number

end ShapedTree
