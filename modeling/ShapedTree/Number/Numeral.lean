import ShapedTree.Number.Rounding
import ShapedTree.Text.Blank

namespace ShapedTree

namespace Numeral

/-- The value of a digit in bases up to sixteen. -/
def digitValue (c : Char) : Nat :=
  if c.isDigit then c.toNat - '0'.toNat
  else if 'a' ≤ c ∧ c ≤ 'f' then c.toNat - 'a'.toNat + 10
  else if 'A' ≤ c ∧ c ≤ 'F' then c.toNat - 'A'.toNat + 10
  else 16

/-- The value of a row of digits. -/
def valueInBase (base : Nat) (ds : List Char) : Nat :=
  ds.foldl (fun n c => base * n + digitValue c) 0

/-- A sign, if there is one, and the characters behind it. -/
def takeSign : List Char → Bool × List Char
  | '-' :: cs => (true, cs)
  | '+' :: cs => (false, cs)
  | cs => (false, cs)

/-- The number `digits * 10 ^ exponent`. The digits lie between two powers of ten that are read off
their length in bits, and exponents far out of range are not computed. -/
def decimalValue (digits : Nat) (exponent : Int) : Number :=
  let low : Int := (Nat.log2 digits * 30102 / 100000 : Nat)
  let high : Int := ((Nat.log2 digits + 1) * 30104 / 100000 + 1 : Nat)
  if digits = 0 then 0
  else if 310 < low + exponent then .infinity false
  else if high + exponent < -330 then 0
  else if 0 ≤ exponent then .ofRat ((digits * Nat.pow 10 exponent.toNat : Nat) : Rat)
  else .ofRat (mkRat digits (Nat.pow 10 (-exponent).toNat))

/-- The exponent behind a decimal, zero where there is none. -/
def exponent? : List Char → Option Int
  | [] => some 0
  | c :: cs =>
    let (negative, ds) := takeSign cs
    if (c = 'e' ∨ c = 'E') ∧ ds ≠ [] ∧ ds.all Char.isDigit then
      let n : Int := valueInBase 10 ds
      some (if negative then -n else n)
    else none

/-- An unsigned decimal with an optional fraction and exponent. -/
def decimal? (cs : List Char) : Option Number :=
  let (whole, rest) := cs.span Char.isDigit
  let (fraction, rest) := match rest with
    | '.' :: more => more.span Char.isDigit
    | rest => ([], rest)
  if whole = [] ∧ fraction = [] then none
  else (exponent? rest).map fun e =>
    decimalValue (valueInBase 10 (whole ++ fraction)) (e - fraction.length)

/-- An integer in the given base, of at least one digit. -/
def based? (base : Nat) (ds : List Char) : Option Number :=
  if ds ≠ [] ∧ ds.all (fun c => digitValue c < base) then
    some (.ofRat (valueInBase base ds : Nat))
  else none

/-- The number that trimmed characters spell. -/
def trimmed? : List Char → Option Number
  | [] => some 0
  | '0' :: 'x' :: ds | '0' :: 'X' :: ds => based? 16 ds
  | '0' :: 'o' :: ds | '0' :: 'O' :: ds => based? 8 ds
  | '0' :: 'b' :: ds | '0' :: 'B' :: ds => based? 2 ds
  | cs =>
    let (negative, body) := takeSign cs
    let value := if body = "Infinity".toList then some (.infinity false) else decimal? body
    value.map fun n => if negative then n.neg else n

/-- The number that a text spells, if it spells one. -/
def number? (s : String) : Option Number := trimmed? (Text.trimBlanks s.toList)

/-- The integer that characters spell as an optional sign and decimal digits. -/
def integerOf? (cs : List Char) : Option Int :=
  let (negative, ds) := takeSign cs
  if ds ≠ [] ∧ ds.all Char.isDigit then
    let n : Int := valueInBase 10 ds
    some (if negative then -n else n)
  else none

/-- The integer that a text spells between blanks. -/
def integer? (s : String) : Option Int := integerOf? (Text.trimBlanks s.toList)

end Numeral

end ShapedTree
