namespace ShapedTree

namespace Text

def unitsOfChar (c : Char) : List Nat :=
  if c.toNat < 0x10000 then [c.toNat]
  else [0xD800 + (c.toNat - 0x10000) / 0x400, 0xDC00 + (c.toNat - 0x10000) % 0x400]

/-- The units of a text. -/
def units (s : String) : List Nat := s.toList.flatMap unitsOfChar

/-- The length of a text in units. -/
def size (s : String) : Nat := s.toList.foldl (fun n c => n + (unitsOfChar c).length) 0

/-- The first unit of a pair. -/
def isHighUnit (u : Nat) : Bool := 0xD800 ≤ u && u ≤ 0xDBFF

/-- The second unit of a pair. -/
def isLowUnit (u : Nat) : Bool := 0xDC00 ≤ u && u ≤ 0xDFFF

/-- The code point of a pair of units. -/
def pairCode (high low : Nat) : Nat := (high - 0xD800) * 0x400 + (low - 0xDC00) + 0x10000

/-- The order of unit rows: the first difference decides, and a beginning comes first. -/
def compareUnits : List Nat → List Nat → Ordering
  | [], [] => .eq
  | [], _ :: _ => .lt
  | _ :: _, [] => .gt
  | a :: as, b :: bs => (compare a b).then (compareUnits as bs)

/-- The order of texts by units. -/
def compareByUnits (a b : String) : Ordering := compareUnits (units a) (units b)

/-- Not after in the order by units. -/
def unitsLE (a b : String) : Bool := compareByUnits a b != .gt

/-- Texts in the order of their units. -/
def sortByUnits (ss : List String) : List String := ss.mergeSort unitsLE

end Text

end ShapedTree
