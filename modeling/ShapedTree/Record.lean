import ShapedTree.Number.Numeral
import ShapedTree.Text.Units

namespace ShapedTree

/-- Values by name. -/
abbrev Entries (α : Type) := List (String × α)

namespace Entries

variable {α : Type}

def has (es : Entries α) (key : String) : Bool := es.any fun e => e.1 == key

def keys (es : Entries α) : List String := es.map Prod.fst

/-- Another value at the place of a name that has an entry. -/
def replace (es : Entries α) (key : String) (value : α) : Entries α :=
  es.map fun e => if e.1 = key then (e.1, value) else e

/-- A name keeps its first place and takes its last value. -/
def put (es : Entries α) (key : String) (value : α) : Entries α :=
  if es.has key then es.replace key value else es ++ [(key, value)]

/-- Entries put one after another. -/
def ofList (es : List (String × α)) : Entries α := es.foldl (fun m e => put m e.1 e.2) []

end Entries

namespace Record

variable {α : Type}

/-- The largest array index. -/
def largestIndex : Nat := 4294967294

/-- The array index that a key spells without leading zeros. -/
def index? (key : String) : Option Nat :=
  match key.toList with
  | [] => none
  | c :: cs =>
    if (c :: cs).all Char.isDigit ∧ (c ≠ '0' ∨ cs = []) ∧ cs.length < 10 then
      let n := Numeral.valueInBase 10 (c :: cs)
      if n ≤ largestIndex then some n else none
    else none

/-- A key goes before another one in the enumeration, whichever came first. -/
def precedes (index : Nat) (key : String) : Bool :=
  match index? key with
  | some other => index < other
  | none => true

/-- An entry with an array index goes behind the smaller indices. -/
def insertIndex (index : Nat) (key : String) (value : α) : Entries α → Entries α
  | [] => [(key, value)]
  | e :: es =>
    if precedes index e.1 then (key, value) :: e :: es else e :: insertIndex index key value es

/-- A key keeps its place and takes its last value; a new one is enumerated where it belongs. -/
def insert (es : Entries α) (key : String) (value : α) : Entries α :=
  if es.has key then es.replace key value
  else
    match index? key with
    | some index => insertIndex index key value es
    | none => es ++ [(key, value)]

/-- Entries inserted one after another. -/
def merge (base overrides : Entries α) : Entries α :=
  overrides.foldl (fun m e => insert m e.1 e.2) base

/-- The record of a list of entries. -/
def ofList (es : List (String × α)) : Entries α := merge [] es

/-- A record built by plain assignment: an entry called `__proto__` does not become a key. -/
def assigned (es : List (String × α)) : Entries α := ofList (es.filter fun e => e.1 != "__proto__")

end Record

end ShapedTree
