import ShapedTree.Value.Basic

namespace ShapedTree

/-- Where a snapshot looks for names that it has no entry for: with all records, in an object, or
nowhere. -/
inductive Heritage where
  | common
  | object (value : Value)
  | nowhere
deriving Inhabited

/-- The name by which a record reaches its heritage. -/
def heritageName : String := "__proto__"

namespace Heritage

/-- What all records share is among the heritage. -/
def isCommon : Heritage → Bool
  | .common => true
  | .object (.record _ plain) => plain
  | .object _ => true
  | .nowhere => false

/-- The value that an inherited name leads to. What all records share holds no values but itself. -/
def get? (h : Heritage) (name : String) : Option Value :=
  match h with
  | .nowhere => none
  | .common => if name = heritageName then some (.record [] false) else none
  | .object v =>
    (v.part? name).or (if name = heritageName ∧ h.isCommon then some v else none)

end Heritage

/-- A record of values by field, and what it inherits. -/
structure Snapshot where
  entries : Entries Value := []
  heritage : Heritage := .common
deriving Inhabited

namespace Snapshot

/-- A field takes a value. -/
def assign (s : Snapshot) (field : String) (value : Value) : Snapshot :=
  if field = heritageName ∧ s.heritage.isCommon then
    if value.isNull then { s with heritage := .nowhere }
    else if value.isObject then { s with heritage := .object value }
    else s
  else { s with entries := Record.insert s.entries field value }

/-- Fields take their values one after another. -/
def ofList (es : List (String × Value)) : Snapshot := es.foldl (fun s e => s.assign e.1 e.2) {}

/-- A field has an entry of its own. -/
def has (s : Snapshot) (field : String) : Bool := Entries.has s.entries field

/-- The value that a name leads to, an entry or inherited. -/
def get? (s : Snapshot) (name : String) : Option Value :=
  (s.entries.lookup name).or (s.heritage.get? name)

end Snapshot

end ShapedTree
