import ShapedTree.Snapshot
import ShapedTree.Value.Serialized

namespace ShapedTree

/-- A node under construction, its values in the order in which they were first set. -/
structure Draft where
  schema : String
  values : List (String × Value) := []
  defaulted : List String := []
deriving Inhabited

namespace Draft

def get? (d : Draft) (field : String) : Option Value := d.values.lookup field

def has (d : Draft) (field : String) : Bool := Entries.has d.values field

def isDefaulted (d : Draft) (field : String) : Bool := d.defaulted.contains field

/-- Set a field and mark whether its value came from a default. -/
def set (d : Draft) (field : String) (value : Value) (defaulted : Bool) : Draft :=
  { d with
    values := Entries.put d.values field value
    defaulted :=
      if defaulted then (if d.isDefaulted field then d.defaulted else d.defaulted ++ [field])
      else d.defaulted.filter (· ≠ field) }

/-- What the draft shows to descendants. -/
def view (d : Draft) : NodeView := ⟨d.schema, d.values⟩

def value? (d : Draft) (field : String) : Option Value :=
  match d.get? field with
  | some v => if v.isUndefined then none else some v
  | none => none

/-- The values of the given fields in their order. -/
def entries (d : Draft) (fields : List String) : List (String × Value) :=
  fields.filterMap fun f => (d.value? f).map fun v => (f, v)

/-- What the draft shows of the given fields to checks and generators. -/
def snapshot (d : Draft) (fields : List String) : Snapshot := .ofList (d.entries fields)

/-- The node with the given fields in their order. -/
def finish (d : Draft) (order : List String) (choiceType : Option String)
    (compactable : List String) : Node :=
  NodeOf.make d.schema (d.entries order) (order.filter d.isDefaulted) choiceType compactable

end Draft

end ShapedTree
