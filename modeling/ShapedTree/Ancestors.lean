import ShapedTree.Field.Spec
import ShapedTree.Value.Json

namespace ShapedTree

/-- The closest ancestor. -/
def parentOf {α : Type} (stack : List α) : Option α := stack.getLast?

/-- The closest ancestor of a schema, where the schema of an ancestor is known. -/
def nearestBy {α : Type} (schemaOf : α → String) (stack : List α) (schema : String) : Option α :=
  stack.reverse.find? fun a => schemaOf a == schema

def nearest (stack : List NodeView) (schema : String) : Option NodeView :=
  nearestBy NodeView.schema stack schema

namespace Generator

/-- The value of the parent's field: mapped, or copied where it is plain data. The fallback stands
in at the root and where the parent lacks the field. -/
def fromParent (field : String) (map : Option (Value → Except Fault Value)) (fallback : Value) :
    Generator := fun args =>
  match (parentOf args.stack).bind (·.get? field) with
  | none | some .undefined => .ok fallback
  | some v =>
    match map with
    | some f => f v
    | none => .ok (if v.isJson then v else fallback)

/-- The argument of a name, or the fallback where it is absent or no plain data. -/
def fromKwarg (key : String) (fallback : Value) : Generator := fun args =>
  match args.kwargs.get? key with
  | none => .ok fallback
  | some v => .ok (if v.isJson then v else fallback)

/-- One more than the number in the parent's field; the root's number without such a parent. -/
def depthFrom (field : String) (root : Number) : Generator := fun args =>
  match (parentOf args.stack).bind (·.get? field) with
  | some (.number n) => .ok (.number (n + 1))
  | _ => .ok (.number root)

end Generator

end ShapedTree
