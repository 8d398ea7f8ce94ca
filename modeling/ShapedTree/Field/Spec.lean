import ShapedTree.Fault
import ShapedTree.Kwargs
import ShapedTree.Pattern.Matcher
import ShapedTree.Snapshot

namespace ShapedTree

/-- What a check says of a value. -/
inductive Verdict where
  | pass
  | fail
  | failWith (message : String)
deriving DecidableEq, Repr, Inhabited

namespace Verdict

/-- Passes where something holds; otherwise fails, with a message if there is one. -/
def ofBool (holds : Bool) (message : Option String) : Verdict :=
  if holds then .pass
  else
    match message with
    | some m => .failWith m
    | none => .fail

end Verdict

/-- An extra check of a value that its kind accepts. -/
abbrev ValueCheck := Value → Except Fault Verdict

/-- What a computed default may read: the ancestors, root first, the fields resolved so far, the
arguments, and the name of its field. -/
structure GeneratorArgs where
  stack : List NodeView
  siblings : Snapshot
  kwargs : Kwargs
  field : String

/-- A default that is computed from its surroundings. -/
abbrev Generator := GeneratorArgs → Except Fault Value

/-- The value of a field that is not supplied: a constant, the product of a factory, the product of
a factory that is told how often it was called before, or computed. A counting factory's cell names
the place of memory that counts. -/
inductive FieldDefault where
  | constant (value : Value)
  | factory (produce : Except Fault Value)
  | counting (cell : Nat) (produce : Nat → Except Fault Value)
  | computed (generate : Generator)

/-- What a field's value has to satisfy beyond its kind. -/
structure Constraints where
  min : Option Number := none
  max : Option Number := none
  minLength : Option Number := none
  maxLength : Option Number := none
  pattern : Option Pattern := none
  target : Option String := none
  choice : Option String := none
  options : Option (List String) := none
  validator : Option ValueCheck := none
  params : Option (Entries Value) := none

/-- What a field's specification holds besides the specifications of its parts. -/
structure FieldInfo where
  name : String
  kind : String
  required : Bool := true
  nullable : Bool := false
  default? : Option FieldDefault := none
  constraints : Constraints := {}
  help : String := ""
  deprecated : Option String := none
  kwargs : Option (Entries Value) := none
  omitWhenDefault : Bool := false

/-- The specification of a field. -/
inductive FieldSpec where
  | leaf (info : FieldInfo)
  | list (info : FieldInfo) (item : FieldSpec)
  | mapping (info : FieldInfo) (key value : FieldSpec)
  | either (info : FieldInfo) (primitive complex : FieldSpec)

namespace FieldSpec

def info : FieldSpec → FieldInfo
  | .leaf info | .list info _ | .mapping info _ _ | .either info _ _ => info

def name (s : FieldSpec) : String := s.info.name

def kind (s : FieldSpec) : String := s.info.kind

/-- The specifications of the parts, in the order item, key, value, primitive, complex. -/
def parts : FieldSpec → List FieldSpec
  | .leaf _ => []
  | .list _ item => [item]
  | .mapping _ key value => [key, value]
  | .either _ primitive complex => [primitive, complex]

/-- A specification and those of its parts at any depth, from the outside in. -/
def walk : FieldSpec → List FieldSpec
  | .leaf info => [.leaf info]
  | .list info item => .list info item :: item.walk
  | .mapping info key value => .mapping info key value :: (key.walk ++ value.walk)
  | .either info primitive complex =>
    .either info primitive complex :: (primitive.walk ++ complex.walk)

/-- The places of memory that the patterns of a specification and of its parts go by. -/
def patternCells (s : FieldSpec) : List Nat :=
  s.walk.filterMap fun part => part.info.constraints.pattern.map Pattern.cell

end FieldSpec

end ShapedTree
