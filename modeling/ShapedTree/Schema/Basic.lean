import ShapedTree.Field.Builder
import ShapedTree.Text.Split
import ShapedTree.Value.Preview
import ShapedTree.Value.Serialized

namespace ShapedTree

/-- Membership in a choice group under a type. -/
structure Membership where
  group : String
  type : String
deriving DecidableEq, Repr, Inhabited

/-- A way to write a node as something other than a record: the value of a field, expanded into a
record. -/
structure Shortform where
  field : FieldSpec
  expand : Value → Except Fault (Entries Value)

namespace Shortform

/-- Expands a value into fixed entries and a field that takes it. -/
def intoField (first : Entries Value) (field : String) (value : Value) :
    Except Fault (Entries Value) :=
  .ok (Record.insert (Record.ofList first) field (value.serialize .none))

/-- Expands the parts of a value's plain text into fields, as far as there are both. -/
def intoParts (separator : String) (fields : List String) (value : Value) :
    Except Fault (Entries Value) := do
  let parts := Text.parts separator (← value.plainText)
  return Record.ofList (fields.zip (parts.map Value.text))

end Shortform

/-- What a node's check may read. -/
structure NodeCheckArgs where
  values : Snapshot
  stack : List NodeView
  kwargs : Kwargs

/-- A check of a whole node. -/
abbrev NodeCheck := NodeCheckArgs → Except Fault Verdict

/-- What a schema says besides its fields. Keys in `dropFields` are accepted and dropped; arguments
in `requires` have to be given. -/
structure SchemaInfo where
  title : Option String := none
  description : Option String := none
  version : Option String := none
  choice : Option Membership := none
  shortform : Option Shortform := none
  dropFields : Option (List String) := none
  requires : Option (List String) := none
  validator : Option NodeCheck := none

/-- A schema. -/
structure Schema where
  name : String
  fields : List FieldSpec
  info : SchemaInfo := {}

namespace Schema

def fieldNames (s : Schema) : List String := s.fields.map FieldSpec.name

def field? (s : Schema) (name : String) : Option FieldSpec :=
  s.fields.reverse.find? fun spec => spec.name == name

/-- The fields and the field of the shortform. -/
def allFields (s : Schema) : List FieldSpec :=
  s.fields ++ (s.info.shortform.map Shortform.field).toList

/-- The fields that compact output leaves out when defaulted. -/
def compactable (s : Schema) : List String :=
  (s.fields.filter fun spec => spec.info.omitWhenDefault).map FieldSpec.name

def choiceType (s : Schema) : Option String := s.info.choice.map Membership.type

end Schema

end ShapedTree
