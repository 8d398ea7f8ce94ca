namespace ShapedTree

/-- What an issue is about. -/
inductive IssueKind where
  | schemaNotFound
  | unknownField
  | typeMismatch
  | constraintViolation
  | missingField
deriving DecidableEq, Repr, Inhabited

namespace IssueKind

def all : List IssueKind := [
  .schemaNotFound, .unknownField, .typeMismatch, .constraintViolation, .missingField]

/-- The name of a kind of issue. -/
def text : IssueKind → String
  | .schemaNotFound => "SchemaNotFound"
  | .unknownField => "UnknownField"
  | .typeMismatch => "TypeMismatch"
  | .constraintViolation => "ConstraintViolation"
  | .missingField => "MissingField"

end IssueKind

/-- What a kind finds wrong with a value, before it is known where. -/
structure Finding where
  kind : IssueKind
  message : String
  suggestion : Option String := none
deriving DecidableEq, Repr, Inhabited

namespace Finding

def mismatch (message : String) (suggestion : Option String) : Finding :=
  ⟨.typeMismatch, message, suggestion⟩

def violation (message : String) (suggestion : Option String) : Finding :=
  ⟨.constraintViolation, message, suggestion⟩

end Finding

/-- A finding with the path from the root to its place, in `schema.field` segments, and a preview of
the value. -/
structure Issue where
  path : List String
  kind : IssueKind
  message : String
  suggestion : Option String := none
  received : Option String := none
deriving DecidableEq, Repr, Inhabited

def pathText (path : List String) : String :=
  if path = [] then "(root)" else " > ".intercalate path

/-- A path whose last segment goes on with a label. -/
def extendPath (path : List String) (label : String) : List String :=
  if label = "" then path
  else
    match path.getLast? with
    | none => [label]
    | some last => path.dropLast ++ [last ++ label]

/-- An issue as text. -/
def Issue.format (i : Issue) : String :=
  let line := s!"[{i.kind.text}] {pathText i.path}: {i.message}"
  match i.suggestion with
  | none => line
  | some suggestion => if suggestion = "" then line else line ++ " " ++ suggestion

end ShapedTree
