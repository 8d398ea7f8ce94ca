namespace ShapedTree

/-- What is wrong with a declaration or with its use. -/
inductive SchemaErrorCode where
  | duplicateSchema
  | duplicateField
  | invalidSchema
  | registryFrozen
  | registryOpen
  | schemaNotFound
  | unresolvedReference
  | missingArgument
deriving DecidableEq, Repr

namespace SchemaErrorCode

def all : List SchemaErrorCode := [
  .duplicateSchema, .duplicateField, .invalidSchema, .registryFrozen, .registryOpen,
  .schemaNotFound, .unresolvedReference, .missingArgument]

/-- The name of a code. -/
def text : SchemaErrorCode → String
  | .duplicateSchema => "DuplicateSchema"
  | .duplicateField => "DuplicateField"
  | .invalidSchema => "InvalidSchema"
  | .registryFrozen => "RegistryFrozen"
  | .registryOpen => "RegistryOpen"
  | .schemaNotFound => "SchemaNotFound"
  | .unresolvedReference => "UnresolvedReference"
  | .missingArgument => "MissingArgument"

end SchemaErrorCode

/-- What is wrong with the dispatch of an operation. -/
inductive DispatchErrorCode where
  | unknownOperation
  | duplicateOperation
  | missingArgument
  | depthExceeded
  | notANode
deriving DecidableEq, Repr

namespace DispatchErrorCode

def all : List DispatchErrorCode := [
  .unknownOperation, .duplicateOperation, .missingArgument, .depthExceeded, .notANode]

/-- The name of a code. -/
def text : DispatchErrorCode → String
  | .unknownOperation => "UnknownOperation"
  | .duplicateOperation => "DuplicateOperation"
  | .missingArgument => "MissingArgument"
  | .depthExceeded => "DepthExceeded"
  | .notANode => "NotANode"

end DispatchErrorCode

/-- What a name in a field's declaration should refer to. -/
inductive ReferenceKind where
  | schema
  | choice
  | kind
deriving DecidableEq, Repr

namespace ReferenceKind

def all : List ReferenceKind := [.schema, .choice, .kind]

/-- The name of what should be there. -/
def text : ReferenceKind → String
  | .schema => "schema"
  | .choice => "choice"
  | .kind => "kind"

end ReferenceKind

/-- A name in a field's declaration that refers to nothing. -/
structure UnresolvedReference where
  schema : String
  field : String
  kind : ReferenceKind
  target : String
deriving DecidableEq, Repr

/-- A failure that ends a call. -/
inductive Fault where
  | schema (code : SchemaErrorCode) (message : String) (suggestion : Option String)
  | unresolved (references : List UnresolvedReference)
  | dispatch (code : DispatchErrorCode) (message : String) (suggestion : Option String)
  | failure (message : String)
  | unwritable
  | overflow
deriving DecidableEq, Repr

namespace Fault

/-- A message with its suggestion behind it; an empty suggestion is left out. -/
def withSuggestion (message : String) : Option String → String
  | none => message
  | some suggestion => if suggestion = "" then message else message ++ " " ++ suggestion

/-- Names in quotes, separated by commas. -/
def quoteList (names : List String) : String :=
  ", ".intercalate (names.map fun name => s!"'{name}'")

/-- A reference as its schema and field with an arrow to its target. -/
def referenceText (r : UnresolvedReference) : String := s!"{r.schema}.{r.field} -> {r.target}"

/-- The message of a fault. -/
def message : Fault → String
  | .schema _ message suggestion => withSuggestion message suggestion
  | .unresolved references =>
    "Unresolved references: " ++ ", ".intercalate (references.map referenceText)
  | .dispatch _ message suggestion => withSuggestion message suggestion
  | .failure message => message
  | .unwritable => "the value has no text"
  | .overflow => "the nesting has no end"

/-- A schema is registered after freezing. -/
def registryFrozen (name : String) : Fault :=
  .schema .registryFrozen s!"Cannot register schema '{name}': the registry is frozen" none

def duplicateSchema (name : String) : Fault :=
  .schema .duplicateSchema s!"Schema '{name}' is already registered" none

def duplicateField (schema field : String) : Fault :=
  .schema .duplicateField s!"Field '{field}' is declared twice in schema '{schema}'" none

def invalidVersion (schema version : String) : Fault :=
  .schema .invalidSchema s!"Schema '{schema}' has an invalid version '{version}'"
    (some "Use a semantic version such as '1.0.0'.")

/-- A choice group has a member of the type already. -/
def takenType (group type holder : String) : Fault :=
  .schema .invalidSchema
    s!"Choice group '{group}' already has a member of type '{type}' (schema '{holder}')" none

def schemaNotFound (name : String) (suggestion : Option String) : Fault :=
  .schema .schemaNotFound s!"Schema '{name}' is not registered" suggestion

/-- A value is validated before freezing. -/
def registryOpen : Fault :=
  .schema .registryOpen "The schema registry must be frozen before validating"
    (some "Call registry.freeze() once every schema is registered.")

def missingArguments (schema : String) (names : List String) : Fault :=
  .schema .missingArgument s!"Schema '{schema}' requires the kwargs {quoteList names}" none

def duplicateOperation (operation schema : String) : Fault :=
  .dispatch .duplicateOperation
    s!"Operation '{operation}' is already registered for schema '{schema}'" none

def unknownOperation (schema operation : String) (suggestion : Option String) : Fault :=
  .dispatch .unknownOperation s!"Schema '{schema}' has no implementation of '{operation}'"
    suggestion

/-- An operation is dispatched without arguments that it requires. -/
def missingOperands (operation : String) (names : List String) : Fault :=
  .dispatch .missingArgument s!"Operation '{operation}' requires the kwargs {quoteList names}" none

/-- A dispatch goes deeper than allowed; the bound is given as text. -/
def depthExceeded (operation : String) (depth : Nat) (bound : String) : Fault :=
  .dispatch .depthExceeded
    s!"Dispatching '{operation}' reached depth {depth}, above the maximum of {bound}" none

def notANode (field schema : String) : Fault :=
  .dispatch .notANode s!"Field '{field}' of schema '{schema}' does not hold a node" none

end Fault

end ShapedTree
