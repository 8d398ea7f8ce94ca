import ShapedTree.Kind.Nested

namespace ShapedTree

/-- The built-in kinds. -/
inductive BuiltinKind where
  | number
  | integer
  | string
  | boolean
  | node
  | choice
  | list
  | mapping
  | either
  | selection
  | multiselection
  | json
  | identifier
  | pattern
  | integerText
deriving DecidableEq, Repr

namespace BuiltinKind

/-- The built-in kinds in the order of the catalogue. -/
def all : List BuiltinKind := [
  .number, .integer, .string, .boolean, .node, .choice, .list, .mapping, .either, .selection,
  .multiselection, .json, .identifier, .pattern, .integerText]

def tag : BuiltinKind → String
  | .number => "number"
  | .integer => "integer"
  | .string => "string"
  | .boolean => "boolean"
  | .node => "node"
  | .choice => "choice"
  | .list => "list"
  | .mapping => "mapping"
  | .either => "either"
  | .selection => "selection"
  | .multiselection => "multiselection"
  | .json => "json"
  | .identifier => "identifier"
  | .pattern => "regex"
  | .integerText => "integerstring"

/-- Values of the kind may hold nodes. -/
def isNested : BuiltinKind → Bool
  | .node | .choice | .list | .mapping | .either => true
  | _ => false

/-- The kind makes a value of null by itself. -/
def takesNull : BuiltinKind → Bool
  | .multiselection => true
  | _ => false

/-- A range of numbers in words. -/
def rangeText (noun : String) (c : Constraints) : String :=
  match c.min, c.max with
  | some low, some high => s!"{noun} in the range [{low.text} ; {high.text}]."
  | some low, none => s!"{noun} with minimum value {low.text}."
  | none, some high => s!"{noun} with maximum value {high.text}."
  | none, none => s!"{noun} value."

/-- A range of text lengths in words. -/
def lengthText (c : Constraints) : String :=
  match c.minLength, c.maxLength with
  | some low, some high =>
    s!"A string with minimum length {low.text} and maximum length {high.text}."
  | some low, none => s!"A string with minimum length {low.text}."
  | none, some high => s!"A string with maximum length {high.text}."
  | none, none => "A string."

/-- A least length of lists in words. -/
def listText (c : Constraints) : String :=
  match c.minLength with
  | some low =>
    if low.isNonzero then s!"A list. It must have at least {Kind.elements low}." else "A list."
  | none => "A list."

/-- What a field of the kind accepts, in words. -/
def describe (k : BuiltinKind) (c : Constraints) : String :=
  let options := Fault.quoteList (Kind.optionsOf c)
  match k with
  | .number => rangeText "A number" c ++ " Infinity and NaN are invalid."
  | .integer => rangeText "An integer" c
  | .string => lengthText c
  | .boolean => "A boolean value."
  | .node => "An object: [[" ++ c.target.getD "?" ++ "]]."
  | .choice => "One of the [[" ++ c.choice.getD "?" ++ "]] objects."
  | .list => listText c
  | .mapping => "A mapping from strings to values."
  | .either => "Either a primitive value or its complex form."
  | .selection => s!"One of the following values: {options}"
  | .multiselection =>
    s!"Null, one of the following values, or a list of any number of them: {options}"
  | .json => "An arbitrary JSON-like value."
  | .identifier => "A variable name: letters, digits, '_' and '$', not starting with a digit."
  | .pattern => "A regular expression."
  | .integerText =>
    rangeText "An integer" c ++ " It is given as a string, so it can be a mapping key."

variable {m : Type → Type} [Monad m]

/-- A value is checked by a built-in kind. -/
def check (k : BuiltinKind) (ctx : KindContext m) (parts : PartChecks m) (info : FieldInfo)
    (raw : Value) : m KindResult := do
  let c := info.constraints
  match k with
  | .number => return Kind.checkNumber c raw
  | .integer => return Kind.checkInteger c raw
  | .boolean => return Kind.checkBoolean raw
  | .selection => return Kind.checkSelection c raw
  | .multiselection => return Kind.checkMultiselection c raw
  | .json => return Kind.checkJson raw
  | .integerText => return Kind.checkIntegerText c raw
  | .string => return (← Kind.checkText ctx.test c raw).map .text
  | .identifier => return (← Kind.checkText ctx.test c raw).bind Kind.checkIdentifier
  | .pattern => return (← Kind.checkText ctx.test c raw).bind Kind.checkPattern
  | .node => Kind.checkNode ctx info raw
  | .choice => Kind.checkChoice ctx info raw
  | .list => Kind.checkList ctx parts c raw
  | .mapping => Kind.checkMapping ctx parts raw
  | .either => Kind.checkEither parts raw

end BuiltinKind

/-- How a kind checks values. -/
inductive KindRule where
  | builtin (kind : BuiltinKind)
  | custom (kind : CustomKind)

/-- A kind: its rule, whether its values may hold nodes, whether it takes null, and its description
of a field in words. -/
structure KindDefinition where
  rule : KindRule
  nested : Bool := false
  acceptsNull : Bool := false
  describe? : Option (FieldSpec → String) := none

namespace KindDefinition

def ofBuiltin (k : BuiltinKind) : KindDefinition :=
  { rule := .builtin k, nested := k.isNested, acceptsNull := k.takesNull,
    describe? := some fun spec => k.describe spec.info.constraints }

/-- A value is checked by a kind; the checks of the field's parts are given. -/
def check {m : Type → Type} [Monad m] [MonadExceptOf Fault m] (d : KindDefinition)
    (ctx : KindContext m) (parts : PartChecks m) (spec : FieldSpec) (raw : Value) :
    m KindResult :=
  match d.rule with
  | .builtin k => k.check ctx parts spec.info raw
  | .custom k => (k raw spec ctx.path ctx.kwargs).run ctx

end KindDefinition

/-- Kinds by tag. -/
structure KindCatalog where
  definitions : List (String × KindDefinition) := []

namespace KindCatalog

def builtin : KindCatalog := ⟨BuiltinKind.all.map fun k => (k.tag, .ofBuiltin k)⟩

def register (c : KindCatalog) (tag : String) (d : KindDefinition) : KindCatalog :=
  ⟨Entries.put c.definitions tag d⟩

def find? (c : KindCatalog) (tag : String) : Option KindDefinition := c.definitions.lookup tag

def has (c : KindCatalog) (tag : String) : Bool := (c.find? tag).isSome

def isNested (c : KindCatalog) (tag : String) : Bool :=
  ((c.find? tag).map (·.nested)).getD false

def acceptsNull (c : KindCatalog) (tag : String) : Bool :=
  ((c.find? tag).map (·.acceptsNull)).getD false

def tags (c : KindCatalog) : List String := Entries.keys c.definitions

def unknownKind (c : KindCatalog) (tag : String) : KindResult :=
  Kind.mismatch s!"unknown field kind '{tag}'" (didYouMean tag c.tags)

/-- A value is checked by the kind of a tag. -/
def check {m : Type → Type} [Monad m] [MonadExceptOf Fault m] (c : KindCatalog) (tag : String)
    (ctx : KindContext m) (parts : PartChecks m) (spec : FieldSpec) (raw : Value) :
    m KindResult :=
  match c.find? tag with
  | none => pure (c.unknownKind tag)
  | some d => d.check ctx parts spec raw

/-- What a field accepts, in words. -/
def describe (c : KindCatalog) (spec : FieldSpec) : String :=
  match (c.find? spec.kind).bind (·.describe?) with
  | some words => words spec
  | none => s!"A value of kind '{spec.kind}'."

end KindCatalog

end ShapedTree
