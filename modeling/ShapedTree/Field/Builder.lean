import ShapedTree.Field.Spec

namespace ShapedTree

/-- The specifications of a field's parts. -/
inductive FieldParts where
  | none
  | list (item : FieldSpec)
  | mapping (key value : FieldSpec)
  | either (primitive complex : FieldSpec)
deriving Inhabited

/-- The settings of a field without its name. -/
structure FieldBuilder where
  kind : String
  parts : FieldParts := .none
  required : Bool := true
  nullable : Bool := false
  default? : Option FieldDefault := none
  constraints : Constraints := {}
  help : String := ""
  deprecated : Option String := none
  kwargs : Option (Entries Value) := none
  omitWhenDefault : Bool := false
deriving Inhabited

namespace FieldBuilder

/-- Kinds whose `min` and `max` bound a length. -/
def lengthKinds : List String := ["string", "identifier", "regex", "list"]

/-- Kinds whose `min` and `max` bound a number. -/
def rangeKinds : List String := ["number", "integer", "integerstring"]

def require (b : FieldBuilder) : FieldBuilder := { b with required := true }

def optional (b : FieldBuilder) : FieldBuilder := { b with required := false }

def allowNull (b : FieldBuilder) : FieldBuilder := { b with nullable := true }

/-- A value that is not supplied comes from the default, so it may be left out. -/
def withDefault (b : FieldBuilder) (d : FieldDefault) : FieldBuilder :=
  { b with default? := some d, required := false }

def describe (b : FieldBuilder) (text : String) : FieldBuilder := { b with help := text }

/-- Supplying the field is warned about with a note. -/
def markDeprecated (b : FieldBuilder) (note : String) : FieldBuilder :=
  { b with deprecated := some note }

/-- The note of a deprecation that gives none. -/
def deprecationNote : String := "This field is deprecated."

/-- Arguments for the nodes below the field, over those set before. -/
def withKwargs (b : FieldBuilder) (overrides : Entries Value) : FieldBuilder :=
  { b with kwargs := some (Record.merge (b.kwargs.getD []) overrides) }

/-- Compact output leaves the value out when it is defaulted. -/
def omitDefault (b : FieldBuilder) : FieldBuilder := { b with omitWhenDefault := true }

/-- A check runs after those added before, if they pass. -/
def check (b : FieldBuilder) (next : ValueCheck) : FieldBuilder :=
  let both : ValueCheck :=
    match b.constraints.validator with
    | none => next
    | some earlier => fun v => do
      match ← earlier v with
      | .pass => next v
      | verdict => return verdict
  { b with constraints := { b.constraints with validator := some both } }

/-- A lower bound for the number or the length. -/
def atLeast (b : FieldBuilder) (n : Number) : Except Fault FieldBuilder :=
  if rangeKinds.contains b.kind then
    .ok { b with constraints := { b.constraints with min := some n } }
  else if lengthKinds.contains b.kind then
    .ok { b with constraints := { b.constraints with minLength := some n } }
  else .error (.failure "Min is only supported on number, integer, string, or list fields.")

/-- An upper bound for the number or the length. -/
def atMost (b : FieldBuilder) (n : Number) : Except Fault FieldBuilder :=
  if rangeKinds.contains b.kind then
    .ok { b with constraints := { b.constraints with max := some n } }
  else if lengthKinds.contains b.kind then
    .ok { b with constraints := { b.constraints with maxLength := some n } }
  else .error (.failure "Max is only supported on number, integer, string, or list fields.")

def matching (b : FieldBuilder) (p : Pattern) : Except Fault FieldBuilder :=
  if b.kind = "string" then
    .ok { b with constraints := { b.constraints with pattern := some p } }
  else .error (.failure "Pattern is only supported on string fields.")

/-- Parameters for a custom kind, over those set before. -/
def withParams (b : FieldBuilder) (params : Entries Value) : FieldBuilder :=
  let merged := Record.merge (b.constraints.params.getD []) params
  { b with constraints := { b.constraints with params := some merged } }

/-- A lower limit is above an upper one. -/
def crossed : Option Number → Option Number → Bool
  | some low, some high => high.lt low
  | _, _ => false

/-- The field is null where it is not supplied. -/
def defaultsToNull (b : FieldBuilder) : Bool :=
  match b.default? with
  | some (.constant v) => v.isNull
  | _ => false

/-- The settings under a name. -/
def info (b : FieldBuilder) (name : String) : FieldInfo :=
  { name, kind := b.kind, required := b.required, nullable := b.nullable, default? := b.default?,
    constraints := b.constraints, help := b.help, deprecated := b.deprecated, kwargs := b.kwargs,
    omitWhenDefault := b.omitWhenDefault }

/-- The specification of the field with a name. -/
def build (b : FieldBuilder) (name : String) : Except Fault FieldSpec :=
  if crossed b.constraints.min b.constraints.max then
    .error (.failure s!"Field {name}: the minimum is greater than the maximum")
  else if crossed b.constraints.minLength b.constraints.maxLength then
    .error (.failure s!"Field {name}: the minimum length is greater than the maximum length")
  else if b.defaultsToNull && !b.nullable then
    .error (.failure s!"Field {name} defaults to null but is not nullable")
  else
    .ok <| match b.parts with
      | .none => .leaf (b.info name)
      | .list item => .list (b.info name) item
      | .mapping key value => .mapping (b.info name) key value
      | .either primitive complex => .either (b.info name) primitive complex

end FieldBuilder

namespace Field

def ofKind (kind : String) : FieldBuilder := { kind }

def node (target : String) : FieldBuilder :=
  { kind := "node", constraints := { target := some target } }

def choice (group : String) : FieldBuilder :=
  { kind := "choice", constraints := { choice := some group } }

def list (item : FieldBuilder) : Except Fault FieldBuilder := do
  return { kind := "list", parts := .list (← item.build "item") }

def mapping (key value : FieldBuilder) : Except Fault FieldBuilder := do
  return { kind := "mapping", parts := .mapping (← key.build "key") (← value.build "value") }

/-- A primitive form, and another form for anything else. -/
def either (primitive complex : FieldBuilder) : Except Fault FieldBuilder := do
  return { kind := "either",
           parts := .either (← primitive.build "primitive") (← complex.build "complex") }

def selection (options : List String) : Except Fault FieldBuilder :=
  if options = [] then .error (.failure "A selection needs at least one option.")
  else .ok { kind := "selection", constraints := { options := some options } }

/-- Any of the given texts; a fresh empty list where it is not supplied. -/
def multiselection (options : List String) : Except Fault FieldBuilder :=
  if options = [] then .error (.failure "A multiple selection needs at least one option.")
  else
    .ok ({ kind := "multiselection", constraints := { options := some options } : FieldBuilder
      }.withDefault (.factory (.ok (.list []))))

/-- Any plain data, null included. -/
def json : FieldBuilder := { kind := "json", nullable := true }

/-- A variable name. -/
def identifier : FieldBuilder :=
  { kind := "identifier",
    help := "A name made of letters, digits, '_' and '$', not starting with a digit" }

/-- The text of a pattern. -/
def pattern : FieldBuilder := { kind := "regex", help := "A regular expression" }

def custom (kind : String) (params : Entries Value) : FieldBuilder :=
  { kind, constraints := { params := some params } }

end Field

end ShapedTree
