import ShapedTree.Validation.Run

namespace ShapedTree

/-- A default as described: its value, or that it is computed. -/
inductive DefaultDescription where
  | static (value : Value)
  | context
deriving Inhabited

/-- A field as described. -/
structure FieldDescription where
  name : String
  kind : String
  accepts : String
  help : String
  required : Bool
  nullable : Bool
  default? : Option DefaultDescription
  deprecated : Option String
  references : List String
deriving Inhabited

/-- A schema as described. -/
structure SchemaDescription where
  name : String
  title : Option String
  description : Option String
  version : Option String
  choice : Option Membership
  fields : List FieldDescription
  references : List String
  referencedBy : List String
deriving Inhabited

/-- A registry as described, with the schemas of every choice group by type. -/
structure RegistryDescription where
  schemas : List SchemaDescription
  choices : Entries (Entries String)
  kinds : List String
deriving Inhabited

namespace Description

variable (r : Registry)

/-- The schemas that a specification itself refers to. -/
def ownReferences (spec : FieldSpec) : List String :=
  let c := spec.info.constraints
  (match c.target with
    | some target => if spec.kind = "node" then [target] else []
    | none => []) ++
  (match c.choice with
    | some group =>
      if spec.kind = "choice" then (r.choiceMembers group).map Prod.snd else []
    | none => [])

/-- The schemas that a specification and its parts refer to. -/
def references : FieldSpec → List String
  | .leaf info => ownReferences r (.leaf info)
  | .list info item => ownReferences r (.list info item) ++ references item
  | .mapping info key value =>
    ownReferences r (.mapping info key value) ++ (references key ++ references value)
  | .either info primitive complex =>
    ownReferences r (.either info primitive complex) ++
      (references primitive ++ references complex)

/-- Every text once, in the order of units. -/
def unique (ss : List String) : List String := Text.sortByUnits ss.eraseDups

/-- A default as described. -/
def describeDefault : Option FieldDefault → Run (Option DefaultDescription)
  | none => return none
  | some d => do
    match ← Run.produce d with
    | some v => return some (.static v)
    | none => return some .context

/-- A field as described. -/
def describeField (spec : FieldSpec) : Run FieldDescription := do
  let default? ← describeDefault spec.info.default?
  return {
    name := spec.name
    kind := spec.kind
    accepts := r.kinds.describe spec
    help := spec.info.help
    required := spec.info.required
    nullable := spec.info.nullable
    default?
    deprecated := spec.info.deprecated
    references := unique (references r spec) }

def refersTo (s : Schema) (name : String) : Bool :=
  s.fields.any fun spec => (references r spec).contains name

/-- A schema as described. -/
def describeSchema (name : String) : Run SchemaDescription := do
  let schema ← r.lookup name
  let fields ← schema.fields.mapM (describeField r)
  let referring := (r.schemas.filter fun s => refersTo r s schema.name).map Schema.name
  return {
    name := schema.name
    title := schema.info.title
    description := schema.info.description
    version := schema.info.version
    choice := schema.info.choice
    fields
    references := unique (fields.flatMap FieldDescription.references)
    referencedBy := unique referring }

/-- The whole registry as described. -/
def describeRegistry : Run RegistryDescription := do
  let schemas ← r.names.mapM (describeSchema r)
  return {
    schemas
    choices := Record.assigned (r.choices.map fun g => (g.1, Record.ofList g.2))
    kinds := r.kinds.tags }

def defaultText : Option DefaultDescription → Except Fault String
  | none => .ok ""
  | some .context => .ok " = (computed)"
  | some (.static v) => do return " = " ++ (← v.json)

/-- A field as a line of text. -/
def fieldLine (f : FieldDescription) : Except Fault String := do
  let flags := [f.kind, if f.required then "required" else "optional"] ++
    (if f.nullable then ["nullable"] else []) ++
    (if f.deprecated.isSome then ["deprecated"] else [])
  let flagText := ", ".intercalate flags
  let default ← defaultText f.default?
  let words := if f.help = "" then f.accepts else f.help
  return s!"- {f.name} [{flagText}]{default}: {words}"

/-- A text is given and not empty. -/
def given (s : Option String) : Option String := s.filter (· ≠ "")

/-- A schema as text: the title line, its description, and a line for every field. -/
def render (d : SchemaDescription) : Except Fault String := do
  let head := match given d.title with
    | some title => s!"{title} ({d.name})"
    | none => d.name
  let lines ← d.fields.mapM fieldLine
  return "\n".intercalate ([head] ++ (given d.description).toList ++ lines)

end Description

end ShapedTree
