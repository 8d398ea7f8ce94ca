import ShapedTree.Kind.Catalog
import ShapedTree.Log
import ShapedTree.Schema.Basic
import ShapedTree.SemVer

namespace ShapedTree

/-- The fields of a schema that is to be registered: builders under their names, or specifications.
A name that comes again among builders takes the last one. -/
inductive FieldList where
  | shape (builders : List (String × FieldBuilder))
  | specs (given : List FieldSpec)

namespace FieldList

/-- Builders under their names as specifications. -/
def buildAll : List (String × FieldBuilder) → Except Fault (List FieldSpec)
  | [] => .ok []
  | (name, builder) :: rest => do
    let spec ← builder.build name
    return spec :: (← buildAll rest)

/-- The specifications in the order of declaration. -/
def resolve : FieldList → Except Fault (List FieldSpec)
  | .shape builders => buildAll (Record.ofList builders)
  | .specs given => .ok given

end FieldList

/-- Schemas in the order of registration, and the schemas of every choice group by type. -/
structure Registry where
  kinds : KindCatalog
  schemas : List Schema := []
  choices : List (String × List (String × String)) := []
  frozen : Bool := false

namespace Registry

def find? (r : Registry) (name : String) : Option Schema :=
  r.schemas.find? fun s => s.name == name

def has (r : Registry) (name : String) : Bool := (r.find? name).isSome

def names (r : Registry) : List String := r.schemas.map Schema.name

def lookup (r : Registry) (name : String) : Except Fault Schema :=
  match r.find? name with
  | some s => .ok s
  | none => .error (.schemaNotFound name (didYouMean name r.names))

def hasChoice (r : Registry) (group : String) : Bool := Entries.has r.choices group

/-- The schemas of a choice group by type. -/
def choiceMembers (r : Registry) (group : String) : List (String × String) :=
  (r.choices.lookup group).getD []

def choiceGroups (r : Registry) : List String := Entries.keys r.choices

/-- The first name that comes again later. -/
def duplicate? : (seen : List String) → List String → Option String
  | _, [] => none
  | seen, name :: rest =>
    if seen.contains name then some name else duplicate? (name :: seen) rest

/-- The choice groups with one more member. -/
def addMember (r : Registry) (name : String) :
    Option Membership → Except Fault (List (String × List (String × String)))
  | none => .ok r.choices
  | some ⟨group, type⟩ =>
    let members := r.choiceMembers group
    match members.lookup type with
    | some holder => .error (.takenType group type holder)
    | none => .ok (Entries.put r.choices group (Entries.put members type name))

/-- The version is absent or a semantic version. -/
def checkVersion (name : String) : Option String → Except Fault Unit
  | none => .ok ()
  | some version => if isSemVer version then .ok () else .error (.invalidVersion name version)

/-- The registry with one more schema, and the schema. -/
def register? (r : Registry) (name : String) (fields : FieldList) (info : SchemaInfo) :
    Except Fault (Registry × Schema) := do
  if r.frozen then throw (.registryFrozen name)
  if r.has name then throw (.duplicateSchema name)
  let specs ← fields.resolve
  match duplicate? [] (specs.map FieldSpec.name) with
  | some field => throw (.duplicateField name field)
  | none =>
    checkVersion name info.version
    let choices ← r.addMember name info.choice
    let schema : Schema := ⟨name, specs, info⟩
    return ({ r with schemas := r.schemas ++ [schema], choices }, schema)

/-- Register a schema and say so. -/
def register (r : Registry) (name : String) (fields : FieldList) (info : SchemaInfo) :
    Logged (Registry × Schema) := do
  let (registry, schema) ← r.register? name fields info
  Logged.log .debug s!"Registered schema {name} with {schema.fields.length} fields"
  return (registry, schema)

/-- What is unresolved in one specification of a top field. -/
def unresolvedIn (r : Registry) (schema field : String) (spec : FieldSpec) :
    List UnresolvedReference :=
  let c := spec.info.constraints
  (if r.kinds.has spec.kind then [] else [⟨schema, field, .kind, spec.kind⟩]) ++
    (match c.target with
      | some target =>
        if spec.kind = "node" ∧ ¬ r.has target then [⟨schema, field, .schema, target⟩] else []
      | none => []) ++
    (match c.choice with
      | some group =>
        if spec.kind = "choice" ∧ ¬ r.hasChoice group then [⟨schema, field, .choice, group⟩] else []
      | none => [])

/-- What is unresolved in the whole registry, schema by schema and field by field. -/
def unresolved (r : Registry) : List UnresolvedReference :=
  r.schemas.flatMap fun s =>
    s.allFields.flatMap fun top => top.walk.flatMap (r.unresolvedIn s.name top.name)

/-- The registry frozen if nothing is unresolved, and what is. -/
def freeze? (r : Registry) : Registry × List UnresolvedReference :=
  if r.frozen then (r, [])
  else
    let references := r.unresolved
    if references = [] then ({ r with frozen := true }, []) else (r, references)

/-- Freeze the registry and say how it went. -/
def freeze (r : Registry) : Logged (Registry × List UnresolvedReference) := do
  let (registry, references) := r.freeze?
  if references ≠ [] then
    let targets := ", ".intercalate (references.map UnresolvedReference.target)
    Logged.log .warn
      s!"Schema registry has {references.length} unresolved reference(s): {targets}"
  else if !r.frozen then
    Logged.log .debug s!"Schema registry frozen with {r.schemas.length} schemas"
  return (registry, references)

/-- Freeze a registry that has to be complete. -/
def complete (r : Registry) : Logged Registry := do
  let (registry, references) ← r.freeze
  if references = [] then return registry else throw (.unresolved references)

end Registry

end ShapedTree
