import ShapedTree.Draft
import ShapedTree.Validation.Value

namespace ShapedTree

namespace Validation

variable (rules : Rules)

/-- A field while its node is under construction: whether it was supplied, and the raw value that
waits for the second pass with the mark of a default. -/
structure Slot where
  spec : FieldSpec
  supplied : Bool := false
  waiting : Option (Value × Bool) := none

/-- The own value of a key that holds one. -/
def readKey (record : Entries Value) (key : String) : Option Value :=
  (record.lookup key).filter fun v => !v.isUndefined

/-- The record that a raw value is validated as: itself, or the expansion of the shortform. -/
def expand (value : ValueRun) (raw : Value) (schema : Schema) (place : Place) :
    Run (Option (Entries Value)) := do
  match raw.entries? with
  | some es => return some es
  | none =>
    match schema.info.shortform with
    | none =>
      let fields := ", ".intercalate schema.fieldNames
      Run.report rules place.path .typeMismatch
        s!"the value must be an object matching schema '{schema.name}'"
        (some s!"Provide an object with the fields of '{schema.name}': {fields}.") (some raw)
      return none
    | some short =>
      match ← value short.field raw (place.field schema.name short.field.name) with
      | none => return none
      | some v => return some (← short.expand v)

/-- The record names the type of the schema, or none. -/
def checkType (schema : Schema) (record : Entries Value) (place : Place) : Run Unit := do
  match schema.info.choice, readKey record "type" with
  | some membership, some type =>
    if !type.same (.text membership.type) then
      let shown ← type.json
      Run.report rules (place.field schema.name "type").path .constraintViolation
        s!"the type {shown} does not match schema '{schema.name}'"
        (some s!"Use the type '{membership.type}'.") (some type)
  | _, _ => return

/-- A schema accepts a key of its input. -/
def acceptsKey (schema : Schema) (key : String) : Bool :=
  schema.fieldNames.contains key || (schema.info.dropFields.getD []).contains key ||
    (schema.info.choice.isSome && key == "type")

/-- Keys that the schema does not accept are issues or messages. -/
def checkKeys (schema : Schema) (place : Place) : List (String × Value) → Run Unit
  | [] => return
  | (key, value) :: rest => do
    if !acceptsKey schema key then
      match rules.unknownFields with
      | .strict =>
        Run.report rules (place.field schema.name key).path .unknownField
          s!"the field '{key}' is not declared by schema '{schema.name}'"
          (didYouMean key schema.fieldNames) (some value)
      | .lenient => Run.log .debug s!"Ignoring unknown field {schema.name}.{key}"
    checkKeys schema place rest

/-- A field takes a raw value, if the value is accepted. -/
def resolve (value : ValueRun) (place : Place) (draft : Draft) (spec : FieldSpec) (raw : Value)
    (defaulted : Bool) : Run Draft := do
  let inner := { place.field draft.schema spec.name with stack := place.stack ++ [draft.view] }
  match ← value spec raw inner with
  | some v => return draft.set spec.name v defaulted
  | none => return draft

/-- The raw value that a field starts from: the supplied one or a static default. -/
def start (schema : Schema) (record : Entries Value) (spec : FieldSpec) :
    Run (Option (Value × Bool)) := do
  match readKey record spec.name with
  | some raw =>
    match spec.info.deprecated with
    | some note => Run.log .warn s!"{schema.name}.{spec.name} is deprecated: {note}"
    | none => pure ()
    return some (raw, false)
  | none =>
    match spec.info.default? with
    | none => return none
    | some d => return (← Run.produce d).map fun v => (v, true)

/-- The first pass: explicit primitives and static defaults. Nested values wait. -/
def firstPass (value : ValueRun) (schema : Schema) (record : Entries Value) (place : Place) :
    Draft → List FieldSpec → Run (List Slot × Draft)
  | draft, [] => return ([], draft)
  | draft, spec :: rest => do
    if ← Run.halted rules then
      let (slots, draft) ← firstPass value schema record place draft rest
      return ({ spec } :: slots, draft)
    else
      match ← start schema record spec with
      | none =>
        let (slots, draft) ← firstPass value schema record place draft rest
        return ({ spec } :: slots, draft)
      | some (raw, defaulted) =>
        let supplied := !defaulted
        -- Null is resolved at once, also for kinds with parts.
        if !raw.isNull && rules.registry.kinds.isNested spec.kind then
          let (slots, draft) ← firstPass value schema record place draft rest
          return ({ spec, supplied, waiting := some (raw, defaulted) } :: slots, draft)
        else
          let draft ← resolve value place draft spec raw defaulted
          let (slots, draft) ← firstPass value schema record place draft rest
          return ({ spec, supplied } :: slots, draft)

/-- The second pass: nested values and computed defaults, which see the fields declared before. -/
def secondPass (value : ValueRun) (place : Place) :
    (earlier : List String) → Draft → List Slot → Run Draft
  | _, draft, [] => return draft
  | earlier, draft, slot :: rest => do
    let spec := slot.spec
    let next := earlier ++ [spec.name]
    if ← Run.halted rules then secondPass value place next draft rest
    else
      match slot.waiting, slot.supplied, spec.info.default? with
      | some (raw, defaulted), _, _ =>
        let draft ← resolve value place draft spec raw defaulted
        secondPass value place next draft rest
      | none, false, some (.computed generate) =>
        let raw ← generate ⟨place.stack, draft.snapshot earlier, place.kwargs, spec.name⟩
        let draft ← resolve value place draft spec raw true
        secondPass value place next draft rest
      | _, _, _ => secondPass value place next draft rest

/-- Required fields without a default have to be supplied. -/
def checkMissing (schema : Schema) (place : Place) : List Slot → Run Unit
  | [] => return
  | slot :: rest => do
    let spec := slot.spec
    if spec.info.required && !slot.supplied && spec.info.default?.isNone then
      let advice := if spec.info.help = "" then none else
        some s!"Add '{spec.name}': {spec.info.help}"
      Run.report rules (place.field schema.name spec.name).path .missingField
        s!"the required field '{spec.name}' is missing" advice
    checkMissing schema place rest

/-- The node's own check. -/
def checkNode (schema : Schema) (draft : Draft) (place : Place) : Run Bool := do
  match schema.info.validator with
  | none => return true
  | some check =>
    match ← check ⟨draft.snapshot schema.fieldNames, place.stack, place.kwargs⟩ with
    | .pass => return true
    | .fail =>
      Run.report rules place.path .constraintViolation s!"the '{schema.name}' node failed its check"
      return false
    | .failWith message =>
      Run.report rules place.path .constraintViolation message
      return false

/-- A record as a node of a schema. -/
def checkFields (value : ValueRun) (schema : Schema) (record : Entries Value) (place : Place) :
    Run (Option Node) := do
  let before := (← get).issues.size
  checkType rules schema record place
  checkKeys rules schema place record
  let empty : Draft := { schema := schema.name }
  let (slots, draft) ← firstPass rules value schema record place empty schema.fields
  let draft ← secondPass rules value place [] draft slots
  checkMissing rules schema place slots
  -- The node's own check runs only on fields without issues.
  if before < (← get).issues.size then return none
  else if ← Run.halted rules then return none
  else if ← checkNode rules schema draft place then
    return some (draft.finish schema.fieldNames schema.choiceType schema.compactable)
  else return none

/-- A raw value as a node of a schema, where the check of values is given. -/
def checkNodeWith (value : ValueRun) : NodeRun := fun raw name place => do
  if ← Run.halted rules then return none
  match rules.registry.find? name with
  | none =>
    Run.report rules place.path .schemaNotFound s!"the schema '{name}' is not registered"
      (didYouMean name rules.registry.names)
    return none
  | some schema =>
    if rules.maxDepth.lt place.depth then
      Run.report rules place.path .constraintViolation
        s!"the tree is nested deeper than the maximum depth of {rules.maxDepth.text}"
      return none
    else
      let missing := place.kwargs.missing (schema.info.requires.getD [])
      if missing ≠ [] then throw (.missingArguments schema.name missing)
      match ← expand rules value raw schema place with
      | none => return none
      | some record => checkFields rules value schema record place

/-- How many times custom kinds may ask for values within one another. -/
def questionLimit : Nat := 1000

/-- A raw value as a node of a schema, where so many levels are left. -/
def checkNodeAt : (levels : Nat) → NodeRun
  | 0 => fun _ _ _ => throw .overflow
  | levels + 1 => checkNodeWith rules (checkValue rules (checkNodeAt levels) questionLimit)

/-- The number of levels that stands for no bound. -/
def unboundedLevels : Nat := 10000

/-- The levels that a bound leaves: one more than it admits, because a node beyond it is still
examined as far as to be refused. -/
def levels (maxDepth : Number) : Nat :=
  match maxDepth.floorNat with
  | some n => n + 1
  | none => unboundedLevels

end Validation

/-- What a caller may set for a validation. -/
structure ValidateOptions where
  unknownFields : UnknownFields := .lenient
  errors : ErrorMode := .batch
  maxDepth : Number := 512
  kwargs : Kwargs := {}
  stack : List NodeView := []

/-- A valid tree, or the issues of the input. -/
inductive ValidationResult where
  | valid (node : Node)
  | invalid (issues : List Issue)
deriving Inhabited

/-- What a validation returns or how it fails, what it logs, and what is remembered afterwards. -/
structure Outcome where
  result : Except Fault ValidationResult
  log : List LogEntry
  memory : Memory

def ValidateOptions.rules (o : ValidateOptions) (r : Registry) : Rules :=
  { registry := r, unknownFields := o.unknownFields, errors := o.errors, maxDepth := o.maxDepth }

/-- The run of a validation from the root. -/
def ValidateOptions.run (o : ValidateOptions) (r : Registry) (raw : Value) (schema : String) :
    Run (Option Node) :=
  Validation.checkNodeAt (o.rules r) (Validation.levels o.maxDepth) raw schema
    ⟨[], o.stack, o.kwargs, 1⟩

/-- A raw value as a tree of a schema. -/
def Registry.validate (r : Registry) (memory : Memory) (raw : Value) (schema : String)
    (o : ValidateOptions) : Outcome :=
  if !r.frozen then ⟨.error .registryOpen, [], memory⟩
  else
    let (result, s) := o.run r raw schema { memory }
    let result := match result with
      | .error fault => .error fault
      | .ok (some node) =>
        if s.issues.isEmpty then .ok (.valid node) else .ok (.invalid s.issues.toList)
      | .ok none => .ok (.invalid s.issues.toList)
    ⟨result, s.log.toList, s.memory⟩

end ShapedTree
