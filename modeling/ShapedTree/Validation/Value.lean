import ShapedTree.Validation.Run

namespace ShapedTree

/-- Where a value stands: its path, its ancestors root first, the arguments, and the level of its
node. -/
structure Place where
  path : List String
  stack : List NodeView
  kwargs : Kwargs
  depth : Nat
deriving Inhabited

/-- The check of a raw value as a node of a schema. -/
abbrev NodeRun := Value → String → Place → Run (Option Node)

/-- The check of a raw value against any specification. -/
abbrev ValueRun := FieldSpec → Value → Place → Run (Option Value)

namespace Place

/-- The place of a field's parts: the field's own arguments hold there. -/
def inside (p : Place) (spec : FieldSpec) : Place :=
  { p with kwargs := p.kwargs.override spec.info.kwargs }

/-- The place of a part with a label. -/
def labelled (p : Place) (label : String) : Place := { p with path := extendPath p.path label }

/-- The place of a node below, with further arguments. -/
def below (p : Place) (overrides : Option (Entries Value)) : Place :=
  { p with kwargs := p.kwargs.override overrides, depth := p.depth + 1 }

/-- The place of a field of a node. -/
def field (p : Place) (schema name : String) : Place :=
  { p with path := p.path ++ [s!"{schema}.{name}"] }

end Place

namespace Choice

variable (rules : Rules)

/-- A member of a group that a value was tried against with success. -/
structure Match where
  node : Node
  log : Array LogEntry

/-- The members that a value fits, each tried in a run of its own. -/
def matching (node : NodeRun) (raw : Value) (place : Place) : List String → Run (List Match)
  | [] => return []
  | schema :: rest => do
    let (found, issues, log) ← Run.trial (node raw schema place)
    let others ← matching node raw place rest
    match found with
    -- A member counts only if its trial raised no issue.
    | some n => return if issues.isEmpty then ⟨n, log⟩ :: others else others
    | none => return others

/-- The type that a value names. -/
def namedType? (raw : Value) : Option Value :=
  match raw.entries? with
  | none => none
  | some es =>
    (es.lookup "type").filter fun v => !v.isUndefined

/-- The member that a type names. -/
def member? (members : List (String × String)) : Value → Option String
  | .text t => members.lookup t
  | _ => none

def validTypes (types : List String) : String := s!"Valid types are: {Fault.quoteList types}"

/-- A value that names its type is checked as that member. -/
def byType (node : NodeRun) (raw : Value) (group : String) (place : Place)
    (members : List (String × String)) (types : List String) (type : Value) :
    Run (Option Node) := do
  match member? members type with
  | some target => node raw target place
  | none =>
    let shown ← type.json
    let suggestion := match type with
      | .text t => didYouMean t types
      | _ => none
    Run.report rules place.path .constraintViolation
      s!"the type {shown} is not valid for '{group}'. {validTypes types}" suggestion (some type)
    return none

/-- A value that names no type is accepted as the one member it fits. -/
def byFit (node : NodeRun) (raw : Value) (group : String) (place : Place)
    (members : List (String × String)) (types : List String) : Run (Option Node) := do
  match ← matching node raw place (members.map Prod.snd) with
  | [found] =>
    Run.adopt found.log
    return some found.node
  | found =>
    let fitting := Fault.quoteList (found.map fun f => f.node.choiceType.getD f.node.schema)
    let message :=
      if found.isEmpty then s!"the value does not match any '{group}' type. {validTypes types}"
      else s!"the value matches several '{group}' types: {fitting}"
    Run.report rules place.path .constraintViolation message
      (some "Add a 'type' field to pick one.") (some raw)
    return none

/-- A value has no entries, so it gives no hint of its type. -/
def isEmptyRecord (raw : Value) : Bool :=
  match raw.entries? with
  | some [] => true
  | _ => false

/-- A value is checked as a node of some member of a group. -/
def check (node : NodeRun) (raw : Value) (group : String) (place : Place) : Run (Option Node) := do
  if ← Run.halted rules then return none
  let members := rules.registry.choiceMembers group
  let types := Text.sortByUnits (members.map Prod.fst)
  match namedType? raw with
  | some type => byType rules node raw group place members types type
  | none =>
    match members with
    | [(_, only)] => node raw only place
    | _ =>
      if isEmptyRecord raw then
        Run.report rules place.path .constraintViolation
          s!"the object needs a 'type' field. {validTypes types}" none (some raw)
        return none
      else byFit rules node raw group place members types

end Choice

namespace Validation

variable (rules : Rules)

/-- What a kind may ask at a place. -/
def context (node : NodeRun) (value : ValueRun) (spec : FieldSpec) (place : Place) :
    KindContext Run :=
  let inner := place.inside spec
  { path := place.path
    kwargs := inner.kwargs
    halted := Run.halted rules
    node := fun raw schema overrides => node raw schema (inner.below overrides)
    choice := fun raw group overrides => Choice.check rules node raw group (inner.below overrides)
    value := fun other raw label => value other raw (inner.labelled label)
    test := Run.test
    afresh := fun other x => Run.afresh other.patternCells x }

/-- The extra check of a value that its kind accepted. -/
def checkAccepted (spec : FieldSpec) (raw value : Value) (path : List String) :
    Run (Option Value) := do
  let held := if value.isUndefined then none else some value
  match spec.info.constraints.validator with
  | none => return held
  | some check =>
    match ← check value with
    | .pass => return held
    | .fail =>
      Run.report rules path .constraintViolation "the value failed its check" none (some raw)
      return none
    | .failWith message =>
      Run.report rules path .constraintViolation message none (some raw)
      return none

/-- A value against a specification, where the checks of the parts are given. -/
def checkWith (ctx : KindContext Run) (parts : PartChecks Run) (spec : FieldSpec) (raw : Value)
    (path : List String) : Run (Option Value) := do
  if ← Run.halted rules then return none
  if raw.isNull && !rules.registry.kinds.acceptsNull spec.kind then
    if spec.info.nullable then return some .null
    else
      Run.report rules path .typeMismatch "the value must not be null"
        (spec.info.default?.map fun _ => "Leave the field out to use its default.")
      return none
  else if raw.isUndefined then
    Run.report rules path .typeMismatch "the value is missing"
    return none
  else
    match ← rules.registry.kinds.check spec.kind ctx parts spec raw with
    | .error findings =>
      findings.forM (Run.reportFinding rules path raw)
      return none
    | .ok value => checkAccepted rules spec raw value path

/-- A value against a specification. `other` answers custom kinds that ask for the value of another
specification. -/
def checkSpec (node : NodeRun) (other : ValueRun) : ValueRun
  | .leaf info, raw, place =>
    let spec := FieldSpec.leaf info
    checkWith rules (context rules node other spec place) .none spec raw place.path
  | .list info item, raw, place =>
    let spec := FieldSpec.list info item
    let inner := place.inside spec
    checkWith rules (context rules node other spec place)
      (.list fun raw label => checkSpec node other item raw (inner.labelled label))
      spec raw place.path
  | .mapping info key value, raw, place =>
    let spec := FieldSpec.mapping info key value
    let inner := place.inside spec
    checkWith rules (context rules node other spec place)
      (.mapping (key.kind == PartChecks.integerKeys)
        (fun raw label => checkSpec node other key raw (inner.labelled label))
        (fun raw label => checkSpec node other value raw (inner.labelled label)))
      spec raw place.path
  | .either info primitive complex, raw, place =>
    let spec := FieldSpec.either info primitive complex
    let inner := place.inside spec
    checkWith rules (context rules node other spec place)
      (.either
        (fun raw label => checkSpec node other primitive raw (inner.labelled label))
        (fun raw label => checkSpec node other complex raw (inner.labelled label)))
      spec raw place.path

/-- A value against a specification, where custom kinds may ask for values that many times within
one another. -/
def checkValue (node : NodeRun) : (questions : Nat) → ValueRun
  | 0 => checkSpec rules node fun _ _ _ => throw .overflow
  | questions + 1 => checkSpec rules node (checkValue node questions)

end Validation

end ShapedTree
