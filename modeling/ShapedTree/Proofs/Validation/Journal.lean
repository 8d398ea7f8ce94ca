import ShapedTree.Proofs.Run.Observation
import ShapedTree.Validation.Tree

namespace ShapedTree

open Observed

namespace Journal

/-- A step from one check to the checks that it makes: into a node, with what becomes of it, into a
field of a draft as it stands, into the value of a shortform, into a part of a value. -/
inductive Step where
  | node (schema : Schema) (result : Except Fault (Option Node))
  | field (spec : FieldSpec) (draft : NodeView)
  | shortform (spec : FieldSpec)
  | part (spec : FieldSpec)

/-- What a validation does that it tells others about: it asks for required arguments, it calls a
generator or the check of a node, it goes one step down. -/
inductive Event where
  | required (names : List String) (kwargs : Kwargs)
  | generated (spec : FieldSpec) (args : GeneratorArgs)
  | checked (args : NodeCheckArgs)
  | within (step : Step) (inside : List Event)

namespace Step

/-- The arguments that hold behind the step in place of earlier ones. -/
def overrides : Step → Option (Entries Value)
  | .node _ _ => none
  | .field spec _ | .shortform spec | .part spec => spec.info.kwargs

/-- The draft that those behind the step see as their ancestor. -/
def drafts : Step → List NodeView
  | .field _ draft => [draft]
  | .node _ _ | .shortform _ | .part _ => []

end Step

/-- The steps from the root to an event, the outermost one first. -/
abbrev Route := List Step

namespace Route

/-- Arguments, overridden by each step of a route. -/
def kwargs (route : Route) (given : Kwargs) : Kwargs :=
  route.foldl (fun k step => k.override step.overrides) given

/-- Ancestors, followed by the drafts that a route goes through. -/
def stack (route : Route) (given : List NodeView) : List NodeView :=
  given ++ route.flatMap Step.drafts

end Route

/-- An event occurs in a journal, at the end of a route. -/
inductive Occurs (e : Event) : Route → List Event → Prop
  | here {journal : List Event} (mem : e ∈ journal) : Occurs e [] journal
  | within {step : Step} {inside journal : List Event} {route : Route}
      (mem : .within step inside ∈ journal) (below : Occurs e route inside) :
      Occurs e (step :: route) journal

/-- A computation of an observed validation. -/
abbrev Watch (α : Type) := Observed RunState Event α

abbrev NodeWatch := Value → String → Place → Watch (Option Node)

abbrev ValueWatch := FieldSpec → Value → Place → Watch (Option Value)

/-- What is noted behind a step is noted as one event. -/
def within {α : Type} (step : Step) (y : Watch α) : Watch α :=
  enclosed (fun _ inside => .within step inside) y

/-- What is noted of a node is noted as one event. -/
def withinNode (schema : Schema) (y : Watch (Option Node)) : Watch (Option Node) :=
  enclosed (fun result inside => .within (.node schema result) inside) y

/-- A run of its own, which is noted nevertheless. -/
def trial {α : Type} (y : Watch α) : Watch (α × Array Issue × Array LogEntry) := fun (s, seen) =>
  match y ({ memory := s.memory }, seen) with
  | (.ok a, t, seen) => (.ok (a, t.issues, t.log), { s with memory := t.memory }, seen)
  | (.error e, t, seen) => (.error e, { s with memory := t.memory }, seen)

def afresh {α : Type} (cells : List Nat) (y : Watch α) : Watch α := do
  let s ← silent (get : Run RunState)
  silent (modify fun s => { s with memory := s.memory.clear cells } : Run Unit)
  let result ← y
  silent (modify fun t => { t with memory := t.memory.copy cells s.memory } : Run Unit)
  return result

/-- A check of nodes that calls nobody. -/
def idle : NodeRun := fun _ _ _ => return none

variable (rules : Rules)

section choice

open Choice

def matching (node : NodeWatch) (raw : Value) (place : Place) : List String → Watch (List Match)
  | [] => return []
  | schema :: rest => do
    let (found, issues, log) ← trial (node raw schema place)
    let others ← matching node raw place rest
    match found with
    | some n => return if issues.isEmpty then ⟨n, log⟩ :: others else others
    | none => return others

/-- What becomes of a value, once it is known which members it fits. -/
def settle (raw : Value) (group : String) (place : Place) (types : List String) :
    List Match → Run (Option Node)
  | [found] => do
    Run.adopt found.log
    return some found.node
  | found => do
    let fitting := Fault.quoteList (found.map fun f => f.node.choiceType.getD f.node.schema)
    let message :=
      if found.isEmpty then s!"the value does not match any '{group}' type. {validTypes types}"
      else s!"the value matches several '{group}' types: {fitting}"
    Run.report rules place.path .constraintViolation message
      (some "Add a 'type' field to pick one.") (some raw)
    return none

def byType (node : NodeWatch) (raw : Value) (group : String) (place : Place)
    (members : List (String × String)) (types : List String) (type : Value) :
    Watch (Option Node) :=
  match member? members type with
  | some target => node raw target place
  | none => silent (Choice.byType rules idle raw group place members types type)

def choice (node : NodeWatch) (raw : Value) (group : String) (place : Place) :
    Watch (Option Node) := do
  if ← silent (Run.halted rules) then return none
  let members := rules.registry.choiceMembers group
  let types := Text.sortByUnits (members.map Prod.fst)
  match namedType? raw with
  | some type => byType rules node raw group place members types type
  | none =>
    match members with
    | [(_, only)] => node raw only place
    | _ =>
      if isEmptyRecord raw then
        silent (Run.report rules place.path .constraintViolation
          s!"the object needs a 'type' field. {validTypes types}" none (some raw))
        return none
      else
        let found ← matching node raw place (members.map Prod.snd)
        silent (settle rules raw group place types found)

end choice

def context (node : NodeWatch) (value : ValueWatch) (spec : FieldSpec) (place : Place) :
    KindContext Watch :=
  let inner := place.inside spec
  { path := place.path
    kwargs := inner.kwargs
    halted := silent (Run.halted rules)
    node := fun raw schema overrides => node raw schema (inner.below overrides)
    choice := fun raw group overrides => choice rules node raw group (inner.below overrides)
    value := fun other raw label => within (.part other) (value other raw (inner.labelled label))
    test := fun pattern text => silent (Run.test pattern text)
    afresh := fun other y => afresh other.patternCells y }

def checkWith (ctx : KindContext Watch) (parts : PartChecks Watch) (spec : FieldSpec) (raw : Value)
    (path : List String) : Watch (Option Value) := do
  if ← silent (Run.halted rules) then return none
  if raw.isNull && !rules.registry.kinds.acceptsNull spec.kind then
    if spec.info.nullable then return some .null
    else
      silent (Run.report rules path .typeMismatch "the value must not be null"
        (spec.info.default?.map fun _ => "Leave the field out to use its default."))
      return none
  else if raw.isUndefined then
    silent (Run.report rules path .typeMismatch "the value is missing")
    return none
  else
    match ← rules.registry.kinds.check spec.kind ctx parts spec raw with
    | .error findings =>
      silent (findings.forM (Run.reportFinding rules path raw))
      return none
    | .ok value => silent (Validation.checkAccepted rules spec raw value path)

def checkSpec (node : NodeWatch) (other : ValueWatch) : ValueWatch
  | .leaf info, raw, place =>
    let spec := FieldSpec.leaf info
    checkWith rules (context rules node other spec place) .none spec raw place.path
  | .list info item, raw, place =>
    let spec := FieldSpec.list info item
    let inner := place.inside spec
    checkWith rules (context rules node other spec place)
      (.list fun raw label => within (.part item) (checkSpec node other item raw (inner.labelled label)))
      spec raw place.path
  | .mapping info key value, raw, place =>
    let spec := FieldSpec.mapping info key value
    let inner := place.inside spec
    checkWith rules (context rules node other spec place)
      (.mapping (key.kind == PartChecks.integerKeys)
        (fun raw label => within (.part key) (checkSpec node other key raw (inner.labelled label)))
        (fun raw label => within (.part value) (checkSpec node other value raw (inner.labelled label))))
      spec raw place.path
  | .either info primitive complex, raw, place =>
    let spec := FieldSpec.either info primitive complex
    let inner := place.inside spec
    checkWith rules (context rules node other spec place)
      (.either
        (fun raw label =>
          within (.part primitive) (checkSpec node other primitive raw (inner.labelled label)))
        (fun raw label =>
          within (.part complex) (checkSpec node other complex raw (inner.labelled label))))
      spec raw place.path

def checkValue (node : NodeWatch) : (questions : Nat) → ValueWatch
  | 0 => checkSpec rules node fun _ _ _ => throw .overflow
  | questions + 1 => checkSpec rules node (checkValue node questions)

def expand (value : ValueWatch) (raw : Value) (schema : Schema) (place : Place) :
    Watch (Option (Entries Value)) := do
  match raw.entries?, schema.info.shortform with
  | none, some short =>
    match ← within (.shortform short.field)
        (value short.field raw (place.field schema.name short.field.name)) with
    | none => return none
    | some v => return some (← silent (liftM (short.expand v)))
  | _, _ => silent (Validation.expand rules (fun _ _ _ => return none) raw schema place)

def resolve (value : ValueWatch) (place : Place) (draft : Draft) (spec : FieldSpec) (raw : Value)
    (defaulted : Bool) : Watch Draft := do
  let inner := { place.field draft.schema spec.name with stack := place.stack ++ [draft.view] }
  match ← within (.field spec draft.view) (value spec raw inner) with
  | some v => return draft.set spec.name v defaulted
  | none => return draft

open Validation (Slot)

def firstPass (value : ValueWatch) (schema : Schema) (record : Entries Value) (place : Place) :
    Draft → List FieldSpec → Watch (List Slot × Draft)
  | draft, [] => return ([], draft)
  | draft, spec :: rest => do
    if ← silent (Run.halted rules) then
      let (slots, draft) ← firstPass value schema record place draft rest
      return ({ spec } :: slots, draft)
    else
      match ← silent (Validation.start schema record spec) with
      | none =>
        let (slots, draft) ← firstPass value schema record place draft rest
        return ({ spec } :: slots, draft)
      | some (raw, defaulted) =>
        let supplied := !defaulted
        if !raw.isNull && rules.registry.kinds.isNested spec.kind then
          let (slots, draft) ← firstPass value schema record place draft rest
          return ({ spec, supplied, waiting := some (raw, defaulted) } :: slots, draft)
        else
          let draft ← resolve value place draft spec raw defaulted
          let (slots, draft) ← firstPass value schema record place draft rest
          return ({ spec, supplied } :: slots, draft)

def secondPass (value : ValueWatch) (place : Place) :
    (earlier : List String) → Draft → List Slot → Watch Draft
  | _, draft, [] => return draft
  | earlier, draft, slot :: rest => do
    let spec := slot.spec
    let next := earlier ++ [spec.name]
    if ← silent (Run.halted rules) then secondPass value place next draft rest
    else
      match slot.waiting, slot.supplied, spec.info.default? with
      | some (raw, defaulted), _, _ =>
        let draft ← resolve value place draft spec raw defaulted
        secondPass value place next draft rest
      | none, false, some (.computed generate) =>
        let raw ← consult (.generated spec) generate
          ⟨place.stack, draft.snapshot earlier, place.kwargs, spec.name⟩
        let draft ← resolve value place draft spec raw true
        secondPass value place next draft rest
      | _, _, _ => secondPass value place next draft rest

def checkNode (schema : Schema) (draft : Draft) (place : Place) : Watch Bool := do
  match schema.info.validator with
  | none => return true
  | some check =>
    match ← consult .checked check ⟨draft.snapshot schema.fieldNames, place.stack, place.kwargs⟩ with
    | .pass => return true
    | .fail =>
      silent (Run.report rules place.path .constraintViolation
        s!"the '{schema.name}' node failed its check")
      return false
    | .failWith message =>
      silent (Run.report rules place.path .constraintViolation message)
      return false

def checkFields (value : ValueWatch) (schema : Schema) (record : Entries Value) (place : Place) :
    Watch (Option Node) := do
  let before ← silent (get : Run RunState)
  silent (Validation.checkType rules schema record place)
  silent (Validation.checkKeys rules schema place record)
  let empty : Draft := { schema := schema.name }
  let (slots, draft) ← firstPass rules value schema record place empty schema.fields
  let draft ← secondPass rules value place [] draft slots
  silent (Validation.checkMissing rules schema place slots)
  let after ← silent (get : Run RunState)
  if before.issues.size < after.issues.size then return none
  else if ← silent (Run.halted rules) then return none
  else if ← checkNode rules schema draft place then
    return some (draft.finish schema.fieldNames schema.choiceType schema.compactable)
  else return none

def checkNodeWith (value : ValueWatch) : NodeWatch := fun raw name place => do
  if ← silent (Run.halted rules) then return none
  match rules.registry.find? name with
  | none =>
    silent (Run.report rules place.path .schemaNotFound s!"the schema '{name}' is not registered"
      (didYouMean name rules.registry.names))
    return none
  | some schema => withinNode schema do
    if rules.maxDepth.lt place.depth then
      silent (Run.report rules place.path .constraintViolation
        s!"the tree is nested deeper than the maximum depth of {rules.maxDepth.text}")
      return none
    else
      let names := schema.info.requires.getD []
      let missing ← consult (.required names) (fun kwargs => .ok (kwargs.missing names)) place.kwargs
      if missing ≠ [] then throw (.missingArguments schema.name missing)
      match ← expand rules value raw schema place with
      | none => return none
      | some record => checkFields rules value schema record place

def checkNodeAt : (levels : Nat) → NodeWatch
  | 0 => fun _ _ _ => throw .overflow
  | levels + 1 => checkNodeWith rules (checkValue rules (checkNodeAt levels) Validation.questionLimit)

end Journal

/-- The run of a validation from the root, with the state that it ends in and its journal. -/
def ValidateOptions.observe (o : ValidateOptions) (r : Registry) (raw : Value) (schema : String)
    (memory : Memory) : Except Fault (Option Node) × RunState × List Journal.Event :=
  Journal.checkNodeAt (o.rules r) (Validation.levels o.maxDepth) raw schema
    ⟨[], o.stack, o.kwargs, 1⟩ ({ memory }, [])

/-- A raw value as a tree of a schema, with the journal of the validation. -/
def Registry.observe (r : Registry) (memory : Memory) (raw : Value) (schema : String)
    (o : ValidateOptions) : Outcome × List Journal.Event :=
  if !r.frozen then (⟨.error .registryOpen, [], memory⟩, [])
  else
    let (result, s, journal) := o.observe r raw schema memory
    let result := match result with
      | .error fault => .error fault
      | .ok (some node) =>
        if s.issues.isEmpty then .ok (.valid node) else .ok (.invalid s.issues.toList)
      | .ok none => .ok (.invalid s.issues.toList)
    (⟨result, s.log.toList, s.memory⟩, journal)

end ShapedTree
