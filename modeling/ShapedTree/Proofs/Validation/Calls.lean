import ShapedTree.Proofs.Kind.Findings
import ShapedTree.Proofs.Kind.Inquiry
import ShapedTree.Proofs.Kind.Standard
import ShapedTree.Proofs.Run.Coincidence
import ShapedTree.Proofs.Validation.ValueLockstep

namespace ShapedTree

/-- The place of a field's value under a draft of the node that has the field. -/
def Place.under (p : Place) (schema : Schema) (spec : FieldSpec) (draft : Draft) : Place :=
  { p.field schema.name spec.name with stack := p.stack ++ [draft.view] }

open Run

namespace Validation

inductive Call where
  | node (raw : Value) (name : String) (place : Place)
  | choice (raw : Value) (group : String) (place : Place)
  | value (spec : FieldSpec) (raw : Value) (place : Place)

/-- The calls that a call may make itself. A node whose schema is registered and that is not too
deep has its shortform and its fields checked, each field on a raw value from anywhere. -/
inductive Calls (rules : Rules) : Call → Call → Prop
  | shortform {raw : Value} {name : String} {place : Place} {schema : Schema} {short : Shortform}
      (found : rules.registry.find? name = some schema)
      (shallow : rules.maxDepth.lt place.depth = false)
      (declared : schema.info.shortform = some short) :
      Calls rules (.node raw name place)
        (.value short.field raw (place.field schema.name short.field.name))
  | field {raw value : Value} {name : String} {place : Place} {schema : Schema} {spec : FieldSpec}
      {draft : Draft} (found : rules.registry.find? name = some schema)
      (shallow : rules.maxDepth.lt place.depth = false) (declared : spec ∈ schema.fields)
      (own : draft.schema = schema.name) :
      Calls rules (.node raw name place) (.value spec value (place.under schema spec draft))
  | member {raw : Value} {group type name : String} {place : Place}
      (member : (type, name) ∈ rules.registry.choiceMembers group) :
      Calls rules (.choice raw group place) (.node raw name place)
  | target {spec : FieldSpec} {raw : Value} {target : String} {place : Place}
      (kind : spec.kind = BuiltinKind.node.tag)
      (named : spec.info.constraints.target = some target) :
      Calls rules (.value spec raw place)
        (.node raw target ((place.inside spec).below spec.info.kwargs))
  | group {spec : FieldSpec} {raw : Value} {group : String} {place : Place}
      (kind : spec.kind = BuiltinKind.choice.tag)
      (named : spec.info.constraints.choice = some group) :
      Calls rules (.value spec raw place)
        (.choice raw group ((place.inside spec).below spec.info.kwargs))
  | item {info : FieldInfo} {item : FieldSpec} {raw : Value} {items : List Value} {v : Value}
      {i : Nat} {place : Place} (shape : raw.items? = some items) (at_ : items[i]? = some v) :
      Calls rules (.value (.list info item) raw place)
        (.value item v ((place.inside (.list info item)).labelled s!"[{i}]"))
  | key {info : FieldInfo} {key value : FieldSpec} {raw : Value} {es : Entries Value}
      {e : String × Value} {place : Place} (shape : raw.entries? = some es) (entry : e ∈ es) :
      Calls rules (.value (.mapping info key value) raw place)
        (.value key (.text e.1)
          ((place.inside (.mapping info key value)).labelled (entryLabel e.1)))
  | entry {info : FieldInfo} {key value : FieldSpec} {raw : Value} {es : Entries Value}
      {e : String × Value} {place : Place} (shape : raw.entries? = some es) (entry : e ∈ es) :
      Calls rules (.value (.mapping info key value) raw place)
        (.value value e.2 ((place.inside (.mapping info key value)).labelled (entryLabel e.1)))
  | form {info : FieldInfo} {primitive complex : FieldSpec} {raw : Value} {place : Place} :
      Calls rules (.value (.either info primitive complex) raw place)
        (.value (if raw.isPrimitive then primitive else complex) raw
          ((place.inside (.either info primitive complex)).labelled ""))

/-- The issues that a call may raise itself, each with its path and its kind. -/
inductive Raises (rules : Rules) : Call → Issue → Prop
  | unregistered {raw : Value} {name message : String} {place : Place}
      {suggestion received : Option String} (absent : rules.registry.find? name = none) :
      Raises rules (.node raw name place)
        ⟨place.path, .schemaNotFound, message, suggestion, received⟩
  | tooDeep {raw : Value} {name message : String} {place : Place} {schema : Schema}
      {suggestion received : Option String} (found : rules.registry.find? name = some schema)
      (deep : rules.maxDepth.lt place.depth = true) :
      Raises rules (.node raw name place)
        ⟨place.path, .constraintViolation, message, suggestion, received⟩
  | shapeless {raw : Value} {name message : String} {place : Place} {schema : Schema}
      {suggestion received : Option String} (found : rules.registry.find? name = some schema)
      (shape : raw.entries? = none) (open_ : schema.info.shortform = none) :
      Raises rules (.node raw name place) ⟨place.path, .typeMismatch, message, suggestion, received⟩
  | mistyped {raw : Value} {name message : String} {place : Place} {schema : Schema}
      {suggestion received : Option String} (found : rules.registry.find? name = some schema)
      (member : schema.info.choice.isSome = true) :
      Raises rules (.node raw name place)
        ⟨(place.field schema.name "type").path, .constraintViolation, message, suggestion, received⟩
  | undeclared {raw : Value} {name key message : String} {place : Place} {schema : Schema}
      {suggestion received : Option String} (found : rules.registry.find? name = some schema)
      (strict : rules.unknownFields = .strict) (refused : acceptsKey schema key = false) :
      Raises rules (.node raw name place)
        ⟨(place.field schema.name key).path, .unknownField, message, suggestion, received⟩
  | missing {raw : Value} {name message : String} {place : Place} {schema : Schema}
      {spec : FieldSpec} {suggestion received : Option String}
      (found : rules.registry.find? name = some schema) (declared : spec ∈ schema.fields) :
      Raises rules (.node raw name place)
        ⟨(place.field schema.name spec.name).path, .missingField, message, suggestion, received⟩
  | refused {raw : Value} {name message : String} {place : Place} {schema : Schema}
      {suggestion received : Option String} (found : rules.registry.find? name = some schema)
      (checked : schema.info.validator.isSome = true) :
      Raises rules (.node raw name place)
        ⟨place.path, .constraintViolation, message, suggestion, received⟩
  | unfit {raw : Value} {group message : String} {place : Place}
      {suggestion received : Option String} :
      Raises rules (.choice raw group place)
        ⟨place.path, .constraintViolation, message, suggestion, received⟩
  | unknownKind {spec : FieldSpec} {raw : Value} {place : Place} {received : Option String}
      (unknown : rules.registry.kinds.has spec.kind = false) :
      Raises rules (.value spec raw place) ⟨place.path, .typeMismatch,
        s!"unknown field kind '{spec.kind}'", didYouMean spec.kind rules.registry.kinds.tags,
        received⟩
  | unsuitable {spec : FieldSpec} {raw : Value} {place : Place} {kind : IssueKind}
      {message : String} {suggestion received : Option String}
      (sort : kind = .typeMismatch ∨ kind = .constraintViolation) :
      Raises rules (.value spec raw place) ⟨place.path, kind, message, suggestion, received⟩

end Validation

namespace Kind

variable {rules : Rules} {law : Issue → Prop} {byInteger : Bool}
  {key key' value value' : PartCheck Run}

theorem checkText_coincides (c : Constraints) (raw : Value) :
    Coincides anywhere law (checkText Run.test c raw) (checkText Run.test c raw) Judges := by
  unfold checkText
  split
  next s =>
    split
    next f broken => exact .pure (.found (judges_of_textLength broken))
    next =>
      split
      next => exact .pure .ok
      next p _ =>
        refine (Coincides.test p s).bind fun matched _ => ?_
        cases matched with
        | true => exact .pure .ok
        | false => exact .pure (.found (.inr rfl))
  next => exact .pure (.found (.inl rfl))

theorem checkItems_coincides {item item' : PartCheck Run} (index : Nat) (items : List Value)
    (h : ∀ i v, items[i]? = some v → Coincides anywhere law (item v s!"[{index + i}]")
      (item' v s!"[{index + i}]") fun _ => True) :
    Coincides anywhere law (checkItems (halted rules) item index items)
      (checkItems (halted rules) item' index items) fun _ => True := by
  induction items generalizing index with
  | nil => exact .pure trivial
  | cons raw rest ih =>
    have first := h 0 raw rfl
    have others := ih (index + 1) fun i v at_ => by
      have shifted := h (i + 1) v at_
      rwa [show index + (i + 1) = index + 1 + i by omega] at shifted
    refine first.bind fun first _ => Coincides.halted.bind fun stopped _ => ?_
    cases stopped with
    | true => exact .pure trivial
    | false =>
      refine others.bind fun others _ => ?_
      cases first <;> cases others <;> exact .pure trivial

theorem checkEntries_coincides (es : List (String × Value))
    (hkey : ∀ e ∈ es, Coincides anywhere law (key (.text e.1) (Validation.entryLabel e.1))
      (key' (.text e.1) (Validation.entryLabel e.1)) fun _ => True)
    (hvalue : ∀ e ∈ es, Coincides anywhere law (value e.2 (Validation.entryLabel e.1))
      (value' e.2 (Validation.entryLabel e.1)) fun _ => True)
    (failed : Bool) (done : Entries Value) :
    Coincides anywhere law (checkEntries (halted rules) byInteger key value failed done es)
      (checkEntries (halted rules) byInteger key' value' failed done es) Judges := by
  have finished : ∀ failed done, Judges
      (if failed = true then reported else .ok (.record (sortMapping byInteger done) true)) := by
    intro failed done
    cases failed with
    | true => exact .reported
    | false => exact .ok
  induction es generalizing failed done with
  | nil => exact .pure (finished failed done)
  | cons e rest ih =>
    have next : ∀ failed done, Coincides anywhere law
        (checkRest (halted rules) byInteger key value failed done rest)
        (checkRest (halted rules) byInteger key' value' failed done rest) Judges := by
      intro failed done
      refine Coincides.halted.bind fun stopped _ => ?_
      cases stopped with
      | true => exact .pure (finished failed done)
      | false =>
        exact ih (fun e he => hkey e (List.mem_cons_of_mem _ he))
          (fun e he => hvalue e (List.mem_cons_of_mem _ he)) failed done
    rw [checkEntries_cons, checkEntries_cons]
    refine (hkey e (by simp)).bind fun k _ => (hvalue e (by simp)).bind fun v _ => ?_
    cases settled k v with
    | some f =>
      simp only
      split
      next => exact .pure (.violation _ _)
      next => exact next failed _
    | none => exact next true done

end Kind

namespace Choice

open Validation

variable {rules : Rules} {law : Issue → Prop} {node node' : NodeRun} {raw : Value} {place : Place}

theorem matching_coincides {pre : RunState → Prop} {tried : Issue → Prop} (names : List String)
    (h : ∀ name ∈ names, Coincides (going rules) tried (node raw name place) (node' raw name place)
      fun _ => True) :
    Coincides pre law (matching node raw place names) (matching node' raw place names)
      fun _ => True := by
  induction names generalizing pre with
  | nil => exact .pure trivial
  | cons name rest ih =>
    obtain ⟨first, others⟩ := List.forall_mem_cons.mp h
    refine first.trial.bind fun (found, issues, log) _ => (ih others).bind fun others _ => ?_
    cases found with
    | none => exact .pure trivial
    | some n =>
      simp only
      split <;> exact .pure trivial

theorem check_coincides {group : String}
    (members : ∀ type name, (type, name) ∈ rules.registry.choiceMembers group →
      Coincides (going rules) law (node raw name place) (node' raw name place) fun _ => True)
    (own : ∀ i, Raises rules (.choice raw group place) i → law i) :
    Coincides anywhere law (check rules node raw group place) (check rules node' raw group place)
      fun _ => True := by
  have refused : ∀ {pre : RunState → Prop} {message : String} {suggestion : Option String}
      {shown : Option Value}, Coincides pre law
        (do Run.report rules place.path .constraintViolation message suggestion shown
            pure (none : Option Node))
        (do Run.report rules place.path .constraintViolation message suggestion shown
            pure none) fun _ => True :=
    (Coincides.report fun _ => own _ .unfit).bind fun _ _ => .pure trivial
  unfold check
  refine .guard (.pure trivial) ?_
  simp only
  split
  next type _ =>
    unfold byType
    split
    next target found =>
      unfold member? at found
      split at found
      next => exact members _ target (Entries.mem_of_lookup found)
      next => cases found
    next => exact (Coincides.lift _).bind fun _ _ => refused
  next =>
    split
    next type only single =>
      exact members type only (single ▸ List.mem_singleton.mpr rfl)
    next =>
      split
      next => exact refused
      next =>
        unfold byFit
        have all : ∀ name ∈ (rules.registry.choiceMembers group).map Prod.snd,
            Coincides (going rules) law (node raw name place) (node' raw name place)
              fun _ => True := by
          intro name hname
          obtain ⟨⟨type, _⟩, member, rfl⟩ := List.mem_map.mp hname
          exact members type _ member
        refine (matching_coincides _ all).bind fun found _ => ?_
        split
        next m => exact (Coincides.adopt _).bind fun _ _ => .pure trivial
        next => exact refused

end Choice

namespace Validation

variable {rules : Rules} {law : Issue → Prop} {node node' choice choice' : NodeRun}
  {other other' : ValueRun}

/-- What a kind may ask at a place, where the check of choices is given as well. -/
def contextWith (rules : Rules) (node choice : NodeRun) (value : ValueRun) (spec : FieldSpec)
    (place : Place) : KindContext Run :=
  { context rules node value spec place with
    choice := fun raw group overrides =>
      choice raw group ((place.inside spec).below overrides) }

/-- The checks of a specification's parts coincide on the parts of a raw value. -/
inductive PartsCoincide (law : Issue → Prop) (raw : Value) : PartChecks Run → PartChecks Run → Prop
  | none : PartsCoincide law raw .none .none
  | list {item item' : PartCheck Run}
      (h : ∀ items, raw.items? = some items → ∀ (i : Nat) (v : Value), items[i]? = some v →
        Coincides anywhere law (item v s!"[{i}]") (item' v s!"[{i}]") fun _ => True) :
      PartsCoincide law raw (.list item) (.list item')
  | mapping {byInteger : Bool} {key key' value value' : PartCheck Run}
      (hkey : ∀ es, raw.entries? = some es → ∀ e ∈ es, Coincides anywhere law
        (key (.text e.1) (entryLabel e.1)) (key' (.text e.1) (entryLabel e.1)) fun _ => True)
      (hvalue : ∀ es, raw.entries? = some es → ∀ e ∈ es, Coincides anywhere law
        (value e.2 (entryLabel e.1)) (value' e.2 (entryLabel e.1)) fun _ => True) :
      PartsCoincide law raw (.mapping byInteger key value) (.mapping byInteger key' value')
  | either {primitive primitive' complex complex' : PartCheck Run}
      (form : Coincides anywhere law ((if raw.isPrimitive then primitive else complex) raw "")
        ((if raw.isPrimitive then primitive' else complex') raw "") fun _ => True) :
      PartsCoincide law raw (.either primitive complex) (.either primitive' complex')

/-- A kind without parts finds for itself what it finds. -/
theorem flat_coincides {k : BuiltinKind} (flat : k.isNested = false) {spec : FieldSpec}
    {raw : Value} {place : Place} {parts parts' : PartChecks Run} :
    Coincides (going rules) law
      (k.check (contextWith rules node choice other spec place) parts spec.info raw)
      (k.check (contextWith rules node' choice' other' spec place) parts' spec.info raw)
      Kind.Judges := by
  have checked : Coincides (going rules) law (Kind.checkText Run.test spec.info.constraints raw)
      (Kind.checkText Run.test spec.info.constraints raw) Kind.Judges :=
    (Kind.checkText_coincides _ _).restrict fun _ _ => trivial
  cases k with
  | number => exact .pure (Kind.checkNumber_judges _ _)
  | integer => exact .pure (Kind.checkInteger_judges _ _)
  | boolean => exact .pure (Kind.checkBoolean_judges _)
  | selection => exact .pure (Kind.checkSelection_judges _ _)
  | multiselection => exact .pure (Kind.checkMultiselection_judges _ _)
  | json => exact .pure (Kind.checkJson_judges _)
  | integerText => exact .pure (Kind.checkIntegerText_judges _ _)
  | string =>
    refine checked.bind fun result judged => .pure ?_
    cases result with
    | error fs =>
      rintro gs ⟨⟩
      exact judged fs rfl
    | ok s => exact .ok
  | identifier =>
    exact checked.bind fun result judged => .pure (judged.bind Kind.checkIdentifier_judges)
  | pattern => exact checked.bind fun result judged => .pure (judged.bind Kind.checkPattern_judges)
  | node | choice | list | mapping | either => cases flat

/-- A built-in kind asks for nothing but the nodes, the choice and the parts that its specification
names. -/
theorem kind_coincides {k : BuiltinKind} {spec : FieldSpec} {raw : Value} {place : Place}
    {parts parts' : PartChecks Run}
    (target : k = .node → ∀ target, spec.info.constraints.target = some target →
      Coincides (going rules) law (node raw target ((place.inside spec).below spec.info.kwargs))
        (node' raw target ((place.inside spec).below spec.info.kwargs)) fun _ => True)
    (group : k = .choice → ∀ group, spec.info.constraints.choice = some group →
      Coincides (going rules) law (choice raw group ((place.inside spec).below spec.info.kwargs))
        (choice' raw group ((place.inside spec).below spec.info.kwargs)) fun _ => True)
    (hparts : PartsCoincide law raw parts parts') :
    Coincides (going rules) law
      (k.check (contextWith rules node choice other spec place) parts spec.info raw)
      (k.check (contextWith rules node' choice' other' spec place) parts' spec.info raw)
      Kind.Judges := by
  have node_judges : ∀ answer, Kind.Judges (Kind.ofNode answer) := by
    intro answer
    cases answer with
    | none => exact .reported
    | some n => exact .ok
  cases nested : k.isNested with
  | false => exact flat_coincides nested
  | true =>
    obtain ⟨q, asks, same⟩ := BuiltinKind.check_asks nested spec.info raw
    rw [same, same]
    cases asks with
    | mismatch => exact .pure (.mismatch _ _)
    | length _ broken => exact .pure (.found (Kind.judges_of_listLength broken))
    | node named =>
      exact (target rfl _ named).bind fun answer _ => .pure (node_judges answer)
    | choice named =>
      exact (group rfl _ named).bind fun answer _ => .pure (node_judges answer)
    | @items vs shape _ =>
      cases hparts with
      | list h =>
        refine (Coincides.restrict (Kind.checkItems_coincides 0 vs fun i v at_ => ?_)
          fun _ _ => trivial).bind fun answer _ => ?_
        · simpa using h vs shape i v at_
        · cases answer with
          | none => exact .pure .reported
          | some ws => exact .pure .ok
      | _ => exact .pure (.mismatch _ _)
    | @entries es shape =>
      cases hparts with
      | mapping hkey hvalue =>
        exact (Kind.checkEntries_coincides es (hkey es shape) (hvalue es shape) false []).restrict
          fun _ _ => trivial
      | _ => exact .pure (.mismatch _ _)
    | form =>
      cases hparts with
      | either form =>
        refine (form.restrict fun _ _ => trivial).bind fun answer _ => ?_
        cases answer with
        | none => exact .pure .reported
        | some v => exact .pure .ok
      | _ => exact .pure (.mismatch _ _)

theorem checkAccepted_coincides {pre : RunState → Prop} {spec : FieldSpec} {raw v : Value}
    {path : List String} (lawful : ∀ message received,
      law ⟨path, .constraintViolation, message, none, received⟩) :
    Coincides pre law (checkAccepted rules spec raw v path) (checkAccepted rules spec raw v path)
      fun _ => True := by
  cases validator : spec.info.constraints.validator with
  | none =>
    simp only [checkAccepted, validator]
    exact .pure trivial
  | some check =>
    simp only [checkAccepted, validator]
    refine (Coincides.lift (check v)).bind fun verdict _ => ?_
    cases verdict with
    | pass => exact .pure trivial
    | fail => exact (Coincides.report (lawful _)).bind fun _ _ => .pure trivial
    | failWith => exact (Coincides.report (lawful _)).bind fun _ _ => .pure trivial

theorem reportAll_coincides {path : List String} {raw : Value} (findings : List Finding)
    (lawful : ∀ f ∈ findings, ∀ received,
      law ⟨path, f.kind, f.message, f.suggestion, received⟩) :
    Coincides anywhere law (findings.forM (reportFinding rules path raw))
      (findings.forM (reportFinding rules path raw)) fun _ => True := by
  induction findings with
  | nil => exact .pure trivial
  | cons f fs ih =>
    obtain ⟨first, others⟩ := List.forall_mem_cons.mp lawful
    exact (Coincides.report first).bind fun _ _ => ih others

/-- The checks of every sort of call. -/
structure Checks where
  node : NodeRun
  choice : NodeRun
  value : ValueRun

namespace Checks

/-- Two checks coincide at a call. Nodes and choices may be asked for in certain states only. -/
def CoincideAt (pre : RunState → Prop) (law : Issue → Prop) (c d : Checks) : Call → Prop
  | .node raw name place =>
    Coincides pre law (c.node raw name place) (d.node raw name place) fun _ => True
  | .choice raw group place =>
    Coincides pre law (c.choice raw group place) (d.choice raw group place) fun _ => True
  | .value spec raw place =>
    Coincides anywhere law (c.value spec raw place) (d.value spec raw place) fun _ => True

/-- The check of a specification's parts, each at its own place. -/
def parts (c : Checks) (spec : FieldSpec) (place : Place) : PartChecks Run :=
  .ofSpec (fun part raw label => c.value part raw ((place.inside spec).labelled label)) spec

/-- What every call does with the answers of the calls that it makes. -/
def unfold (rules : Rules) (c : Checks) : Checks where
  node := checkNodeWith rules c.value
  choice := Choice.check rules c.node
  value := fun spec raw place =>
    checkWith rules (contextWith rules c.node c.choice c.value spec place) (c.parts spec place) spec
      raw place.path

variable {c d : Checks} {spec : FieldSpec} {raw : Value} {place : Place}

theorem parts_coincide (callees : ∀ callee, Calls rules (.value spec raw place) callee →
      c.CoincideAt (going rules) law d callee) :
    PartsCoincide law raw (c.parts spec place) (d.parts spec place) := by
  cases spec with
  | leaf info => exact .none
  | list info item =>
    exact .list fun items shape i v at_ => callees _ (.item shape at_)
  | mapping info key value =>
    exact .mapping (fun es shape e he => callees _ (.key shape he))
      fun es shape e he => callees _ (.entry shape he)
  | either info primitive complex =>
    have form := callees _ .form
    refine .either ?_
    cases isPrimitive : raw.isPrimitive with
    | true =>
      rw [isPrimitive] at form
      exact form
    | false =>
      rw [isPrimitive] at form
      exact form

/-- What a catalog makes of a value depends on the answers of the calls of its kind, and only finds
what the value raises itself. -/
theorem catalog_coincides {other other' : ValueRun}
    (standard : spec.Standard rules.registry.kinds)
    (callees : ∀ callee, Calls rules (.value spec raw place) callee →
      c.CoincideAt (going rules) law d callee)
    (own : ∀ i, Raises rules (.value spec raw place) i → law i) :
    Coincides (going rules) law
      (rules.registry.kinds.check spec.kind (contextWith rules c.node c.choice other spec place)
        (c.parts spec place) spec raw)
      (rules.registry.kinds.check spec.kind (contextWith rules d.node d.choice other' spec place)
        (d.parts spec place) spec raw)
      fun result => ∀ fs, result = .error fs → ∀ f ∈ fs, ∀ received,
        law ⟨place.path, f.kind, f.message, f.suggestion, received⟩ := by
  cases known : rules.registry.kinds.find? spec.kind with
  | none =>
    simp only [KindCatalog.check, known]
    refine .pure ?_
    rintro fs ⟨⟩ f hf received
    rw [List.mem_singleton.mp hf]
    exact own _ (.unknownKind (by simp [KindCatalog.has, known]))
  | some definition =>
    obtain ⟨k, kind, rfl⟩ := standard definition known
    have knows : rules.registry.kinds.Knows k spec := ⟨kind, kind ▸ known⟩
    rw [knows.check_eq, knows.check_eq]
    refine Coincides.mono (kind_coincides ?_ ?_ (parts_coincide callees))
      fun result judged fs failed f hf received => own _ (.unsuitable (judged fs failed f hf))
    · intro isNode target named
      exact callees _ (.target (isNode ▸ kind) named)
    · intro isChoice group named
      exact callees _ (.group (isChoice ▸ kind) named)

/-- Two checks of a value coincide if they do at the calls that it makes. A custom kind could ask
for more; a kind that is not known asks for nothing. -/
theorem value_coincides {other other' : ValueRun}
    (standard : spec.Standard rules.registry.kinds)
    (callees : ∀ callee, Calls rules (.value spec raw place) callee →
      c.CoincideAt (going rules) law d callee)
    (own : ∀ i, Raises rules (.value spec raw place) i → law i) :
    Coincides anywhere law
      (checkWith rules (contextWith rules c.node c.choice other spec place) (c.parts spec place)
        spec raw place.path)
      (checkWith rules (contextWith rules d.node d.choice other' spec place) (d.parts spec place)
        spec raw place.path) fun _ => True := by
  have refused : ∀ {pre : RunState → Prop} {message : String} {suggestion : Option String},
      Coincides pre law
        (do Run.report rules place.path .typeMismatch message suggestion
            pure (none : Option Value))
        (do Run.report rules place.path .typeMismatch message suggestion
            pure none) fun _ => True :=
    (Coincides.report fun _ => own _ (.unsuitable (.inl rfl))).bind fun _ _ => .pure trivial
  unfold checkWith
  refine .guard (.pure trivial) ?_
  split
  next =>
    split
    next => exact .pure trivial
    next => exact refused
  next =>
    split
    next => exact refused
    next =>
      refine (catalog_coincides standard callees own).bind fun result lawful => ?_
      cases result with
      | error findings =>
        exact (reportAll_coincides findings (lawful findings rfl)).bind fun _ _ => .pure trivial
      | ok v =>
        exact checkAccepted_coincides fun _ _ => own _ (.unsuitable (.inr rfl))

end Checks

end Validation

end ShapedTree
