import ShapedTree.Proofs.Validation.Depth

namespace ShapedTree

open Run

namespace Validation

/-- The label of a part of a value: the index of an item or the key of an entry. -/
inductive IsLabel : String → Prop
  | index (i : Nat) : IsLabel s!"[{i}]"
  | entry (key : String) : IsLabel (entryLabel key)

/-- The segment of a path that names a field of a schema. -/
def fieldSegment (schema field : String) : String := s!"{schema}.{field}"

/-- A segment that names a field of a schema, with the labels of parts of its value. -/
inductive Segment (schema field : String) : String → Prop
  | field : Segment schema field (fieldSegment schema field)
  | part {segment label : String} (whole : Segment schema field segment) (part : IsLabel label) :
      Segment schema field (segment ++ label)

/-- A path leads from the first schema to another one: each of its segments names a field of the
schema that is reached, and the field refers to the schema that is reached next. -/
inductive Leads (r : Registry) (first : String) : List String → String → Prop
  | root : Leads r first [] first
  | step {path : List String} {name next segment : String} {schema : Schema} {spec : FieldSpec}
      (before : Leads r first path name) (found : r.find? name = some schema)
      (declared : spec ∈ schema.allFields) (names : Segment name spec.name segment)
      (refers : next ∈ Description.references r spec) : Leads r first (path ++ [segment]) next

/-- A path leads to a field, of which a specification is some part. -/
inductive Traverses (r : Registry) (first : String) : List String → FieldSpec → Prop
  | intro {path : List String} {name segment : String} {schema : Schema} {top spec : FieldSpec}
      (before : Leads r first path name) (found : r.find? name = some schema)
      (declared : top ∈ schema.allFields) (names : Segment name top.name segment)
      (part : spec ∈ top.walk) : Traverses r first (path ++ [segment]) spec

/-- A chain of calls, each with the values that the one before hands on. -/
abbrev Descends (rules : Rules) : Call → Call → Prop := Relation.ReflTransGen (Hands rules)

/-- Where the issues of a validation lie: at a node, at a field, at the type of a member of a choice
group, or at a key that is not declared, of a record that is validated there. -/
inductive Lies (rules : Rules) (root : Call) (first : String) (i : Issue) : Prop
  | node {name : String} (leads : Leads rules.registry first i.path name)
  | field {spec : FieldSpec} (traverses : Traverses rules.registry first i.path spec)
  | type {path : List String} {name : String} {schema : Schema}
      (leads : Leads rules.registry first path name)
      (found : rules.registry.find? name = some schema)
      (member : schema.info.choice.isSome = true) (kind : i.kind = .constraintViolation)
      (path : i.path = path ++ [fieldSegment name "type"])
  | key {raw : Value} {name : String} {place : Place} {schema : Schema} {record : Entries Value}
      {e : String × Value} (leads : Leads rules.registry first place.path name)
      (found : rules.registry.find? name = some schema)
      (reached : Descends rules root (.node raw name place))
      (restates : Restates schema place raw record) (held : e ∈ record)
      (refused : acceptsKey schema e.1 = false) (kind : i.kind = .unknownField)
      (path : i.path = place.path ++ [fieldSegment name e.1])

variable {rules : Rules} {r : Registry} {first name : String} {path : List String}
  {spec : FieldSpec}

theorem extendPath_concat (path : List String) (segment label : String) :
    extendPath (path ++ [segment]) label = path ++ [segment ++ label] := by
  unfold extendPath
  split
  next empty => simp [empty]
  next => simp

/-- The parts of a field's value stand where the field does. -/
theorem Traverses.extended (h : Traverses r first path spec) {part : FieldSpec} {label : String}
    (mem : part ∈ spec.parts) (labels : label = "" ∨ IsLabel label) :
    Traverses r first (extendPath path label) part := by
  obtain ⟨before, found, declared, names, here⟩ := h
  have below := FieldSpec.mem_walk_of_part mem here
  rw [extendPath_concat]
  rcases labels with rfl | labels
  · rw [String.append_empty]
    exact .intro before found declared names below
  · exact .intro before found declared (names.part labels) below

theorem Traverses.leads (h : Traverses r first path spec) {next : String}
    (refers : next ∈ Description.ownReferences r spec) : Leads r first path next := by
  obtain ⟨before, found, declared, names, here⟩ := h
  exact .step before found declared names (Description.mem_references_iff.mpr ⟨_, here, refers⟩)

theorem Traverses.length_extended (h : Traverses r first path spec) (label : String) :
    (extendPath path label).length = path.length := by
  obtain ⟨_, _, _, _, _⟩ := h
  simp [extendPath_concat]

/-- The level of a node or of a choice is one more than the length of its path, and the level above
it is admitted if there is one. -/
structure Levelled (rules : Rules) (place : Place) : Prop where
  depth : place.path.length + 1 = place.depth
  above : place.path = [] ∨ rules.maxDepth.lt (place.path.length : Number) = false

/-- Where a call stands: its path follows the schema graph and is as long as its depth says. -/
def Call.Routed (rules : Rules) (first : String) : Call → Prop
  | .node _ name place => Levelled rules place ∧ Leads rules.registry first place.path name
  | .choice _ group place => Levelled rules place ∧
      (∀ m ∈ rules.registry.choiceMembers group, Leads rules.registry first place.path m.2) ∧
      ∃ spec, Traverses rules.registry first place.path spec
  | .value spec _ place => place.path.length = place.depth ∧
      rules.maxDepth.lt (place.depth : Number) = false ∧
      Traverses rules.registry first place.path spec

theorem Levelled.below {place : Place} (length : place.path.length = place.depth)
    (shallow : rules.maxDepth.lt (place.depth : Number) = false) (spec : FieldSpec) :
    Levelled rules ((place.inside spec).below spec.info.kwargs) :=
  ⟨congrArg (· + 1) length, .inr (length.symm ▸ shallow)⟩

/-- The calls of a call on the routes of the schema graph are on them. -/
theorem Calls.routed {call callee : Call} (h : Calls rules call callee)
    (routed : call.Routed rules first) : callee.Routed rules first := by
  -- A field of a node at its own place, of whatever draft.
  have field : ∀ {raw : Value} {name : String} {place : Place} {schema : Schema}
      {spec : FieldSpec}, (Call.node raw name place).Routed rules first →
      rules.registry.find? name = some schema → rules.maxDepth.lt place.depth = false →
      spec ∈ schema.allFields → (place.field schema.name spec.name).path.length = place.depth ∧
        rules.maxDepth.lt (place.depth : Number) = false ∧
        Traverses rules.registry first (place.field schema.name spec.name).path spec := by
    rintro raw name place schema spec ⟨levelled, leads⟩ found shallow declared
    refine ⟨?_, shallow, ?_⟩
    · rw [← levelled.depth]
      simp [Place.field]
    · have same := Registry.name_of_find? found
      subst same
      exact .intro leads found declared .field spec.self_mem_walk
  have part : ∀ {spec part : FieldSpec} {raw v : Value} {place : Place} {label : String},
      (Call.value spec raw place).Routed rules first → part ∈ spec.parts →
      label = "" ∨ IsLabel label →
      (Call.value part v ((place.inside spec).labelled label)).Routed rules first := by
    rintro spec part raw v place label ⟨length, shallow, traverses⟩ mem labels
    exact ⟨(traverses.length_extended label).trans length, shallow, traverses.extended mem labels⟩
  cases h with
  | @shortform raw name place schema short found shallow declared =>
    exact field routed found shallow (by simp [Schema.allFields, declared])
  | @field raw value name place schema spec draft found shallow declared own =>
    exact field routed found shallow (by simp [Schema.allFields, declared])
  | member member => exact ⟨routed.1, routed.2.1 _ member⟩
  | target kind named =>
    obtain ⟨length, shallow, traverses⟩ := routed
    exact ⟨.below length shallow _,
      traverses.leads (Description.target_mem_ownReferences kind named)⟩
  | group kind named =>
    obtain ⟨length, shallow, traverses⟩ := routed
    refine ⟨.below length shallow _, fun m member => ?_, _, traverses⟩
    exact traverses.leads (Description.member_mem_ownReferences kind named member)
  | item => exact part routed (by simp [FieldSpec.parts]) (.inr (.index _))
  | key => exact part routed (by simp [FieldSpec.parts]) (.inr (.entry _))
  | entry => exact part routed (by simp [FieldSpec.parts]) (.inr (.entry _))
  | @form info primitive complex raw place =>
    refine part routed ?_ (.inl rfl)
    cases raw.isPrimitive <;> simp [FieldSpec.parts]

theorem Reaches.routed {call callee : Call} (h : Reaches rules call callee)
    (routed : call.Routed rules first) : callee.Routed rules first := by
  induction h with
  | refl => exact routed
  | tail _ calls ih => exact calls.routed ih

/-- The path of an issue is on the routes of the schema graph and no longer than the bound. -/
structure OnRoute (rules : Rules) (root : Call) (first : String) (i : Issue) : Prop where
  lies : Lies rules root first i
  within : i.path = [] ∨ rules.maxDepth.lt (i.path.length : Number) = false

/-- What a call on the routes raises lies on them. -/
theorem Reports.onRoute {root call : Call} {i : Issue} (h : Reports rules call i)
    (reached : Descends rules root call) (routed : call.Routed rules first) :
    OnRoute rules root first i := by
  cases h with
  | @outer raw name place i raised path kind =>
    obtain ⟨levelled, leads⟩ := routed
    rw [← path] at leads
    exact ⟨.node leads, path ▸ levelled.above⟩
  | @below raw name place schema record i raised found shallow restates key =>
    obtain ⟨levelled, leads⟩ := routed
    have same := Registry.name_of_find? found
    -- A field of the node lies one segment below it, within the bound that the node keeps.
    have inner : ∀ field : String, i.path = (place.field schema.name field).path →
        i.path = place.path ++ [fieldSegment name field] ∧
          rules.maxDepth.lt (i.path.length : Number) = false := by
      rintro field path
      rw [path, ← same]
      refine ⟨rfl, ?_⟩
      rw [show (place.field schema.name field).path.length = place.depth by
        simp [Place.field, levelled.depth]]
      exact shallow
    have outer : i.path = place.path → OnRoute rules root first i := fun path =>
      ⟨.node (path.symm ▸ leads), path ▸ levelled.above⟩
    cases raised with
    | unregistered => exact outer rfl
    | tooDeep => exact outer rfl
    | shapeless => exact outer rfl
    | refused => exact outer rfl
    | mistyped found' member =>
      cases found.symm.trans found'
      obtain ⟨path, within⟩ := inner "type" rfl
      exact ⟨.type leads found member rfl path, .inr within⟩
    | undeclared found' =>
      cases found.symm.trans found'
      obtain ⟨e, held, refused, path⟩ := key rfl
      obtain ⟨path, within⟩ := inner e.1 path
      exact ⟨.key leads found reached restates held refused rfl path, .inr within⟩
    | @missing raw name message place schema' spec _ _ found' declared =>
      cases found.symm.trans found'
      obtain ⟨path, within⟩ := inner spec.name rfl
      have traverses : Traverses rules.registry first
          (place.path ++ [fieldSegment name spec.name]) spec :=
        .intro leads found (by simp [Schema.allFields, declared]) .field spec.self_mem_walk
      exact ⟨.field (path.symm ▸ traverses), .inr within⟩
  | inner inner raised =>
    cases raised with
    | unfit =>
      obtain ⟨levelled, -, spec, traverses⟩ := routed
      exact ⟨.field traverses, levelled.above⟩
    | unknownKind =>
      obtain ⟨length, shallow, traverses⟩ := routed
      exact ⟨.field traverses, .inr (length.symm ▸ shallow)⟩
    | unsuitable =>
      obtain ⟨length, shallow, traverses⟩ := routed
      exact ⟨.field traverses, .inr (length.symm ▸ shallow)⟩
    | _ => exact absurd rfl (inner _ _ _)

/-- A law of issues that is inherited: on a call on the routes that the root descends to, the issue
lies on them. -/
theorem Inherited.onRoute (rules : Rules) (root : Call) (first : String) :
    Inherited rules fun call i => Descends rules root call → call.Routed rules first →
      OnRoute rules root first i where
  own _ _ reports reached routed := reports.onRoute reached routed
  callee _ _ _ hands law reached routed := law (reached.tail hands) (hands.calls.routed routed)

/-- The place of a node is as deep as its path says. -/
def Place.levelled (p : Place) : Bool := p.path.length + 1 == p.depth

end Validation

open Validation

/-- The paths of issues are routes through the schema graph, with at most as many segments as levels
are admitted. Every call for a node that a validation leads to is one level deeper than its path is
long: whatever would be done at nodes elsewhere, the validation is the same. -/
theorem Registry.issues_onRoute {r : Registry} (standard : r.Every (FieldSpec.Standard r.kinds))
    {o : ValidateOptions} {n : Nat} (bound : o.maxDepth = (n : Number)) (raw : Value)
    (schema : String) :
    (∀ memory issues, (r.validate memory raw schema o).result = .ok (.invalid issues) →
      ∀ i ∈ issues, i.path.length ≤ n ∧ Lies (o.rules r) (rootCall o raw schema) schema i) ∧
    (∀ v name place, Reaches (o.rules r) (rootCall o raw schema) (.node v name place) →
      place.path.length + 1 = place.depth ∧ Leads r schema place.path name) ∧
    ∀ otherwise, o.run r raw schema =
      checkNodeWhere (o.rules r) Place.levelled otherwise (levels o.maxDepth) raw schema
        ⟨[], o.stack, o.kwargs, 1⟩ := by
  have floor : o.maxDepth.floorNat = some n := by
    rw [bound]
    rfl
  let root := rootCall o raw schema
  have here : root.Routed (o.rules r) schema := ⟨⟨rfl, .inl rfl⟩, .root⟩
  have coincides : ∀ otherwise, Coincides anywhere (OnRoute (o.rules r) root schema)
      (o.run r raw schema)
      (checkNodeWhere (o.rules r) Place.levelled otherwise (levels o.maxDepth) raw schema
        ⟨[], o.stack, o.kwargs, 1⟩) fun _ => True := by
    intro otherwise
    have coincides := checkNodeAt_coincides (.onRoute (o.rules r) root schema) standard
      (I := fun call => call.Routed (o.rules r) schema) (fun _ _ hands => hands.calls.routed)
      Place.levelled (fun raw name place routed => beq_iff_eq.mpr routed.1.depth) otherwise
      (levels o.maxDepth) here
    exact coincides.weaken fun i law => law .refl here
  refine ⟨fun memory issues returned i hi => ?_, fun v name place reached => ?_,
    fun otherwise => (coincides otherwise).eq⟩
  · have routed : OnRoute (o.rules r) root schema i :=
      lawful_of_validate (coincides fun _ _ _ => throw .overflow).left returned i hi
    refine ⟨?_, routed.lies⟩
    rcases routed.within with empty | within
    · simp [empty]
    · exact le_of_floorNat floor within
  · obtain ⟨levelled, leads⟩ := Reaches.routed reached here
    exact ⟨levelled.depth, leads⟩

namespace Library

/-- A book with a chapter that has no title. -/
def untitled : Value := .record [("title", .text "Atlas"),
  ("parts", .list [.record [("type", .text "chapter")] true])] true

def titleMissing : Issue where
  path := ["book.parts[0]", "chapter.title"]
  kind := .missingField
  message := "the required field 'title' is missing"

/-- The missing title is reported in the first part of the book, at a field of its schema. -/
theorem untitled_onRoute :
    (registry.validate [] untitled "book" { maxDepth := (5 : Nat) }).result =
      .ok (.invalid [titleMissing]) ∧
    titleMissing.path.length ≤ 5 ∧
    Lies (ValidateOptions.rules { maxDepth := (5 : Nat) } registry)
      (rootCall { maxDepth := (5 : Nat) } untitled "book") "book" titleMissing :=
  ⟨rfl, (Registry.issues_onRoute (o := { maxDepth := (5 : Nat) })
    (registry_builtin.mono fun _ h => h.standard) rfl untitled "book").1 [] _ rfl titleMissing
      (List.mem_singleton_self _)⟩

end Library

end ShapedTree
