import ShapedTree.Proofs.Validation.Conformance
import ShapedTree.Proofs.Validation.NodeCompleteness
import ShapedTree.Proofs.Validation.Restacking

namespace ShapedTree

/-- The ways to hand in a tree again: which values output leaves out, which marks the tree has that
comes back, and between which settings. -/
structure Echo where
  omission : Omission
  marks : List String → List String
  meets : Setting → Setting → Prop
  lineage : ∀ {here there : Setting}, meets here there → there.lineage = here.lineage
  inside : ∀ {here there : Setting} (spec : FieldSpec), meets here there →
    meets (here.inside spec) (there.inside spec)
  below : ∀ {here there : Setting} (spec : FieldSpec), meets here there →
    meets (here.below spec) (there.below spec)

/-- The rules of another run, with its own modes. -/
def Rules.withModes (rules : Rules) (unknownFields : UnknownFields) (errors : ErrorMode) : Rules :=
  { rules with unknownFields, errors }

/-- Members of choice groups leave the name `type` to the discriminator. -/
def Registry.ReservesType (r : Registry) : Prop :=
  ∀ s ∈ r.schemas, s.info.choice.isSome = true → "type" ∉ s.fieldNames

theorem Library.registry_reserves : registry.ReservesType := by
  simp [Registry.ReservesType, registry, chapter, note, book, Schema.fieldNames, textField,
    FieldSpec.name, FieldSpec.info]

/-- What keeps values as they are when they are handed in again: the rules of acceptance apply,
primitive forms keep primitives, and the extra check does not see the marks. -/
structure FieldSpec.Faithful (c : KindCatalog) (marks : List String → List String)
    (s : FieldSpec) : Prop where
  regular : s.Regular c
  form : s.PrimitiveForms
  blind : ∀ check, s.info.constraints.validator = some check → ∀ v, check (v.remark marks) = check v

theorem FieldSpec.Faithful.passes {c : KindCatalog} {marks : List String → List String}
    {s : FieldSpec} (h : s.Faithful c marks) {v : Value} (passes : s.Passes v) :
    s.Passes (v.remark marks) :=
  fun check some => by rw [h.blind check some v, passes check some]

namespace Validation

variable {r : Registry} {maxDepth : Number} {e : Echo} {first second : ValueRun} {node : NodeRun}

/-- What is said of an accepted node: it conforms, and it comes back when it is handed in again. -/
structure NodeReturns (r : Registry) (maxDepth : Number) (e : Echo) (node : NodeRun) (raw : Value)
    (name : String) (here : Setting) (n : Node) : Prop where
  conforms : NodeConforming r maxDepth raw name here n
  again : ∀ there, e.meets here there →
    SureNode node (.record (n.serialize e.omission) true) name there (n.remark e.marks)

/-- What is said of a value that a first check accepted: it conforms, and a second check returns it
when it is handed in again. -/
structure ValueReturns (r : Registry) (maxDepth : Number) (e : Echo) (first second : ValueRun)
    (spec : FieldSpec) (raw : Value) (here : Setting) (v : Value) : Prop where
  conforms : Conforming r maxDepth spec raw here v
  ran : ∃ path, Run.Accepted (first spec raw (here.place path)) (some v)
  again : ∀ there, e.meets here there →
    Sure second spec (v.serialize e.omission) there (v.remark e.marks)
  kept : ∀ k : BuiltinKind, spec.kind = k.tag → k.keepsPrimitives = true →
    raw.isPrimitive = true → v.isPrimitive = true
  waits : Waits r.kinds spec (v.serialize e.omission) ↔ Waits r.kinds spec raw

/-- An accepted value of a kind that keeps primitives is primitive if the raw value is. -/
theorem ValueAccepts.isPrimitive {c : KindCatalog} {NL CL : NodeLaw} {VL : ValueLaw}
    {spec : FieldSpec} {raw v : Value} {here : Setting} (h : ValueAccepts c NL CL VL spec raw here v)
    {k : BuiltinKind} (kind : spec.kind = k.tag) (keeps : k.keepsPrimitives = true)
    (primitive : raw.isPrimitive = true) : v.isPrimitive = true := by
  have flat : k.isNested = false := by cases k <;> first | rfl | cases keeps
  cases h with
  | null => cases primitive
  | value _ _ taken =>
    exact BuiltinKind.isPrimitive_of_verdict keeps (taken.verdict_eq kind flat) primitive

/-- An accepted value waits for the second pass if the raw value did. -/
theorem ValueAccepts.waits_iff {NL CL : NodeLaw} {VL : ValueLaw} {spec : FieldSpec}
    {raw v : Value} {here : Setting} (builtin : spec.Builtin r.kinds)
    (h : ValueAccepts r.kinds NL CL VL spec raw here v) (reflects : Reflects raw v)
    (o : Omission) : Waits r.kinds spec (v.serialize o) ↔ Waits r.kinds spec raw := by
  unfold Waits
  rw [Value.isNull_serialize]
  refine and_congr_left fun nested => ?_
  cases h with
  | null => exact Iff.rfl
  | value present =>
    obtain ⟨k, known⟩ := builtin
    rw [known.isNested_eq] at nested
    have taken : k.takesNull = false := by cases k <;> first | rfl | cases nested
    rw [known.acceptsNull_eq, taken, Bool.not_false, Bool.and_true] at present
    refine ⟨fun _ => present, fun _ => Bool.eq_false_iff.mpr fun null => ?_⟩
    cases present.symm.trans (reflects.null null)

/-- A node of a registry that reserves the name `type` keeps its discriminator apart. -/
theorem NodeConforming.schema {raw : Value} {name : String} {here : Setting} {n : Node}
    (h : NodeConforming r maxDepth raw name here n) :
    ∃ s, r.find? name = some s ∧ (n.values.map Prod.fst).Sublist s.fieldNames ∧
      n.choiceType = s.choiceType := by
  obtain ⟨rfl, conforms⟩ := h
  cases conforms with
  | intro found order _ _ typed => exact ⟨_, found, order, typed⟩

theorem NodeConforming.free (reserves : r.ReservesType) {raw : Value} {name : String}
    {here : Setting} {n : Node} (h : NodeConforming r maxDepth raw name here n) :
    n.choiceType = none ∨ "type" ∉ n.values.map Prod.fst := by
  obtain ⟨s, found, order, typed⟩ := h.schema
  cases choice : s.info.choice with
  | none =>
    rw [typed, Schema.choiceType, choice]
    exact .inl rfl
  | some membership =>
    refine .inr fun mem => ?_
    exact reserves s (List.mem_of_find?_eq_some found) (by simp [choice]) (order.subset mem)

theorem NodeConforming.nodup (coherent : r.Coherent) {raw : Value} {name : String} {here : Setting}
    {n : Node} (h : NodeConforming r maxDepth raw name here n) :
    (n.values.map Prod.fst).Nodup := by
  obtain ⟨s, found, order, -⟩ := h.schema
  exact (coherent.fields s (List.mem_of_find?_eq_some found)).sublist order

/-- A member of a choice group is written with its type. -/
theorem namedType?_serialize (coherent : r.Coherent) (reserves : r.ReservesType) {raw : Value}
    {group type name : String} {here : Setting} {n : Node}
    (h : NodeConforming r maxDepth raw name here n)
    (member : (type, name) ∈ r.choiceMembers group) (o : Omission) :
    Choice.namedType? (.record (n.serialize o) true) = some (.text type) := by
  have typed := h.choiceType_eq coherent member
  have held : (n.serialize o).lookup "type" = some (.text type) := by
    rw [Node.lookup_serialize (h.nodup coherent) (h.free reserves), typed]
    rfl
  simp only [Choice.namedType?, Value.entries?, held]
  rfl

section Values

variable {rules : Rules} {other : ValueRun} {spec : FieldSpec} {raw v : Value}
  {here there : Setting}

/-- A list is accepted again if its items are. -/
theorem KindAccepts.list_again {c : KindCatalog} {NL CL : NodeLaw} {info : FieldInfo}
    {item : FieldSpec} {vs : List Value} (known : c.Knows .list (.list info item))
    (fits : Kind.listLength info.constraints vs.length = none)
    (parts : ∀ v ∈ vs, v.isUndefined = false ∧
      Sure second item (v.serialize e.omission) (there.inside (.list info item))
        (v.remark e.marks)) :
    KindAccepts c NL CL (Sure second) (.list info item) ((Value.list vs).serialize e.omission) there
      ((Value.list vs).remark e.marks) := by
  have items : (vs.map (Value.serialize e.omission)).map Value.read =
      vs.map (Value.serialize e.omission) := by
    rw [List.map_map]
    refine List.map_congr_left fun v hv => Value.read_of_defined ?_
    rw [Value.isUndefined_serialize]
    exact (parts v hv).1
  rw [Value.serialize, Value.serializeItems_eq_map, Value.remark, Value.remarkItems_eq_map]
  refine .list known (congrArg some items) (by rwa [List.length_map]) ?_
  exact List.forall₂_map_left_iff.mpr (List.forall₂_map_right_iff.mpr
    (List.forall₂_same.mpr fun v hv => (parts v hv).2))

/-- A record in its order is accepted again if its keys and its values are. -/
theorem KindAccepts.mapping_again {c : KindCatalog} {NL CL : NodeLaw} {info : FieldInfo}
    {key part : FieldSpec} {es : Entries Value} (known : c.Knows .mapping (.mapping info key part))
    (distinct : (es.map Prod.fst).Nodup)
    (sorted : Kind.sortMapping (key.kind == PartChecks.integerKeys) es = es)
    (parts : ∀ f ∈ es,
      Sure second key (.text f.1) (there.inside (.mapping info key part)) (.text f.1) ∧
      Sure second part (f.2.serialize e.omission) (there.inside (.mapping info key part))
        (f.2.remark e.marks)) :
    KindAccepts c NL CL (Sure second) (.mapping info key part)
      ((Value.record es true).serialize e.omission) there
      ((Value.record es true).remark e.marks) := by
  have fixed : Record.ofList es = es := by
    rw [← sorted]
    exact Kind.ofList_sortMapping _ es
  rw [Value.serialize, Value.serializeEntries_eq_map, Value.remark, Value.remarkEntries_eq_map,
    ← Kind.sortMapping_ofList_map fixed sorted (Value.remark e.marks)]
  refine .mapping known rfl (List.forall₂_map_left_iff.mpr (List.forall₂_map_right_iff.mpr
    (List.forall₂_same.mpr parts))) ?_
  rwa [List.map_map]

/-- A kind accepts what it accepted before, written out. -/
theorem KindAccepts.again (coherent : rules.registry.Coherent)
    (reserves : rules.registry.ReservesType) (form : spec.PrimitiveForms)
    (present : (raw.isNull && !rules.registry.kinds.acceptsNull spec.kind) = false)
    (conforms : v.Conforms rules.registry maxDepth spec here.lineage) (meets : e.meets here there)
    (h : KindAccepts rules.registry.kinds (NodeReturns rules.registry maxDepth e node)
      (ChoiceAccepts rules.registry (NodeReturns rules.registry maxDepth e node))
      (ValueReturns rules.registry maxDepth e first second) spec raw here v) :
    KindAccepts rules.registry.kinds (SureNode node) (Names rules.registry (SureNode node))
      (Sure second) spec (v.serialize e.omission) there (v.remark e.marks) := by
  cases h with
  | scalar known flat taken =>
    rw [known.acceptsNull_eq] at present
    have stored := BuiltinKind.holds_of_verdict flat taken present
    rw [stored.steady.serialized, stored.steady.marked]
    exact .scalar known flat stored.verdict_eq
  | node known named taken =>
    rw [Node.serialize_node, Node.remark_node]
    exact .node known named (taken.again _ (e.below spec meets))
  | choice known named taken =>
    obtain ⟨member, taken⟩ := taken
    rw [Node.serialize_node, Node.remark_node]
    exact .choice known named (.intro
      (namedType?_serialize coherent reserves taken.conforms member _) member
      (taken.again _ (e.below spec meets)))
  | list known shape fits taken =>
    refine .list_again known (taken.length_eq ▸ fits) fun v hv => ?_
    obtain ⟨raw, -, part⟩ := exists_left_of_mem taken v hv
    exact ⟨part.conforms.defined, part.again _ (e.inside _ meets)⟩
  | @mapping info key part raw es fs here known shape taken distinct =>
    refine .mapping_again known (Kind.nodup_sortMapping _ _) (sorted_of_conforms known conforms)
      fun f hf => ?_
    obtain ⟨d, -, hkey, hvalue⟩ := exists_left_of_mem taken f
      (Record.mem_of_mem_ofList (Kind.mem_of_mem_sortMapping hf))
    exact ⟨hkey.again _ (e.inside _ meets), hvalue.again _ (e.inside _ meets)⟩
  | @either info primitive complex raw v here known taken =>
    obtain ⟨k, kind, keeps⟩ := form
    refine .either known ?_
    have same : v.isPrimitive = raw.isPrimitive := by
      rw [Bool.eq_iff_iff]
      refine ⟨taken.conforms.reflects.primitive, fun primitive => ?_⟩
      rw [if_pos primitive] at taken
      exact taken.kept k kind keeps primitive
    rw [Value.isPrimitive_serialize, same]
    exact taken.again _ (e.inside _ meets)

/-- A specification accepts what it accepted before, written out. -/
theorem ValueAccepts.again (coherent : rules.registry.Coherent)
    (reserves : rules.registry.ReservesType)
    (faithful : spec.Faithful rules.registry.kinds e.marks)
    (conforms : Conforming rules.registry maxDepth spec raw here v) (meets : e.meets here there)
    (h : ValueAccepts rules.registry.kinds (NodeReturns rules.registry maxDepth e node)
      (ChoiceAccepts rules.registry (NodeReturns rules.registry maxDepth e node))
      (ValueReturns rules.registry maxDepth e first second) spec raw here v) :
    Assures rules node second spec (v.serialize e.omission) there (v.remark e.marks) := by
  cases h with
  | null left nullable => exact .null left nullable
  | value present defined taken held passes =>
    refine .value ?_ (by rwa [Value.isUndefined_serialize])
      (taken.again coherent reserves faithful.form present conforms.conforms meets)
      (by rwa [Value.isUndefined_remark]) (faithful.passes passes)
    rw [Value.isNull_serialize]
    cases null : v.isNull with
    | false => rfl
    | true => rwa [conforms.reflects.null null] at present

/-- A value that the rules accept returns, if its parts do. -/
theorem ValueAccepts.returns (coherent : rules.registry.Coherent)
    (reserves : rules.registry.ReservesType)
    (faithful : spec.Every (FieldSpec.Faithful rules.registry.kinds e.marks))
    {path : List String} (ran : Run.Accepted (first spec raw (here.place path)) (some v))
    (h : ValueAccepts rules.registry.kinds (NodeReturns rules.registry maxDepth e node)
      (ChoiceAccepts rules.registry (NodeReturns rules.registry maxDepth e node))
      (ValueReturns rules.registry maxDepth e first (checkSpec rules node other))
      spec raw here v) :
    ValueReturns rules.registry maxDepth e first (checkSpec rules node other) spec raw here v := by
  have conforms : Conforming rules.registry maxDepth spec raw here v :=
    (h.mono (fun _ _ _ _ => NodeReturns.conforms)
      (fun _ _ _ _ choice => choice.mono fun _ _ _ _ => NodeReturns.conforms)
      fun _ _ _ _ => ValueReturns.conforms).conforms coherent
      (faithful.mono fun _ => FieldSpec.Faithful.regular)
  refine ⟨conforms, ⟨path, ran⟩, fun there meets => ?_, fun k kind keeps => h.isPrimitive kind keeps,
    h.waits_iff faithful.self.regular.builtin conforms.reflects _⟩
  exact checkSpec_certain coherent.types faithful.self.regular.fixed
    (h.again coherent reserves faithful.self conforms meets)

end Values

section Nodes

variable {rules : Rules} {schema : Schema} {raw : Value} {name : String} {here : Setting} {n : Node}

/-- A field that a schema declares is written under its name, unless output leaves it out. -/
theorem readKey_serialize (coherent : r.Coherent) (reserves : r.ReservesType)
    (h : NodeConforming r maxDepth raw name here n) (found : r.find? name = some schema)
    {f : String} (declared : f ∈ schema.fieldNames) (o : Omission)
    (defined : ∀ v, n.values.lookup f = some v → v.isUndefined = false) :
    readKey (n.serialize o) f =
      if n.keeps o f then (n.values.lookup f).map (Value.serialize o) else none := by
  have other : (typeEntry n.choiceType).lookup f = none := by
    obtain ⟨s, found', -, typed⟩ := h.schema
    cases found.symm.trans found'
    rw [typed, Schema.choiceType]
    cases choice : schema.info.choice with
    | none => rfl
    | some membership =>
      have distinct : f ≠ "type" := fun same =>
        reserves schema (List.mem_of_find?_eq_some found) (by simp [choice]) (same ▸ declared)
      simp [typeEntry, List.lookup_cons, beq_eq_false_iff_ne.mpr distinct]
  unfold readKey
  rw [Node.lookup_serialize (h.nodup coherent) (h.free reserves), other, Option.none_or]
  cases held : n.values.lookup f with
  | none => simp
  | some v =>
    have present : (v.serialize o).isUndefined = false := by
      rw [Value.isUndefined_serialize, defined v held]
    cases n.keeps o f with
    | false => rfl
    | true =>
      simp [present]

theorem typeFits_serialize (coherent : r.Coherent) (reserves : r.ReservesType)
    (h : NodeConforming r maxDepth raw name here n) (found : r.find? name = some schema)
    (o : Omission) : TypeFits schema (n.serialize o) := by
  intro membership type choice given
  obtain ⟨s, found', -, typed⟩ := h.schema
  cases found.symm.trans found'
  unfold readKey at given
  rw [Node.lookup_serialize (h.nodup coherent) (h.free reserves), typed, Schema.choiceType,
    choice] at given
  cases given
  simp [Value.same]

theorem keysFit_serialize (h : NodeConforming r maxDepth raw name here n)
    (found : r.find? name = some schema) (o : Omission) : KeysFit rules schema (n.serialize o) := by
  intro _ e he
  obtain ⟨s, found', order, typed⟩ := h.schema
  cases found.symm.trans found'
  unfold acceptsKey
  rcases Node.mem_keys_serialize (List.mem_map_of_mem he) with ⟨named, chosen⟩ | mem
  · have member : schema.info.choice.isSome = true := by
      rwa [typed, Schema.choiceType, Option.isSome_map] at chosen
    simp [named, member]
  · simp [order.subset mem]

end Nodes

section Levels

variable {rules : Rules} {u : UnknownFields} {m : ErrorMode}

/-- A law of the nodes of some schemas. -/
def Among (seen : String → Prop) (NL : NodeLaw) : NodeLaw := fun raw name here n =>
  seen name → NL raw name here n

/-- A node of a schema returns if its fields do: its record is accepted as the node, and what the
record leaves out does not count. -/
def SchemaReturns (rules again : Rules) (e : Echo) (first second : ValueRun) (schema : Schema) :
    Prop :=
  ∀ record raw name here there n, rules.registry.find? name = some schema →
    NodeConforming rules.registry rules.maxDepth raw name here n →
    FieldsAccept rules (ValueReturns rules.registry rules.maxDepth e first second) schema record
      here n → e.meets here there →
    FieldsAccept again (Sure second) schema (n.serialize e.omission) there (n.remark e.marks) ∧
      ∀ spec ∈ schema.fields, Repeatable (n.serialize e.omission) spec

/-- The nodes of every schema return if their fields do. -/
def NodesReturn (rules again : Rules) (e : Echo) (first second : ValueRun) : Prop :=
  ∀ schema, SchemaReturns rules again e first second schema

/-- A node that the rules accept returns, if the values of its fields do. -/
theorem NodeAccepts.returns (coherent : rules.registry.Coherent) {raw : Value} {name : String}
    {here : Setting} {n : Node}
    (step : ∀ schema, rules.registry.find? name = some schema →
      SchemaReturns rules (rules.withModes u m) e first second schema)
    (h : NodeAccepts rules (ValueReturns rules.registry rules.maxDepth e first second)
      raw name here n) :
    NodeReturns rules.registry rules.maxDepth e
      (checkNodeWith (rules.withModes u m) second) raw name here n := by
  have conforms : NodeConforming rules.registry rules.maxDepth raw name here n :=
    (h.mono fun _ _ _ _ => ValueReturns.conforms).conforms coherent
  refine ⟨conforms, fun there meets => ?_⟩
  obtain ⟨found, shallow, args, -, fields⟩ := h
  obtain ⟨accepts, repeatable⟩ := step _ found _ _ _ _ there _ found conforms fields meets
  have same := e.lineage meets
  have depth : there.depth = here.depth := congrArg Lineage.depth same
  have kwargs : there.kwargs = here.kwargs := congrArg Lineage.kwargs same
  have found : (rules.withModes u m).registry.find? name = some _ := found
  exact checkNodeWith_certain found
    (by rw [depth]; exact shallow) (by rw [kwargs]; exact args) (.record rfl) accepts repeatable

/-- Where a law of nodes holds for some schemas only, a kind that refers to them alone accepts what
it accepts where the law holds throughout. -/
theorem KindAccepts.of_among {seen : String → Prop} {NL : NodeLaw} {VL : ValueLaw}
    {spec : FieldSpec} {raw v : Value} {here : Setting}
    (refers : ∀ target ∈ Description.ownReferences r spec, seen target)
    (h : KindAccepts r.kinds (Among seen NL) (ChoiceAccepts r (Among seen NL)) VL spec raw here v) :
    KindAccepts r.kinds NL (ChoiceAccepts r NL) VL spec raw here v := by
  cases h with
  | scalar known flat taken => exact .scalar known flat taken
  | node known named taken =>
    exact .node known named (taken (refers _ (Description.target_mem_ownReferences known.1 named)))
  | choice known named taken =>
    obtain ⟨member, taken⟩ := taken
    exact .choice known named (.intro member
      (taken (refers _ (Description.member_mem_ownReferences known.1 named member))))
  | list known shape fits taken => exact .list known shape fits taken
  | mapping known shape taken distinct => exact .mapping known shape taken distinct
  | either known taken => exact .either known taken

theorem ValueAccepts.of_among {seen : String → Prop} {NL : NodeLaw} {VL : ValueLaw}
    {spec : FieldSpec} {raw v : Value} {here : Setting}
    (refers : ∀ target ∈ Description.ownReferences r spec, seen target)
    (h : ValueAccepts r.kinds (Among seen NL) (ChoiceAccepts r (Among seen NL)) VL spec raw here
      v) : ValueAccepts r.kinds NL (ChoiceAccepts r NL) VL spec raw here v := by
  cases h with
  | null left nullable => exact .null left nullable
  | value present defined taken held passes =>
    exact .value present defined (taken.of_among refers) held passes

section Seen

variable {seen : String → Prop}

/-- A value that a run accepts without issues returns, if the nodes of the schemas do that it refers
to. -/
theorem checkValue_returns_of_nodes (coherent : rules.registry.Coherent)
    (reserves : rules.registry.ReservesType)
    (regular : rules.registry.Every (FieldSpec.Regular rules.registry.kinds)) {levels : Nat}
    (nodes : ∀ raw name place, seen name → Run.Ensures (checkNodeAt rules levels raw name place)
      (Run.Answers (NodeReturns rules.registry rules.maxDepth e
        (checkNodeAt (rules.withModes u m) levels) raw name place.setting)))
    {spec : FieldSpec} (hspec : spec.Every fun part =>
      part.Faithful rules.registry.kinds e.marks ∧ part.Confined rules.registry seen)
    (raw : Value) (place : Place) :
    Run.Ensures (checkValue rules (checkNodeAt rules levels) questionLimit spec raw place)
      (Run.Answers (ValueReturns rules.registry rules.maxDepth e
        (checkValue rules (checkNodeAt rules levels) questionLimit)
        (checkValue (rules.withModes u m) (checkNodeAt (rules.withModes u m) levels)
          questionLimit) spec raw place.setting)) := by
  have among : ∀ raw name place, Run.Ensures (checkNodeAt rules levels raw name place)
      (Run.Answers (Among seen (NodeReturns rules.registry rules.maxDepth e
        (checkNodeAt (rules.withModes u m) levels)) raw name place.setting)) := by
    intro raw name place
    by_cases hname : seen name
    · exact (nodes raw name place hname).mono fun _ answer => answer.mono fun _ returns _ => returns
    · exact (checkNodeAt_conforms coherent regular levels raw name place).mono fun _ answer =>
        answer.mono fun _ _ named => absurd named hname
  rw [checkValue_eq, checkValue_eq]
  refine checkSpec_lawful (fun _ good => good.1.regular) among
    (fun spec raw place v good accepted ran => ?_) hspec raw place
  have coherent : (rules.withModes u m).registry.Coherent := coherent
  exact (accepted.of_among good.self.2.refers).returns coherent reserves
    (good.mono fun _ h => h.1) ran

/-- A node of one of some schemas that refer to one another only, which a run accepts without
issues, returns from another run, whatever its modes are. -/
theorem checkNodeAt_returns_of_seen (coherent : rules.registry.Coherent)
    (reserves : rules.registry.ReservesType)
    (regular : rules.registry.Every (FieldSpec.Regular rules.registry.kinds))
    (faithful : ∀ {name s}, seen name → rules.registry.find? name = some s →
      ∀ spec ∈ s.allFields, spec.Every fun part =>
        part.Faithful rules.registry.kinds e.marks ∧ part.Confined rules.registry seen)
    (step : ∀ levels {name s}, seen name → rules.registry.find? name = some s →
      SchemaReturns rules (rules.withModes u m) e
        (checkValue rules (checkNodeAt rules levels) questionLimit)
        (checkValue (rules.withModes u m) (checkNodeAt (rules.withModes u m) levels) questionLimit)
        s)
    (levels : Nat) (raw : Value) (name : String) (place : Place) (named : seen name) :
    Run.Ensures (checkNodeAt rules levels raw name place)
      (Run.Answers (NodeReturns rules.registry rules.maxDepth e
        (checkNodeAt (rules.withModes u m) levels) raw name place.setting)) := by
  induction levels generalizing raw name place with
  | zero => exact .throw
  | succ levels ih =>
    refine (checkNodeWith_ensures_of_fields (fun schema found spec hspec raw place => ?_) raw
      place).mono fun answer accepted => accepted.mono fun n h =>
        h.returns coherent fun schema found => step levels named found
    exact checkValue_returns_of_nodes coherent reserves regular ih (faithful named found spec hspec)
      raw place

end Seen

/-- A node that a run accepts without issues returns from another run, whatever its modes are. -/
theorem checkNodeAt_returns (coherent : rules.registry.Coherent)
    (reserves : rules.registry.ReservesType)
    (faithful : rules.registry.Every (FieldSpec.Faithful rules.registry.kinds e.marks))
    (step : ∀ levels, NodesReturn rules (rules.withModes u m) e
      (checkValue rules (checkNodeAt rules levels) questionLimit)
      (checkValue (rules.withModes u m) (checkNodeAt (rules.withModes u m) levels) questionLimit))
    (levels : Nat) (raw : Value) (name : String) (place : Place) :
    Run.Ensures (checkNodeAt rules levels raw name place)
      (Run.Answers (NodeReturns rules.registry rules.maxDepth e
        (checkNodeAt (rules.withModes u m) levels) raw name place.setting)) := by
  have everywhere : ∀ {name s}, True → rules.registry.find? name = some s →
      ∀ spec ∈ s.allFields, spec.Every fun part =>
        part.Faithful rules.registry.kinds e.marks ∧
          part.Confined rules.registry fun _ => True := fun _ found spec hspec =>
    (faithful _ (List.mem_of_find?_eq_some found) spec hspec).mono fun _ h =>
      ⟨h, h.regular.builtin, fun _ _ => trivial⟩
  exact checkNodeAt_returns_of_seen coherent reserves (faithful.mono fun _ h => h.regular)
    everywhere (fun levels _ s _ _ => step levels s) levels raw name place trivial

end Levels

end Validation

end ShapedTree
