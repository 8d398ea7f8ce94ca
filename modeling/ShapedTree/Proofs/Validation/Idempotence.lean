import ShapedTree.Proofs.Validation.Resubmission

namespace ShapedTree

/-- A tree is handed in again as a whole, where schemas, arguments and level are as before. -/
def Echo.complete : Echo where
  omission := .none
  marks _ := []
  meets here there := there.lineage = here.lineage
  lineage same := same
  inside spec same := congrArg (Lineage.inside · spec) same
  below spec same := congrArg (Lineage.below · spec) same

/-- The extra check of a specification does not see the marks of defaults. -/
def FieldSpec.Blind (s : FieldSpec) : Prop :=
  ∀ check, s.info.constraints.validator = some check → ∀ v, check (v.remark fun _ => []) = check v

/-- The check of a schema's nodes does not see the marks of defaults, and of the ancestors nothing
but the names of their schemas. -/
def Schema.Blind (s : Schema) : Prop :=
  ∀ check, s.info.validator = some check → ∀ (es : Entries Value) (stack stack' : List NodeView)
    (kwargs : Kwargs), stack'.map NodeView.schema = stack.map NodeView.schema →
    check ⟨.ofList (Value.remarkEntries (fun _ => []) es), stack', kwargs⟩ =
      check ⟨.ofList es, stack, kwargs⟩

namespace Validation

section Supplied

variable {c : KindCatalog} {VL : ValueLaw} {record : Entries Value} {here : Setting}
  {name : String} {held : String → Option Value}

/-- A record supplies a field with a raw value that is accepted as the held one, or leaves out a
field that holds nothing and may be absent. -/
inductive Supplied (VL : ValueLaw) (record : Entries Value) (here : Setting) (name : String)
    (held : String → Option Value) (spec : FieldSpec) : Prop
  | given {raw v : Value} (given : readKey record spec.name = some raw)
      (value : held spec.name = some v) (defined : v.isUndefined = false)
      (taken : ∀ view : NodeView, view.schema = name → VL spec raw (here.under view) v)
  | left (left : readKey record spec.name = none) (nothing : held spec.name = none)
      (default : spec.info.default? = none) (optional : spec.info.required = false)

/-- A slot that waits for the held value, or is done with it. -/
inductive Slot.Fed (VL : ValueLaw) (here : Setting) (name : String)
    (held : String → Option Value) (slot : Slot) : Prop
  | waits {raw v : Value} (waiting : slot.waiting = some (raw, false))
      (supplied : slot.supplied = true) (value : held slot.spec.name = some v)
      (defined : v.isUndefined = false)
      (taken : ∀ view : NodeView, view.schema = name → VL slot.spec raw (here.under view) v)
  | done (settled : slot.Settled) (complete : slot.spec.info.required = true → slot.supplied = true)
      (nothing : slot.supplied = false → held slot.spec.name = none)

/-- The law of values that are accepted as the held ones. -/
def Holding (VL : ValueLaw) (held : String → Option Value) : ValueLaw := fun spec raw here v =>
  VL spec raw here v ∧ held spec.name = some v ∧ v.isUndefined = false

/-- A record that supplies what is held goes through the first pass and marks nothing. -/
theorem FirstPass.of_supplied {specs : List FieldSpec}
    (h : ∀ spec ∈ specs, Supplied VL record here name held spec) (d : Draft)
    (schema : d.schema = name) (clear : d.defaulted = []) :
    ∃ slots d', FirstPass c (Holding VL held) record here d specs slots d' ∧ d'.defaulted = [] ∧
      ∀ slot ∈ slots, slot.Fed VL here name held := by
  induction specs generalizing d with
  | nil => exact ⟨[], d, .done d, clear, by simp⟩
  | cons spec rest ih =>
    obtain ⟨first, others⟩ := List.forall_mem_cons.mp h
    cases first with
    | @given raw v given value defined taken =>
      by_cases waits : Waits c spec raw
      · obtain ⟨slots, d', next, clear', fed⟩ := ih others d schema clear
        exact ⟨_, d', .waits (.supplied given) waits next, clear',
          List.forall_mem_cons.mpr ⟨.waits rfl rfl value defined taken, fed⟩⟩
      · obtain ⟨slots, d', next, clear', fed⟩ := ih others (d.set spec.name v false) schema
          (by simp [Draft.set, clear])
        refine ⟨_, d', .fills (.supplied given) waits ⟨taken d.view schema, value, defined⟩ next,
          clear', List.forall_mem_cons.mpr ⟨?_, fed⟩⟩
        exact .done (Starts.supplied given).settled (fun _ => rfl) nofun
    | left left nothing default optional =>
      obtain ⟨slots, d', next, clear', fed⟩ := ih others d schema clear
      refine ⟨_, d', .absent (.absent left default) next, clear',
        List.forall_mem_cons.mpr ⟨?_, fed⟩⟩
      refine .done ⟨rfl, .inr fun _ => by simp [default]⟩ (fun required => ?_) fun _ => nothing
      cases optional.symm.trans required

/-- The slots of such a record go through the second pass, which marks nothing. -/
theorem SecondPass.of_fed {slots : List Slot} (h : ∀ slot ∈ slots, slot.Fed VL here name held)
    (earlier : List String) (d : Draft) (schema : d.schema = name) (clear : d.defaulted = []) :
    ∃ d', SecondPass (Holding VL held) here earlier d slots d' ∧ d'.defaulted = [] := by
  induction slots generalizing earlier d with
  | nil => exact ⟨d, .done earlier d, clear⟩
  | cons slot rest ih =>
    obtain ⟨first, others⟩ := List.forall_mem_cons.mp h
    cases first with
    | @waits raw v waiting supplied value defined taken =>
      obtain ⟨d', next, clear'⟩ := ih others (earlier ++ [slot.spec.name])
        (d.set slot.spec.name v false) schema (by simp [Draft.set, clear])
      exact ⟨d', .waited waiting ⟨taken d.view schema, value, defined⟩ next, clear'⟩
    | done settled =>
      obtain ⟨d', next, clear'⟩ := ih others (earlier ++ [slot.spec.name]) d schema clear
      exact ⟨d', .settled settled next, clear'⟩

/-- The entries of the fields that hold something. -/
def heldEntries (held : String → Option Value) (fields : List String) : Entries Value :=
  fields.filterMap fun f => (held f).map fun v => (f, v)

/-- A record that supplies what is held is accepted as the node that holds it. -/
theorem FieldsAccept.of_supplied {rules : Rules} {schema : Schema}
    (distinct : schema.fieldNames.Nodup) (type : TypeFits schema record)
    (keys : KeysFit rules schema record)
    (supplied : ∀ spec ∈ schema.fields, Supplied VL record here schema.name held spec)
    (passes : NodePasses schema (.ofList (heldEntries held schema.fieldNames)) here) :
    FieldsAccept rules VL schema record here
      (.make schema.name (heldEntries held schema.fieldNames) [] schema.choiceType
        schema.compactable) := by
  obtain ⟨slots, first, explicit, clear, fed⟩ :=
    FirstPass.of_supplied (c := rules.registry.kinds) supplied { schema := schema.name } rfl rfl
  obtain ⟨last, nested, clear⟩ := SecondPass.of_fed fed [] first explicit.schema_eq clear
  have names : slots.map Slot.name = schema.fieldNames := by
    rw [Schema.fieldNames, ← explicit.specs_eq, List.map_map]
    rfl
  have ends := nested.ends (names ▸ distinct) (explicit.stands distinct fun _ _ => ⟨rfl, rfl⟩)
  have value : ∀ f ∈ schema.fieldNames, last.value? f = held f := by
    intro f hf
    rw [← names] at hf
    obtain ⟨slot, hslot, rfl⟩ := List.mem_map.mp hf
    rcases ends slot hslot with ⟨raw, v, before, -, ⟨-, holds, defined⟩, value, -⟩ |
      ⟨lacks, unsupplied, -⟩
    · exact (Draft.value?_of_get? value defined).trans holds.symm
    · refine (Draft.value?_of_none lacks.1).trans ?_
      cases fed slot hslot with
      | waits _ supplied => cases unsupplied.symm.trans supplied
      | done _ _ nothing => exact (nothing unsupplied).symm
  have entries : last.entries schema.fieldNames = heldEntries held schema.fieldNames :=
    List.filterMap_congr fun f hf => by rw [value f hf]
  have unmarked : schema.fieldNames.filter last.isDefaulted = [] := by
    simp [Draft.isDefaulted, clear]
  have accepted := FieldsAccept.intro type keys
    (explicit.mono fun _ _ _ _ => And.left) (nested.mono fun _ _ _ _ => And.left)
    (fun slot hslot required _ => ?_) (by rwa [Draft.snapshot, entries])
  · rwa [Draft.finish, entries, unmarked, nested.schema_eq, explicit.schema_eq] at accepted
  · cases fed slot hslot with
    | waits _ supplied => exact supplied
    | done _ complete => exact complete required

end Supplied

section Nodes

variable {rules : Rules} {u : UnknownFields} {m : ErrorMode} {first second : ValueRun}

/-- The complete record of an accepted node supplies its fields. -/
theorem supplied_serialize (coherent : rules.registry.Coherent)
    (reserves : rules.registry.ReservesType) {schema : Schema} {raw : Value} {name : String}
    {here there : Setting} {last : Draft} (found : rules.registry.find? name = some schema)
    (conforms : NodeConforming rules.registry rules.maxDepth raw name here
      (last.finish schema.fieldNames schema.choiceType schema.compactable))
    (named : last.schema = schema.name) (same : there.lineage = here.lineage)
    {spec : FieldSpec} (hspec : spec ∈ schema.fields)
    (kept : Kept (ValueReturns rules.registry rules.maxDepth .complete first second) here last spec) :
    Supplied (Sure second)
      (Node.serialize (last.finish schema.fieldNames schema.choiceType schema.compactable) .none)
      there schema.name (fun f => (last.value? f).map (Value.remark fun _ => [])) spec := by
  have distinct : schema.fieldNames.Nodup :=
    coherent.fields schema (List.mem_of_find?_eq_some found)
  have declared : spec.name ∈ schema.fieldNames := List.mem_map_of_mem hspec
  have key := readKey_serialize coherent reserves conforms found declared .none
    fun v held => Draft.isUndefined_of_value? ((Draft.lookup_finish distinct declared).symm.trans held)
  rw [Draft.lookup_finish distinct declared] at key
  rcases kept with ⟨raw, v, before, hbefore, taken, value, -⟩ | ⟨lacks, optional, default⟩
  · have held := Draft.value?_of_get? value taken.conforms.defined
    rw [held] at key
    refine .given key (by rw [held]; rfl) ?_ fun view hview => taken.again _ ?_
    · rw [Value.isUndefined_remark, taken.conforms.defined]
    · show (there.under view).lineage = (here.under before.view).lineage
      rw [Setting.lineage_under, Setting.lineage_under, same, hview]
      exact congrArg here.lineage.under (named.symm.trans hbefore.symm)
  · have none := Draft.value?_of_none lacks.1
    rw [none] at key
    exact .left key (by rw [none]; rfl) default optional

/-- Nodes of a schema return as a whole, if their check does not see more than it may. -/
theorem schemaReturns_complete (coherent : rules.registry.Coherent)
    (reserves : rules.registry.ReservesType) {schema : Schema} (blind : schema.Blind) :
    SchemaReturns rules (rules.withModes u m) .complete first second schema := by
  intro record raw name here there n found conforms fields same
  have distinct : schema.fieldNames.Nodup :=
    coherent.fields schema (List.mem_of_find?_eq_some found)
  obtain ⟨last, rfl, named, passes, kept⟩ := fields.draft distinct
  have supplied := fun spec hspec =>
    supplied_serialize coherent reserves found conforms named same hspec (kept spec hspec)
  have entries : heldEntries (fun f => (last.value? f).map (Value.remark fun _ => []))
      schema.fieldNames = Value.remarkEntries (fun _ => []) (last.entries schema.fieldNames) := by
    rw [Value.remarkEntries_eq_map, Draft.entries, List.map_filterMap, heldEntries]
    simp [Option.map_map, Function.comp_def]
  have sublist := Draft.keys_entries_sublist last schema.fieldNames
  have node : NodeOf.make schema.name
      (Value.remarkEntries (fun _ => []) (last.entries schema.fieldNames)) [] schema.choiceType
      schema.compactable = Node.unmarked
        (last.finish schema.fieldNames schema.choiceType schema.compactable) := by
    rw [NodeOf.make, Node.unmarked, Node.remark, Draft.finish, NodeOf.make, named,
      Entries.ofList_of_nodup (distinct.sublist sublist), Entries.ofList_of_nodup]
    · rfl
    · rw [Value.keys_remarkEntries]
      exact distinct.sublist sublist
  have stack : there.stack.map NodeView.schema = here.stack.map NodeView.schema :=
    congrArg Lineage.schemas same
  have kwargs : there.kwargs = here.kwargs := congrArg Lineage.kwargs same
  refine ⟨?_, fun spec hspec left => ?_⟩
  · have keys : KeysFit (rules.withModes u m) schema (Node.serialize
        (last.finish schema.fieldNames schema.choiceType schema.compactable) .none) :=
      keysFit_serialize conforms found _
    have accepted := FieldsAccept.of_supplied distinct
      (typeFits_serialize coherent reserves conforms found _) keys supplied
      fun check validator => ?_
    · rwa [entries, node] at accepted
    · rw [entries, kwargs, blind check validator _ _ _ _ stack]
      exact passes check validator
  · cases supplied spec hspec with
    | given given => cases left.symm.trans given
    | left _ _ default => simp [FieldSpec.PureDefault, default]

/-- Nodes return as a whole, if no check sees more than it may. -/
theorem nodesReturn_complete (coherent : rules.registry.Coherent)
    (reserves : rules.registry.ReservesType)
    (blind : ∀ s ∈ rules.registry.schemas, s.Blind) :
    NodesReturn rules (rules.withModes u m) .complete first second :=
  fun _ _ _ _ _ _ _ found => schemaReturns_complete coherent reserves
    (blind _ (List.mem_of_find?_eq_some found)) _ _ _ _ _ _ found

end Nodes

end Validation

/-- Idempotence: a valid tree that is written out and validated again, with the same arguments,
ancestors and bound on levels, is valid in every mode and comes back as it was, up to the marks of
defaults; so it is written out the same. -/
theorem Registry.validate_serialize {r : Registry} (made : r.Made)
    (builtin : r.Every (FieldSpec.Builtin r.kinds)) (fixed : r.Every FieldSpec.FixedPattern)
    (keys : r.Every FieldSpec.TextKeys) (forms : r.Every FieldSpec.PrimitiveForms)
    (reserves : r.ReservesType) (blind : r.Every FieldSpec.Blind)
    (blindNodes : ∀ s ∈ r.schemas, s.Blind) {memory memory' : Memory} {raw : Value}
    {schema : String} {o : ValidateOptions} {n : Node}
    (valid : (r.validate memory raw schema o).result = .ok (.valid n))
    (unknownFields : UnknownFields) (errors : ErrorMode) :
    (r.validate memory' (.record (n.serialize .none) true) schema
        { o with unknownFields, errors }).result = .ok (.valid n.unmarked) ∧
      n.unmarked.serialize .none = n.serialize .none := by
  obtain ⟨frozen, t, run, clean⟩ := validate_eq_valid_iff.mp valid
  have faithful : r.Every (FieldSpec.Faithful r.kinds Echo.complete.marks) :=
    fun s hs top ht part hp => ⟨⟨builtin s hs top ht part hp, fixed s hs top ht part hp,
      keys s hs top ht part hp⟩, forms s hs top ht part hp, blind s hs top ht part hp⟩
  have coherent : (o.rules r).registry.Coherent := made.coherent
  have returns := Validation.checkNodeAt_returns (e := .complete) (u := unknownFields)
    (m := errors) coherent reserves faithful
    (fun _ => Validation.nodesReturn_complete coherent reserves blindNodes)
    (Validation.levels o.maxDepth) raw schema ⟨[], o.stack, o.kwargs, 1⟩
  obtain ⟨n', same, returns⟩ := (returns _ _ _ run).2 clean
  cases same
  obtain ⟨t', run', clean'⟩ := returns.again _ rfl [] { memory := memory' } rfl
  exact ⟨validate_eq_valid_iff.mpr ⟨frozen, t', run', clean'⟩, n.serialize_remark _⟩

namespace Library

theorem registry_blind : registry.Every FieldSpec.Blind ∧ ∀ s ∈ registry.schemas, s.Blind := by
  simp [Registry.Every, FieldSpec.Every, registry, chapter, note, book, Schema.allFields, textField,
    FieldSpec.walk, FieldSpec.Blind, FieldSpec.info, Schema.Blind]

/-- The edition is accepted as it is, also where nothing unknown is and at the first issue. -/
theorem validate_edition :
    (registry.validate [] draft "book" {}).result = .ok (.valid edition) ∧
      (registry.validate [] (.record (edition.serialize .none) true) "book"
        { unknownFields := .strict, errors := .failFast }).result = .ok (.valid edition.unmarked) ∧
      edition.unmarked.serialize .none = edition.serialize .none :=
  ⟨validate_draft, Registry.validate_serialize registry_made registry_builtin
    (registry_plain.mono fun _ h => h.1) (registry_plain.mono fun _ h => h.2.1)
    (registry_plain.mono fun _ h => h.2.2.1) registry_reserves registry_blind.1 registry_blind.2
    validate_draft .strict .failFast⟩

end Library

end ShapedTree
