import ShapedTree.Proofs.Validation.NodeLockstep
import ShapedTree.Proofs.Validation.Resubmission

namespace ShapedTree

/-- A tree is handed in again without its defaults, where it was before. -/
def Echo.minimal : Echo where
  omission := .defaulted
  marks := id
  meets here there := there = here
  lineage same := congrArg Setting.lineage same
  inside spec same := congrArg (Setting.inside · spec) same
  below spec same := congrArg (Setting.below · spec) same

namespace Validation

/-- The slot of a field in a record without defaults: what waits was written out. -/
def Slot.resupplied (last : Draft) (slot : Slot) : Slot :=
  match slot.waiting with
  | some (_, false) =>
    { slot with waiting := (last.value? slot.spec.name).map fun v => (v.serialize .defaulted, false) }
  | _ => slot

namespace Slot

variable {last : Draft} {slot : Slot} {raw v : Value}

@[simp] theorem spec_resupplied : (slot.resupplied last).spec = slot.spec := by
  unfold resupplied
  split <;> rfl

@[simp] theorem supplied_resupplied : (slot.resupplied last).supplied = slot.supplied := by
  unfold resupplied
  split <;> rfl

theorem resupplied_of_none (h : slot.waiting = none) : slot.resupplied last = slot := by
  simp [resupplied, h]

theorem resupplied_of_default (h : slot.waiting = some (raw, true)) :
    slot.resupplied last = slot := by
  simp [resupplied, h]

theorem resupplied_of_supplied (h : slot.waiting = some (raw, false))
    (held : last.value? slot.spec.name = some v) :
    slot.resupplied last = { slot with waiting := some (v.serialize .defaulted, false) } := by
  simp [resupplied, h, held]

end Slot

section Passes

variable {r : Registry} {maxDepth : Number} {value : ValueRun} {record written : Entries Value}
  {here : Setting} {d d' last : Draft}

/-- What is said of accepted values where output leaves defaults out. -/
abbrev Returns (r : Registry) (maxDepth : Number) (value : ValueRun) : ValueLaw :=
  ValueReturns r maxDepth .minimal value value

theorem Returns.sure {spec : FieldSpec} {raw v : Value}
    (h : Returns r maxDepth value spec raw here v) :
    Sure value spec (v.serialize .defaulted) here v := by
  have sure := h.again here rfl
  rwa [show v.remark Echo.minimal.marks = v from v.remark_id] at sure

/-- A record without defaults holds a draft's values that were supplied. -/
def Minimal (written : Entries Value) (last : Draft) (spec : FieldSpec) : Prop :=
  readKey written spec.name = if last.isDefaulted spec.name then none
    else (last.value? spec.name).map (Value.serialize .defaulted)

/-- A check comes to the same value for the same raw value. -/
def Repeats (r : Registry) (maxDepth : Number) (value : ValueRun) (spec : FieldSpec) : Prop :=
  ∀ raw here v, Returns r maxDepth value spec raw here v → Sure value spec raw here v

/-- The second pass fills the same draft from the slots of a record without defaults. -/
theorem SecondPass.again {earlier : List String} {slots : List Slot}
    (h : SecondPass (Returns r maxDepth value) here earlier d slots last)
    (distinct : (slots.map Slot.name).Nodup)
    (repeats : ∀ slot ∈ slots, Repeats r maxDepth value slot.spec) :
    SecondPass (Sure value) here earlier d (slots.map (Slot.resupplied last)) last := by
  induction h with
  | done => exact .done _ _
  | @waited earlier d last slot rest raw v mark waiting taken next ih =>
    obtain ⟨apart, distinct⟩ := List.nodup_cons.mp distinct
    obtain ⟨first, others⟩ := List.forall_mem_cons.mp repeats
    have rest := ih distinct others
    rw [List.map_cons]
    cases mark with
    | true =>
      rw [Slot.resupplied_of_default waiting]
      exact .waited waiting (first _ _ _ taken) rest
    | false =>
      have held : last.value? slot.spec.name = some v := by
        refine Draft.value?_of_get? ((next.agree apart).2.1.trans ?_) taken.conforms.defined
        rw [Slot.name, Draft.get?_set, if_pos rfl]
      rw [Slot.resupplied_of_supplied waiting held]
      exact .waited rfl taken.sure rest
  | @computed earlier d last slot rest raw v generate waiting unsupplied default made taken next ih =>
    obtain ⟨-, distinct⟩ := List.nodup_cons.mp distinct
    obtain ⟨first, others⟩ := List.forall_mem_cons.mp repeats
    rw [List.map_cons, Slot.resupplied_of_none waiting]
    exact .computed waiting unsupplied default made (first _ _ _ taken) (ih distinct others)
  | settled settled next ih =>
    obtain ⟨-, distinct⟩ := List.nodup_cons.mp distinct
    obtain ⟨-, others⟩ := List.forall_mem_cons.mp repeats
    rw [List.map_cons, Slot.resupplied_of_none settled.1]
    exact .settled settled (ih distinct others)

/-- The first pass over a record without defaults fills the same draft. -/
theorem FirstPass.again {specs : List FieldSpec} {slots : List Slot}
    (h : FirstPass r.kinds (Returns r maxDepth value) record here d specs slots d')
    (distinct : (specs.map FieldSpec.name).Nodup) (fresh : ∀ spec ∈ specs, Lacks d spec)
    (repeats : ∀ spec ∈ specs, Repeats r maxDepth value spec)
    (minimal : ∀ spec ∈ specs, Minimal written last spec)
    (finishes : ∀ slot ∈ slots, Finishes (Returns r maxDepth value) here d' last slot) :
    FirstPass r.kinds (Sure value) written here d specs (slots.map (Slot.resupplied last)) d' := by
  induction h with
  | done => exact .done _
  | @absent d d' spec rest slots start next ih =>
    obtain ⟨apart, distinct⟩ := List.nodup_cons.mp distinct
    obtain ⟨lacks, fresh⟩ := List.forall_mem_cons.mp fresh
    obtain ⟨-, repeats⟩ := List.forall_mem_cons.mp repeats
    obtain ⟨shown, minimal⟩ := List.forall_mem_cons.mp minimal
    obtain ⟨finish, finishes⟩ := List.forall_mem_cons.mp finishes
    refine .absent ?_ (ih distinct fresh repeats minimal finishes)
    cases start with
    | computed _ default =>
      -- The value came from the generator, so the written record leaves the field out.
      obtain ⟨-, -, -, -, -, -, marked⟩ := finish.computed _ rfl rfl default
      refine .computed ?_ default
      rw [shown, if_pos marked]
    | absent _ default =>
      -- Nothing fills the field in either pass, so nothing was written under its name.
      have agree := (next.agree apart).trans
        (finish.settled ⟨rfl, .inr fun _ => by simp [default]⟩)
      refine .absent ?_ default
      rw [shown, Draft.value?_of_none (agree.2.1.trans lacks.1)]
      split <;> rfl
  | @waits d d' spec rest slots raw mark start waits next ih =>
    obtain ⟨-, distinct⟩ := List.nodup_cons.mp distinct
    obtain ⟨-, fresh⟩ := List.forall_mem_cons.mp fresh
    obtain ⟨-, repeats⟩ := List.forall_mem_cons.mp repeats
    obtain ⟨shown, minimal⟩ := List.forall_mem_cons.mp minimal
    obtain ⟨finish, finishes⟩ := List.forall_mem_cons.mp finishes
    have rest := ih distinct fresh repeats minimal finishes
    obtain ⟨before, v, -, taken, value, marked⟩ := finish.waited raw mark rfl
    rw [List.map_cons]
    cases start with
    | supplied given =>
      have held := Draft.value?_of_get? value taken.conforms.defined
      rw [Slot.resupplied_of_supplied rfl held]
      refine .waits (.supplied ?_) (taken.waits.mpr waits) rest
      rw [shown, marked, held]
      rfl
    | produced _ default made =>
      -- A default is left out of the written record, and waits again.
      rw [Slot.resupplied_of_default rfl]
      refine .waits (.produced ?_ default made) waits rest
      rw [shown, if_pos marked]
  | @fills d d' spec rest slots raw v mark start ready taken next ih =>
    obtain ⟨apart, distinct⟩ := List.nodup_cons.mp distinct
    obtain ⟨-, fresh⟩ := List.forall_mem_cons.mp fresh
    obtain ⟨first, repeats⟩ := List.forall_mem_cons.mp repeats
    obtain ⟨shown, minimal⟩ := List.forall_mem_cons.mp minimal
    obtain ⟨finish, finishes⟩ := List.forall_mem_cons.mp finishes
    have lacking : ∀ s ∈ rest, Lacks (d.set spec.name v mark) s := fun s hs =>
      (fresh s hs).of_agree
        (agree_set (ne_of_mem_of_not_mem (List.mem_map_of_mem hs) apart))
    have rest := ih distinct lacking repeats minimal finishes
    obtain ⟨-, value, marked⟩ := (next.agree apart).trans (finish.settled start.settled)
    rw [Draft.get?_set, if_pos rfl] at value
    rw [Draft.isDefaulted_set, if_pos rfl] at marked
    rw [List.map_cons, Slot.resupplied_of_none rfl]
    cases start with
    | supplied given =>
      have held := Draft.value?_of_get? value taken.conforms.defined
      refine .fills (.supplied ?_) (taken.waits.not.mpr ready) taken.sure rest
      rw [shown, marked, held]
      rfl
    | produced _ default made =>
      refine .fills (.produced ?_ default made) ready (first _ _ _ taken) rest
      rw [shown, if_pos marked]

end Passes

section Runs

variable {rules : Rules}

theorem pathRelation_true : PathRelation fun _ _ => True := ⟨fun _ _ => trivial, fun _ _ => trivial⟩

/-- What a check of a value comes to once without an issue, it comes to again at whatever path, if
nothing remembers. -/
theorem sure_of_ran (plain : rules.registry.Every
      (FieldSpec.Memoryless rules.registry.kinds)) (levels questions : Nat) {spec : FieldSpec}
    (hspec : spec.Every (FieldSpec.Memoryless rules.registry.kinds)) {raw v : Value}
    {here : Setting}
    (h : ∃ path, Run.Accepted (checkValue rules (checkNodeAt rules levels) questions spec raw
      (here.place path)) (some v)) :
    Sure (checkValue rules (checkNodeAt rules levels) questions) spec raw here v := by
  obtain ⟨before, ran⟩ := h
  intro path
  have pace : Pace rules rules := ⟨rfl, .inl rfl⟩
  have paired := checkValue_paired pathRelation_true pace
    (checkNodeAt_follows pathRelation_true pace plain levels) questions
  exact (paired spec hspec raw (here.place before) (here.place path)
    ⟨rfl, trivial⟩).follows.certain ran

theorem repeats_of_memoryless (plain : rules.registry.Every
      (FieldSpec.Memoryless rules.registry.kinds)) (levels questions : Nat) {spec : FieldSpec}
    (hspec : spec.Every (FieldSpec.Memoryless rules.registry.kinds)) :
    Repeats rules.registry rules.maxDepth (checkValue rules (checkNodeAt rules levels) questions)
      spec :=
  fun _ _ _ returns => sure_of_ran plain levels questions hspec returns.ran

theorem minimal_serialize (coherent : rules.registry.Coherent)
    (reserves : rules.registry.ReservesType) {schema : Schema} {raw : Value} {name : String}
    {here : Setting} {last : Draft} (found : rules.registry.find? name = some schema)
    (conforms : NodeConforming rules.registry rules.maxDepth raw name here
      (last.finish schema.fieldNames schema.choiceType schema.compactable))
    {spec : FieldSpec} (hspec : spec ∈ schema.fields) :
    Minimal (Node.serialize (last.finish schema.fieldNames schema.choiceType schema.compactable)
      .defaulted) last spec := by
  have distinct : schema.fieldNames.Nodup :=
    coherent.fields schema (List.mem_of_find?_eq_some found)
  have declared : spec.name ∈ schema.fieldNames := List.mem_map_of_mem hspec
  unfold Minimal
  rw [readKey_serialize coherent reserves conforms found declared, NodeOf.keeps,
    Draft.isDefaulted_finish declared, Draft.lookup_finish distinct declared]
  · cases last.isDefaulted spec.name <;> rfl
  · intro v held
    rw [Draft.lookup_finish distinct declared] at held
    exact Draft.isUndefined_of_value? held

/-- The record of an accepted node without its defaults makes the same node. -/
theorem FieldsAccept.again (coherent : rules.registry.Coherent)
    (reserves : rules.registry.ReservesType) {value : ValueRun} {schema : Schema}
    {record : Entries Value} {raw : Value} {name : String} {here : Setting} {n : Node}
    (found : rules.registry.find? name = some schema)
    (conforms : NodeConforming rules.registry rules.maxDepth raw name here n)
    (repeats : ∀ spec ∈ schema.fields, Repeats rules.registry rules.maxDepth value spec)
    (h : FieldsAccept rules (Returns rules.registry rules.maxDepth value) schema record here n) :
    FieldsAccept rules (Sure value) schema (n.serialize .defaulted) here n := by
  have distinct : schema.fieldNames.Nodup :=
    coherent.fields schema (List.mem_of_find?_eq_some found)
  obtain ⟨type, keys, explicit, nested, complete, passes⟩ := h
  have names : _ = schema.fieldNames := (congrArg (List.map FieldSpec.name) explicit.specs_eq)
  rw [List.map_map] at names
  refine .intro (typeFits_serialize coherent reserves conforms found _)
    (keysFit_serialize conforms found _)
    (explicit.again distinct (fun _ _ => ⟨rfl, rfl⟩) repeats
      (fun spec hspec => minimal_serialize coherent reserves found conforms hspec)
      (nested.finishes (names ▸ distinct)))
    (nested.again (names ▸ distinct) fun slot hslot =>
      repeats _ (explicit.specs_eq ▸ List.mem_map_of_mem hslot)) (fun slot hslot => ?_) passes
  obtain ⟨before, hbefore, rfl⟩ := List.mem_map.mp hslot
  simpa using complete before hbefore

/-- Nodes return without their defaults, if nothing remembers. -/
theorem nodesReturn_minimal (coherent : rules.registry.Coherent)
    (reserves : rules.registry.ReservesType)
    (plain : rules.registry.Every (FieldSpec.Memoryless rules.registry.kinds)) (levels : Nat) :
    NodesReturn rules rules .minimal (checkValue rules (checkNodeAt rules levels) questionLimit)
      (checkValue rules (checkNodeAt rules levels) questionLimit) := by
  intro schema record raw name here there n found conforms fields same
  cases show there = here from same
  rw [show n.remark Echo.minimal.marks = n from n.remark_id]
  refine ⟨fields.again coherent reserves found conforms fun spec hspec => ?_, fun spec hspec _ => ?_⟩
  · exact repeats_of_memoryless plain levels _ (plain.field found hspec)
  · exact (plain.field found hspec).self.default

end Runs

end Validation

/-- Minimal output loses nothing: a valid tree that is written out without its defaulted values and
validated again, with the same options, comes back as it was, its marks of defaults included. -/
theorem Registry.validate_minimal {r : Registry} (made : r.Made)
    (builtin : r.Every (FieldSpec.Builtin r.kinds)) (fixed : r.Every FieldSpec.FixedPattern)
    (keys : r.Every FieldSpec.TextKeys) (forms : r.Every FieldSpec.PrimitiveForms)
    (steady : r.Every FieldSpec.PureDefault) (reserves : r.ReservesType)
    {memory memory' : Memory} {raw : Value} {schema : String} {o : ValidateOptions} {n : Node}
    (valid : (r.validate memory raw schema o).result = .ok (.valid n)) :
    (r.validate memory' (.record (n.serialize .defaulted) true) schema o).result =
      .ok (.valid n) := by
  obtain ⟨frozen, t, run, clean⟩ := validate_eq_valid_iff.mp valid
  have faithful : r.Every (FieldSpec.Faithful r.kinds Echo.minimal.marks) :=
    fun s hs top ht part hp => ⟨⟨builtin s hs top ht part hp, fixed s hs top ht part hp,
      keys s hs top ht part hp⟩, forms s hs top ht part hp,
      fun check _ v => congrArg check v.remark_id⟩
  have plain : r.Every (FieldSpec.Memoryless r.kinds) := fun s hs top ht part hp =>
    ⟨builtin s hs top ht part hp, fixed s hs top ht part hp, steady s hs top ht part hp⟩
  have coherent : (o.rules r).registry.Coherent := made.coherent
  have returns := Validation.checkNodeAt_returns (e := .minimal) (u := o.unknownFields)
    (m := o.errors) coherent reserves faithful
    (Validation.nodesReturn_minimal coherent reserves plain)
    (Validation.levels o.maxDepth) raw schema ⟨[], o.stack, o.kwargs, 1⟩
  obtain ⟨m, same, returns⟩ := (returns _ _ _ run).2 clean
  cases same
  obtain ⟨t', run', clean'⟩ := returns.again _ rfl [] { memory := memory' } rfl
  rw [show n.remark Echo.minimal.marks = n from n.remark_id] at run'
  exact validate_eq_valid_iff.mpr ⟨frozen, t', run', clean'⟩

namespace Library

/-- The edition without its rank and its label is the same edition. -/
theorem validate_edition_minimal :
    (registry.validate [] draft "book" {}).result = .ok (.valid edition) ∧
      (registry.validate [] (.record (edition.serialize .defaulted) true) "book" {}).result =
        .ok (.valid edition) :=
  ⟨validate_draft, Registry.validate_minimal registry_made registry_builtin
    (registry_plain.mono fun _ h => h.1) (registry_plain.mono fun _ h => h.2.1)
    (registry_plain.mono fun _ h => h.2.2.1) (registry_plain.mono fun _ h => h.2.2.2)
    registry_reserves validate_draft⟩

end Library

end ShapedTree
