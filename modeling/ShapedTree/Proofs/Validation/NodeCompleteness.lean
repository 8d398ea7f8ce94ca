import ShapedTree.Proofs.Validation.NodeSoundness
import ShapedTree.Proofs.Validation.ValueCompleteness

namespace ShapedTree

open Run

namespace Validation

variable {rules : Rules} {value : ValueRun} {schema : Schema} {record : Entries Value}
  {here : Setting} {c : KindCatalog}

/-- Where a record leaves a field out, the default of the field does not count. -/
def Repeatable (record : Entries Value) (spec : FieldSpec) : Prop :=
  readKey record spec.name = none → spec.PureDefault

theorem produce_certain {d : FieldDefault} {v : Value} (steady : ∀ cell make, d ≠ .counting cell make)
    (h : Produces d v) : Certain (produce d) (some v) := by
  cases h with
  | constant => exact .pure _
  | factory made => exact (Certain.lift made).bind (.pure _)
  | counting => exact absurd rfl (steady _ _)

theorem start_certain {spec : FieldSpec} {started : Option (Value × Bool)}
    (repeatable : Repeatable record spec) (h : Starts record spec started) :
    Certain (start schema record spec) started := by
  unfold start
  cases h with
  | supplied given =>
    simp only [given]
    split
    next => exact (Certain.log _ _).bind (.pure _)
    next => exact .pure _
  | produced left default made =>
    simp only [left, default]
    exact (produce_certain (fun cell make same => repeatable left cell make (same ▸ default))
      made).bind (.pure _)
  | computed left default =>
    simp only [left, default, produce, pure_bind]
    exact .pure _
  | absent left default =>
    simp only [left, default]
    exact .pure _

theorem resolve_certain {d : Draft} {spec : FieldSpec} {raw v : Value} (mark : Bool)
    (taken : Sure value spec raw (here.under d.view) v) (path : List String) :
    Certain (resolve value (here.place path) d spec raw mark) (d.set spec.name v mark) :=
  (taken _).bind (.pure _)

theorem firstPass_certain {d d' : Draft} {specs : List FieldSpec} {slots : List Slot}
    (h : FirstPass rules.registry.kinds (Sure value) record here d specs slots d')
    (repeatable : ∀ spec ∈ specs, Repeatable record spec) (path : List String) :
    Certain (firstPass rules value schema record (here.place path) d specs) (slots, d') := by
  induction h with
  | done => exact .pure _
  | absent start next ih =>
    obtain ⟨first, others⟩ := List.forall_mem_cons.mp repeatable
    unfold firstPass
    refine .guard ((start_certain first start).bind ?_)
    exact (ih others).bind (.pure _)
  | waits start waits next ih =>
    obtain ⟨first, others⟩ := List.forall_mem_cons.mp repeatable
    unfold firstPass
    refine .guard ((start_certain first start).bind ?_)
    simp only [waits.1, waits.2, Bool.not_false, Bool.and_self, if_true]
    exact (ih others).bind (.pure _)
  | @fills d d' spec rest slots raw v defaulted start ready taken next ih =>
    obtain ⟨first, others⟩ := List.forall_mem_cons.mp repeatable
    have now : (!raw.isNull && rules.registry.kinds.isNested spec.kind) = false := by
      rw [← Bool.not_eq_true, Bool.and_eq_true, Bool.not_eq_true']
      exact ready
    unfold firstPass
    refine .guard ((start_certain first start).bind ?_)
    simp only [now, Bool.false_eq_true, if_false]
    exact (resolve_certain defaulted taken path).bind ((ih others).bind (.pure _))

theorem secondPass_certain {earlier : List String} {d d' : Draft} {slots : List Slot}
    (h : SecondPass (Sure value) here earlier d slots d') (path : List String) :
    Certain (secondPass rules value (here.place path) earlier d slots) d' := by
  induction h with
  | done => exact .pure _
  | waited waiting taken next ih =>
    unfold secondPass
    refine .guard ?_
    simp only [waiting]
    exact (resolve_certain _ taken path).bind ih
  | computed waiting unsupplied default made taken next ih =>
    unfold secondPass
    refine .guard ?_
    simp only [waiting, unsupplied, default]
    exact (Certain.lift made).bind ((resolve_certain true taken path).bind ih)
  | settled settled next ih =>
    unfold secondPass
    refine .guard ?_
    simp only [settled.1]
    split
    next waiting => cases waiting
    next generate _ unsupplied default =>
      rcases settled.2 with supplied | never
      · cases supplied.symm.trans unsupplied
      · exact absurd default (never generate)
    next => exact ih

theorem checkMissing_certain {slots : List Slot} (complete : Complete slots) (place : Place) :
    Certain (checkMissing rules schema place slots) () := by
  induction slots with
  | nil => exact .pure _
  | cons slot rest ih =>
    obtain ⟨first, others⟩ := List.forall_mem_cons.mp complete
    have fine : (slot.spec.info.required && !slot.supplied &&
        slot.spec.info.default?.isNone) = false := by
      rw [← Bool.not_eq_true]
      simp only [Bool.and_eq_true, Bool.not_eq_true', Option.isNone_iff_eq_none]
      rintro ⟨⟨required, missing⟩, none⟩
      cases missing.symm.trans (first required none)
    unfold checkMissing
    simp only [fine, Bool.false_eq_true, if_false]
    exact ih others

theorem checkType_certain (type : TypeFits schema record) (place : Place) :
    Certain (checkType rules schema record place) () := by
  unfold checkType
  split
  next membership named choice given =>
    simp only [type membership named choice given, Bool.not_true, Bool.false_eq_true, if_false]
    exact .pure _
  next => exact .pure _

theorem checkKeys_certain {es : Entries Value} (keys : KeysFit rules schema es) (place : Place) :
    Certain (checkKeys rules schema place es) () := by
  induction es with
  | nil => exact .pure _
  | cons e rest ih =>
    have next := ih fun strict => (List.forall_mem_cons.mp (keys strict)).2
    unfold checkKeys
    split
    next refused =>
      split
      next strict =>
        rw [(List.forall_mem_cons.mp (keys strict)).1] at refused
        cases refused
      next => exact (Certain.log _ _).bind next
    next => exact next

theorem checkNode_certain {d : Draft} (passes : NodePasses schema (d.snapshot schema.fieldNames) here)
    (path : List String) : Certain (checkNode rules schema d (here.place path)) true := by
  unfold checkNode
  split
  next => exact .pure _
  next check some => exact (Certain.lift (passes check some)).bind (.pure _)

theorem fill_certain {slots : List Slot} {first last : Draft} (type : TypeFits schema record)
    (keys : KeysFit rules schema record)
    (explicit : FirstPass rules.registry.kinds (Sure value) record here { schema := schema.name }
      schema.fields slots first)
    (nested : SecondPass (Sure value) here [] first slots last) (complete : Complete slots)
    (repeatable : ∀ spec ∈ schema.fields, Repeatable record spec) (path : List String) :
    Certain (fill rules value schema record (here.place path)) last := by
  unfold fill
  refine (checkType_certain type _).bind ((checkKeys_certain keys _).bind ?_)
  refine (firstPass_certain explicit repeatable path).bind ?_
  exact (secondPass_certain nested path).bind ((checkMissing_certain complete _).bind (.pure _))

theorem checkFields_certain {n : Node} (h : FieldsAccept rules (Sure value) schema record here n)
    (repeatable : ∀ spec ∈ schema.fields, Repeatable record spec) (path : List String) :
    Certain (checkFields rules value schema record (here.place path)) (some n) := by
  obtain ⟨type, keys, explicit, nested, complete, passes⟩ := h
  rw [checkFields_eq]
  refine (fill_certain type keys explicit nested complete repeatable path).watched.bind ?_
  simp only [Bool.false_eq_true, if_false]
  refine .guard ?_
  exact (checkNode_certain passes path).bind (.pure _)

theorem expand_certain {raw : Value} (h : Expands (Sure value) schema here raw record)
    (path : List String) :
    Certain (expand rules value raw schema (here.place path)) (some record) := by
  unfold expand
  cases h with
  | record shape =>
    simp only [shape]
    exact .pure _
  | shortform shape declared taken expanded =>
    simp only [shape, declared]
    exact (taken _).bind ((Certain.lift expanded).bind (.pure _))

/-- A raw value whose record the rules accept as a node of a schema, a check makes that node of
without an issue. -/
theorem checkNodeWith_certain {raw : Value} {name : String} {n : Node}
    (found : rules.registry.find? name = some schema)
    (shallow : rules.maxDepth.lt here.depth = false)
    (args : here.kwargs.missing (schema.info.requires.getD []) = [])
    (expands : Expands (Sure value) schema here raw record)
    (fields : FieldsAccept rules (Sure value) schema record here n)
    (repeatable : ∀ spec ∈ schema.fields, Repeatable record spec) :
    SureNode (checkNodeWith rules value) raw name here n := by
  intro path
  unfold checkNodeWith
  refine .guard ?_
  have depth : rules.maxDepth.lt (here.place path).depth = false := shallow
  have given : (here.place path).kwargs.missing (schema.info.requires.getD []) = [] := args
  simp only [found, depth, given, ne_eq, not_true_eq_false, if_false, Bool.false_eq_true]
  exact (expand_certain expands path).bind (checkFields_certain fields repeatable path)

end Validation

end ShapedTree
