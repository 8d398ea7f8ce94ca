import ShapedTree.Proofs.Kind.Inquiry
import ShapedTree.Proofs.Schema.Description
import ShapedTree.Proofs.Validation.NodeSoundness
import ShapedTree.Proofs.Validation.ValueCompleteness

namespace ShapedTree

open Run

/-- A specification of a built-in kind that itself refers to the given schemas only. -/
structure FieldSpec.Confined (r : Registry) (schemas : String → Prop) (s : FieldSpec) : Prop where
  builtin : s.Builtin r.kinds
  refers : ∀ target ∈ Description.ownReferences r s, schemas target

/-- Schemas that refer to one another only, and lists of ancestors that their generators and checks
do not tell apart, not even below further ancestors. -/
structure Indifference (r : Registry) where
  schemas : String → Prop
  alike : List NodeView → List NodeView → Prop
  push : ∀ {a b : List NodeView} (view : NodeView), alike a b → alike (a ++ [view]) (b ++ [view])
  confined : ∀ {name : String} {s : Schema}, schemas name → r.find? name = some s →
    ∀ spec ∈ s.allFields, spec.Every (FieldSpec.Confined r schemas)
  generator : ∀ {name : String} {s : Schema}, schemas name → r.find? name = some s →
    ∀ spec ∈ s.fields, ∀ generate, spec.info.default? = some (.computed generate) →
      ∀ (a b : List NodeView) (siblings : Entries Value) (kwargs : Kwargs) (field : String),
        alike a b → generate ⟨b, .ofList siblings, kwargs, field⟩ =
          generate ⟨a, .ofList siblings, kwargs, field⟩
  check : ∀ {name : String} {s : Schema}, schemas name → r.find? name = some s →
    ∀ check, s.info.validator = some check →
      ∀ (a b : List NodeView) (values : Entries Value) (kwargs : Kwargs), alike a b →
        check ⟨.ofList values, b, kwargs⟩ = check ⟨.ofList values, a, kwargs⟩

/-- All schemas together are closed. -/
theorem Registry.confined_of_builtin {r : Registry} (builtin : r.Every (FieldSpec.Builtin r.kinds))
    {name : String} {s : Schema} (_ : True) (found : r.find? name = some s) :
    ∀ spec ∈ s.allFields, spec.Every (FieldSpec.Confined r fun _ => True) :=
  fun top ht part hp =>
    ⟨builtin s (List.mem_of_find?_eq_some found) top ht part hp, fun _ _ => trivial⟩

variable {rules : Rules} {node : NodeRun} {other value : ValueRun}

theorem Choice.check_restacked {raw : Value} {group : String} {place : Place}
    {stack : List NodeView}
    (h : ∀ type name, (type, name) ∈ rules.registry.choiceMembers group →
      node raw name { place with stack } = node raw name place) :
    Choice.check rules node raw group { place with stack } =
      Choice.check rules node raw group place := by
  -- By type, by trial or alone: only members of the group are asked for.
  have typed : ∀ types type,
      byType rules node raw group { place with stack } (rules.registry.choiceMembers group) types
        type =
      byType rules node raw group place (rules.registry.choiceMembers group) types type := by
    intro types type
    unfold byType
    cases target : member? (rules.registry.choiceMembers group) type with
    | none => rfl
    | some name =>
      cases type with
      | text t => exact h t name (Entries.mem_of_lookup target)
      | _ => cases target
  have matched : ∀ names, (∀ name ∈ names, ∃ type,
      (type, name) ∈ rules.registry.choiceMembers group) →
      matching node raw { place with stack } names = matching node raw place names := by
    intro names
    induction names with
    | nil => exact fun _ => rfl
    | cons name rest ih =>
      intro members
      obtain ⟨⟨type, member⟩, others⟩ := List.forall_mem_cons.mp members
      simp only [matching, h type name member, ih others]
  have fitted : ∀ types,
      byFit rules node raw group { place with stack } (rules.registry.choiceMembers group) types =
      byFit rules node raw group place (rules.registry.choiceMembers group) types := by
    intro types
    unfold byFit
    rw [matched]
    intro name hname
    obtain ⟨⟨type, _⟩, member, rfl⟩ := List.mem_map.mp hname
    exact ⟨type, member⟩
  unfold Choice.check
  simp only [typed, fitted]
  congr 1
  funext stopped
  split
  · rfl
  · split
    · rfl
    · split
      next type name only => exact h type name (by rw [only]; exact List.mem_singleton_self _)
      next => rfl

namespace Validation

variable (I : Indifference rules.registry)

/-- Checks of nodes of indifferent schemas do not depend on the ancestors. -/
def NodesIgnore (node : NodeRun) : Prop :=
  ∀ raw name place stack, I.schemas name → I.alike place.stack stack →
    node raw name { place with stack } = node raw name place

/-- Checks of values that refer to indifferent schemas do not depend on the ancestors. -/
def ValuesIgnore (value : ValueRun) : Prop :=
  ∀ spec : FieldSpec, spec.Every (FieldSpec.Confined rules.registry I.schemas) →
    ∀ raw place stack, I.alike place.stack stack →
      value spec raw { place with stack } = value spec raw place

variable {I}

theorem kind_restacked (hnode : NodesIgnore I node) {k : BuiltinKind} {spec : FieldSpec}
    (known : rules.registry.kinds.Knows k spec)
    (refers : ∀ target ∈ Description.ownReferences rules.registry spec, I.schemas target)
    (parts : PartChecks Run) (raw : Value) {place : Place} {stack : List NodeView}
    (alike : I.alike place.stack stack) :
    k.check (context rules node other spec { place with stack }) parts spec.info raw =
      k.check (context rules node other spec place) parts spec.info raw := by
  have below : ∀ name overrides, I.schemas name →
      node raw name ((Place.inside { place with stack } spec).below overrides) =
        node raw name ((place.inside spec).below overrides) := fun name overrides seen =>
    hnode raw name ((place.inside spec).below overrides) stack seen alike
  cases nested : k.isNested with
  | false =>
    cases k with
    | node | choice | list | mapping | either => cases nested
    | _ => rfl
  | true =>
    obtain ⟨q, asks, same⟩ := BuiltinKind.check_asks nested spec.info raw
    rw [same, same]
    cases asks with
    | @node target named =>
      have seen := refers target (Description.target_mem_ownReferences known.1 named)
      simp only [Kind.Inquiry.result, context, below target _ seen]
    | @choice group named =>
      have same : Choice.check rules node raw group
          ((Place.inside { place with stack } spec).below spec.info.kwargs) =
          Choice.check rules node raw group ((place.inside spec).below spec.info.kwargs) :=
        @Choice.check_restacked rules node raw group ((place.inside spec).below spec.info.kwargs)
          stack fun type name member =>
            below name _ (refers name (Description.member_mem_ownReferences known.1 named member))
      simp only [Kind.Inquiry.result, context, same]
    | _ => rfl

theorem ofSpec_congr {f g : FieldSpec → PartCheck Run} {spec : FieldSpec}
    (h : ∀ part ∈ spec.parts, f part = g part) :
    PartChecks.ofSpec f spec = PartChecks.ofSpec g spec := by
  cases spec with
  | leaf => rfl
  | list info item => simp [PartChecks.ofSpec, h item (by simp [FieldSpec.parts])]
  | mapping info key value =>
    simp [PartChecks.ofSpec, h key (by simp [FieldSpec.parts]),
      h value (by simp [FieldSpec.parts])]
  | either info primitive complex =>
    simp [PartChecks.ofSpec, h primitive (by simp [FieldSpec.parts]),
      h complex (by simp [FieldSpec.parts])]

theorem checkSpec_restacked (hnode : NodesIgnore I node) :
    ValuesIgnore I (checkSpec rules node other) := by
  intro spec confined
  induction spec using FieldSpec.induction_parts with
  | h spec ih =>
    intro raw place stack alike
    obtain ⟨⟨k, known⟩, refers⟩ := confined.self
    have parts : PartChecks.ofSpec (fun part raw label => checkSpec rules node other part raw
          ((Place.inside { place with stack } spec).labelled label)) spec =
        PartChecks.ofSpec (fun part raw label => checkSpec rules node other part raw
          ((place.inside spec).labelled label)) spec := by
      refine ofSpec_congr fun part hpart => ?_
      funext raw label
      exact ih part hpart (confined.part hpart) raw ((place.inside spec).labelled label) stack alike
    rw [checkSpec_eq, checkSpec_eq, parts]
    unfold checkWith
    simp only [known.check_eq, kind_restacked hnode known refers _ raw alike]

variable {schema : Schema} {record : Entries Value} {place : Place} {stack : List NodeView}

theorem resolve_restacked (hvalue : ValuesIgnore I value) {spec : FieldSpec}
    (confined : spec.Every (FieldSpec.Confined rules.registry I.schemas))
    (alike : I.alike place.stack stack) (draft : Draft) (raw : Value) (mark : Bool) :
    resolve value { place with stack } draft spec raw mark =
      resolve value place draft spec raw mark := by
  let inner := { place.field draft.schema spec.name with stack := place.stack ++ [draft.view] }
  have same : value spec raw { inner with stack := stack ++ [draft.view] } =
      value spec raw inner :=
    hvalue spec confined raw inner _ (I.push draft.view alike)
  exact congrArg (· >>= _) same

theorem firstPass_restacked (hvalue : ValuesIgnore I value) {specs : List FieldSpec}
    (confined : ∀ spec ∈ specs, spec.Every (FieldSpec.Confined rules.registry I.schemas))
    (alike : I.alike place.stack stack) (draft : Draft) :
    firstPass rules value schema record { place with stack } draft specs =
      firstPass rules value schema record place draft specs := by
  induction specs generalizing draft with
  | nil => rfl
  | cons spec rest ih =>
    obtain ⟨here, others⟩ := List.forall_mem_cons.mp confined
    simp only [firstPass, ih others, resolve_restacked hvalue here alike]

theorem secondPass_restacked (hvalue : ValuesIgnore I value) {slots : List Slot}
    (confined : ∀ slot ∈ slots, slot.spec.Every (FieldSpec.Confined rules.registry I.schemas))
    (generates : ∀ slot ∈ slots, ∀ generate, slot.spec.info.default? = some (.computed generate) →
      ∀ (siblings : Entries Value) (kwargs : Kwargs) (field : String),
        generate ⟨stack, .ofList siblings, kwargs, field⟩ =
          generate ⟨place.stack, .ofList siblings, kwargs, field⟩)
    (alike : I.alike place.stack stack) (earlier : List String) (draft : Draft) :
    secondPass rules value { place with stack } earlier draft slots =
      secondPass rules value place earlier draft slots := by
  induction slots generalizing earlier draft with
  | nil => rfl
  | cons slot rest ih =>
    obtain ⟨here, others⟩ := List.forall_mem_cons.mp confined
    obtain ⟨own, later⟩ := List.forall_mem_cons.mp generates
    unfold secondPass
    simp only [ih others later, resolve_restacked hvalue here alike]
    congr 1
    funext stopped
    split
    · rfl
    · split
      next => rfl
      next generate _ _ default =>
        have same : generate ⟨stack, draft.snapshot earlier, place.kwargs, slot.spec.name⟩ =
            generate ⟨place.stack, draft.snapshot earlier, place.kwargs, slot.spec.name⟩ :=
          own generate default (draft.entries earlier) place.kwargs slot.spec.name
        exact congrArg (fun raw : Except Fault Value => liftM raw >>= _) same
      next => rfl

theorem checkKeys_restacked (es : List (String × Value)) :
    checkKeys rules schema { place with stack } es = checkKeys rules schema place es := by
  induction es with
  | nil => rfl
  | cons e rest ih => simp only [checkKeys, ih, Place.field]

theorem checkMissing_restacked (slots : List Slot) :
    checkMissing rules schema { place with stack } slots =
      checkMissing rules schema place slots := by
  induction slots with
  | nil => rfl
  | cons slot rest ih => simp only [checkMissing, ih, Place.field]

/-- The node of an indifferent schema does not depend on the ancestors. -/
theorem checkFields_restacked (hvalue : ValuesIgnore I value) {name : String}
    (seen : I.schemas name) (found : rules.registry.find? name = some schema)
    (alike : I.alike place.stack stack) :
    checkFields rules value schema record { place with stack } =
      checkFields rules value schema record place := by
  have fields : ∀ spec ∈ schema.fields,
      spec.Every (FieldSpec.Confined rules.registry I.schemas) := fun spec declared =>
    I.confined seen found spec (List.mem_append_left _ declared)
  have filled : fill rules value schema record { place with stack } =
      fill rules value schema record place := by
    have passes : ∀ r : List Slot × Draft, r.1.map Slot.spec = schema.fields →
        secondPass rules value { place with stack } [] r.2 r.1 =
          secondPass rules value place [] r.2 r.1 := by
      intro r specs
      have declared : ∀ slot ∈ r.1, slot.spec ∈ schema.fields := fun slot hslot =>
        specs ▸ List.mem_map_of_mem hslot
      refine secondPass_restacked hvalue (fun slot hslot => fields _ (declared slot hslot))
        (fun slot hslot generate default siblings kwargs field => ?_) alike [] r.2
      exact I.generator seen found slot.spec (declared slot hslot) generate default place.stack
        stack siblings kwargs field alike
    simp only [fill, checkKeys_restacked, checkMissing_restacked,
      firstPass_restacked hvalue fields alike]
    refine congrArg (checkType rules schema record place >>= ·) (funext fun _ => ?_)
    refine congrArg (checkKeys rules schema place record >>= ·) (funext fun _ => ?_)
    refine (firstPass_returns schema.fields _).bind_congr fun r specs => ?_
    exact congrArg (· >>= _) (passes r specs)
  have checked : ∀ draft, checkNode rules schema draft { place with stack } =
      checkNode rules schema draft place := by
    intro draft
    unfold checkNode
    split
    next => rfl
    next check declared =>
      have same := I.check seen found check declared place.stack stack
        (draft.entries schema.fieldNames) place.kwargs alike
      simp only [Draft.snapshot, same]
  simp only [checkFields_eq, filled, checked]

theorem checkNodeWith_restacked (hvalue : ValuesIgnore I value) :
    NodesIgnore I (checkNodeWith rules value) := by
  intro raw name place stack seen alike
  unfold checkNodeWith
  refine congrArg (halted rules >>= ·) (funext fun stopped => ?_)
  cases found : rules.registry.find? name with
  | none => rfl
  | some schema =>
    have expanded : expand rules value raw schema { place with stack } =
        expand rules value raw schema place := by
      unfold expand
      split
      next => rfl
      next =>
        split
        next => rfl
        next short declared =>
          have confined := I.confined seen found short.field
            (List.mem_append_right _ (by simp [declared]))
          have same := hvalue short.field confined raw (place.field schema.name short.field.name)
            stack alike
          exact congrArg (· >>= _) same
    simp only [expanded, checkFields_restacked hvalue seen found alike]

/-- No check of nodes of indifferent schemas depends on the ancestors. -/
theorem checkNodeAt_restacked (levels : Nat) : NodesIgnore I (checkNodeAt rules levels) := by
  induction levels with
  | zero => exact fun _ _ _ _ _ _ => rfl
  | succ levels ih =>
    refine checkNodeWith_restacked ?_
    rw [checkValue_eq]
    exact checkSpec_restacked ih

theorem checkValue_restacked (levels : Nat) :
    ValuesIgnore I (checkValue rules (checkNodeAt rules levels) questionLimit) := by
  rw [checkValue_eq]
  exact checkSpec_restacked (checkNodeAt_restacked levels)

end Validation

end ShapedTree
