import Mathlib.Logic.Relation
import ShapedTree.Proofs.Validation.Calls
import ShapedTree.Proofs.Validation.Likeness
import ShapedTree.Proofs.Validation.NodeSoundness
import ShapedTree.Proofs.Validation.ValueCompleteness

namespace ShapedTree

open Run

namespace Validation

variable {rules : Rules} {law : Issue → Prop} {value value' : ValueRun} {schema : Schema}
  {record : Entries Value} {place : Place}

/-- A raw value that a field takes from a record: the one under its name, or one that its default
makes. -/
def Feeds (record : Entries Value) (spec : FieldSpec) (raw : Value) : Prop :=
  readKey record spec.name = some raw ∨ ∃ d, spec.info.default? = some d ∧ d.Makes raw

/-- A record that a raw value may be validated as: itself, or an expansion of the shortform. -/
abbrev Restates (schema : Schema) (place : Place) (raw : Value) (record : Entries Value) : Prop :=
  Expands (fun _ _ _ _ => True) schema place.setting raw record

/-- The calls that a call may make itself, and a node from its own raw value: the shortform takes
that value, and the fields are fed by the record. -/
inductive Hands (rules : Rules) : Call → Call → Prop
  | shortform {raw : Value} {name : String} {place : Place} {schema : Schema} {short : Shortform}
      (found : rules.registry.find? name = some schema)
      (shallow : rules.maxDepth.lt place.depth = false)
      (declared : schema.info.shortform = some short) (shape : raw.entries? = none) :
      Hands rules (.node raw name place)
        (.value short.field raw (place.field schema.name short.field.name))
  | field {raw value : Value} {name : String} {place : Place} {schema : Schema} {spec : FieldSpec}
      {draft : Draft} {record : Entries Value} (found : rules.registry.find? name = some schema)
      (shallow : rules.maxDepth.lt place.depth = false) (declared : spec ∈ schema.fields)
      (own : draft.schema = schema.name) (restates : Restates schema place raw record)
      (fed : Feeds record spec value) :
      Hands rules (.node raw name place) (.value spec value (place.under schema spec draft))
  | inner {call callee : Call} (inner : ∀ raw name place, call ≠ .node raw name place)
      (calls : Calls rules call callee) : Hands rules call callee

theorem Hands.calls {call callee : Call} (h : Hands rules call callee) :
    Calls rules call callee := by
  cases h with
  | shortform found shallow declared => exact .shortform found shallow declared
  | field found shallow declared own => exact .field found shallow declared own
  | inner _ calls => exact calls

/-- The issues that a call may raise itself, and a node from its own raw value: at its own path, or
below it if it is not too deep, where a key that is not declared is a key of the record. -/
inductive Reports (rules : Rules) : Call → Issue → Prop
  | outer {raw : Value} {name : String} {place : Place} {i : Issue}
      (raised : Raises rules (.node raw name place) i) (path : i.path = place.path)
      (kind : i.kind ≠ .unknownField) : Reports rules (.node raw name place) i
  | below {raw : Value} {name : String} {place : Place} {schema : Schema} {record : Entries Value}
      {i : Issue} (raised : Raises rules (.node raw name place) i)
      (found : rules.registry.find? name = some schema)
      (shallow : rules.maxDepth.lt place.depth = false)
      (restates : Restates schema place raw record)
      (key : i.kind = .unknownField → ∃ e ∈ record, acceptsKey schema e.1 = false ∧
        i.path = (place.field schema.name e.1).path) : Reports rules (.node raw name place) i
  | inner {call : Call} {i : Issue} (inner : ∀ raw name place, call ≠ .node raw name place)
      (raised : Raises rules call i) : Reports rules call i

theorem Reports.raised {call : Call} {i : Issue} (h : Reports rules call i) :
    Raises rules call i := by
  cases h <;> assumption

/-- The values of a node's fields coincide, whatever of the record feeds them, under whatever draft
of the node. -/
def FieldsCoincide (law : Issue → Prop) (value value' : ValueRun) (schema : Schema)
    (record : Entries Value) (place : Place) : Prop :=
  ∀ spec ∈ schema.fields, ∀ raw, Feeds record spec raw → ∀ draft : Draft,
    draft.schema = schema.name →
      Coincides anywhere law (value spec raw (place.under schema spec draft))
        (value' spec raw (place.under schema spec draft)) fun _ => True

theorem expand_coincides {raw : Value}
    (h : ∀ short, schema.info.shortform = some short → raw.entries? = none →
      Coincides anywhere law (value short.field raw (place.field schema.name short.field.name))
        (value' short.field raw (place.field schema.name short.field.name)) fun _ => True)
    (lawful : raw.entries? = none → schema.info.shortform = none → ∀ message suggestion received,
      law ⟨place.path, .typeMismatch, message, suggestion, received⟩) :
    Coincides anywhere law (expand rules value raw schema place)
      (expand rules value' raw schema place) (Permits (Restates schema place raw)) := by
  unfold expand
  split
  next es shape => exact .pure (.some (.record shape))
  next shape =>
    split
    next open_ => exact (Coincides.report (lawful shape open_ _ _)).bind fun _ _ => .pure .none
    next short declared =>
      refine (h short declared shape).bind fun answer _ => ?_
      cases answer with
      | none => exact .pure .none
      | some v =>
        exact (Coincides.lift _).bind fun es expanded =>
          .pure (.some (.shortform shape declared trivial expanded))

theorem checkType_coincides (lawful : schema.info.choice.isSome = true →
      ∀ message suggestion received, law ⟨(place.field schema.name "type").path,
        .constraintViolation, message, suggestion, received⟩) :
    Coincides anywhere law (checkType rules schema record place)
      (checkType rules schema record place) fun _ => True := by
  unfold checkType
  split
  next membership type choice _ =>
    split
    next =>
      have member : schema.info.choice.isSome = true := by rw [choice]; rfl
      exact (Coincides.lift _).bind fun shown _ => Coincides.report (lawful member _ _)
    next => exact .pure trivial
  next => exact .pure trivial

theorem checkKeys_coincides (es : List (String × Value))
    (lawful : rules.unknownFields = .strict → ∀ e ∈ es, acceptsKey schema e.1 = false →
      ∀ message suggestion received,
        law ⟨(place.field schema.name e.1).path, .unknownField, message, suggestion, received⟩) :
    Coincides anywhere law (checkKeys rules schema place es) (checkKeys rules schema place es)
      fun _ => True := by
  induction es with
  | nil => exact .pure trivial
  | cons e rest ih =>
    have others := ih fun strict e he => lawful strict e (List.mem_cons_of_mem _ he)
    obtain ⟨key, raw⟩ := e
    unfold checkKeys
    split
    next refused =>
      rw [Bool.not_eq_true'] at refused
      split
      next strict =>
        have reported := lawful strict (key, raw) (by simp) refused
        exact (Coincides.report (reported _ _)).bind fun _ _ => others
      next => exact (Coincides.log _ _).bind fun _ _ => others
    next => exact others

theorem start_coincides (spec : FieldSpec) :
    Coincides anywhere law (start schema record spec) (start schema record spec) fun _ => True := by
  unfold start
  split
  next =>
    split
    next => exact (Coincides.log _ _).bind fun _ _ => .pure trivial
    next => exact .pure trivial
  next =>
    split
    next => exact .pure trivial
    next d _ => exact (Coincides.produce d).bind fun _ _ => .pure trivial

/-- What a field starts from is fed by the record. -/
theorem start_feeds (spec : FieldSpec) :
    Run.Returns (start schema record spec) (Permits fun started => Feeds record spec started.1) := by
  unfold start
  split
  next raw given =>
    have fed : Permits (fun started : Value × Bool => Feeds record spec started.1)
        (some (raw, false)) := .some (.inl given)
    split
    next => exact .bind fun _ => .pure fed
    next => exact .pure fed
  next =>
    split
    next => exact .pure .none
    next d default =>
      refine (produce_returns d).bind_of fun made makes => .pure ?_
      rintro started same
      obtain ⟨v, rfl, rfl⟩ := Option.map_eq_some_iff.mp same
      exact .inr ⟨d, default, makes v rfl⟩

theorem resolve_coincides (fields : FieldsCoincide law value value' schema record place)
    {spec : FieldSpec} (declared : spec ∈ schema.fields) {draft : Draft}
    (own : draft.schema = schema.name) {raw : Value} (fed : Feeds record spec raw)
    (defaulted : Bool) :
    Coincides anywhere law (resolve value place draft spec raw defaulted)
      (resolve value' place draft spec raw defaulted) fun d => d.schema = schema.name := by
  have coincide := fields spec declared raw fed draft own
  unfold resolve
  rw [own]
  refine coincide.bind fun answer _ => ?_
  cases answer with
  | none => exact .pure own
  | some v => exact .pure own

/-- A slot of a declared field, fed by the record if a value waits in it. -/
structure Slot.FedBy (schema : Schema) (record : Entries Value) (slot : Slot) : Prop where
  declared : slot.spec ∈ schema.fields
  waiting : ∀ raw mark, slot.waiting = some (raw, mark) → Feeds record slot.spec raw

theorem firstPass_coincides (fields : FieldsCoincide law value value' schema record place)
    (specs : List FieldSpec) (declared : ∀ spec ∈ specs, spec ∈ schema.fields) {draft : Draft}
    (own : draft.schema = schema.name) :
    Coincides anywhere law (firstPass rules value schema record place draft specs)
      (firstPass rules value' schema record place draft specs)
      fun r => (∀ slot ∈ r.1, slot.FedBy schema record) ∧ r.2.schema = schema.name := by
  induction specs generalizing draft with
  | nil => exact .pure ⟨List.forall_mem_nil _, own⟩
  | cons spec rest ih =>
    obtain ⟨here, others⟩ := List.forall_mem_cons.mp declared
    have next : ∀ (draft : Draft) (slot : Slot), draft.schema = schema.name →
        slot.FedBy schema record → Coincides anywhere law
          (do let r ← firstPass rules value schema record place draft rest
              return (slot :: r.1, r.2))
          (do let r ← firstPass rules value' schema record place draft rest
              return (slot :: r.1, r.2))
          fun r => (∀ slot ∈ r.1, slot.FedBy schema record) ∧ r.2.schema = schema.name :=
      fun draft slot own hslot => (ih others own).bind fun r hr =>
        .pure ⟨List.forall_mem_cons.mpr ⟨hslot, hr.1⟩, hr.2⟩
    have idle : ∀ supplied, Slot.FedBy schema record { spec, supplied } := fun supplied =>
      ⟨here, fun raw mark no => by cases no⟩
    unfold firstPass
    refine Coincides.halted.bind fun stopped _ => ?_
    cases stopped with
    | true => exact next draft _ own (idle false)
    | false =>
      have started : Coincides anywhere law (start schema record spec) (start schema record spec)
          fun _ => True := start_coincides spec
      refine (started.returns (start_feeds spec)).bind fun started fed => ?_
      rcases started with _ | ⟨raw, defaulted⟩
      · exact next draft _ own (idle false)
      · have hraw : Feeds record spec raw := fed.2 _ rfl
        simp only
        split
        next =>
          refine next draft _ own ⟨here, fun raw' mark' same => ?_⟩
          cases same
          exact hraw
        next =>
          exact (resolve_coincides fields here own hraw defaulted).bind fun d hd =>
            next d _ hd (idle _)

theorem secondPass_coincides (fields : FieldsCoincide law value value' schema record place)
    (slots : List Slot) (fed : ∀ slot ∈ slots, slot.FedBy schema record)
    (earlier : List String) {draft : Draft} (own : draft.schema = schema.name) :
    Coincides anywhere law (secondPass rules value place earlier draft slots)
      (secondPass rules value' place earlier draft slots) fun _ => True := by
  induction slots generalizing earlier draft with
  | nil => exact .pure trivial
  | cons slot rest ih =>
    obtain ⟨here, others⟩ := List.forall_mem_cons.mp fed
    unfold secondPass
    refine Coincides.halted.bind fun stopped _ => ?_
    cases stopped with
    | true => exact ih others _ own
    | false =>
      simp only [Bool.false_eq_true, if_false]
      split
      next raw defaulted waiting =>
        have hraw := here.waiting raw defaulted waiting
        exact (resolve_coincides fields here.declared own hraw defaulted).bind fun d hd =>
          ih others _ hd
      next generate _ _ default =>
        refine (Coincides.lift _).bind fun raw made => ?_
        have hraw : Feeds record slot.spec raw := .inr ⟨_, default, _, made⟩
        exact (resolve_coincides fields here.declared own hraw true).bind fun d hd =>
          ih others _ hd
      next => exact ih others _ own

theorem checkMissing_coincides (slots : List Slot) (lawful : ∀ slot ∈ slots,
      ∀ message suggestion received, law ⟨(place.field schema.name slot.spec.name).path,
        .missingField, message, suggestion, received⟩) :
    Coincides anywhere law (checkMissing rules schema place slots)
      (checkMissing rules schema place slots) fun _ => True := by
  induction slots with
  | nil => exact .pure trivial
  | cons slot rest ih =>
    obtain ⟨here, others⟩ := List.forall_mem_cons.mp lawful
    unfold checkMissing
    simp only
    split
    next => exact (Coincides.report (here _ _)).bind fun _ _ => ih others
    next => exact ih others

theorem checkNode_coincides {draft : Draft} (lawful : schema.info.validator.isSome = true →
      ∀ message suggestion received,
        law ⟨place.path, .constraintViolation, message, suggestion, received⟩) :
    Coincides anywhere law (checkNode rules schema draft place)
      (checkNode rules schema draft place) fun _ => True := by
  unfold checkNode
  split
  next => exact .pure trivial
  next check some =>
    have checked : schema.info.validator.isSome = true := by rw [some]; rfl
    refine (Coincides.lift _).bind fun verdict _ => ?_
    cases verdict with
    | pass => exact .pure trivial
    | fail => exact (Coincides.report (lawful checked _ _)).bind fun _ _ => .pure trivial
    | failWith => exact (Coincides.report (lawful checked _ _)).bind fun _ _ => .pure trivial

variable {raw : Value} {name : String}

theorem checkFields_coincides (found : rules.registry.find? name = some schema)
    (shallow : rules.maxDepth.lt place.depth = false) (restates : Restates schema place raw record)
    (fields : FieldsCoincide law value value' schema record place)
    (own : ∀ i, Reports rules (.node raw name place) i → law i) :
    Coincides anywhere law (checkFields rules value schema record place)
      (checkFields rules value' schema record place) fun _ => True := by
  have below : ∀ i, Raises rules (.node raw name place) i → i.kind ≠ .unknownField → law i :=
    fun i raised other =>
      own i (.below raised found shallow restates fun unknown => absurd unknown other)
  rw [checkFields_eq, checkFields_eq]
  have filled : Coincides anywhere law (fill rules value schema record place)
      (fill rules value' schema record place) fun _ => True := by
    unfold fill
    refine (checkType_coincides fun member _ _ _ => below _ (.mistyped found member) nofun).bind
      fun _ _ => ?_
    refine (checkKeys_coincides record fun strict e he refused _ _ _ =>
      own _ (.below (.undeclared found strict refused) found shallow restates
        fun _ => ⟨e, he, refused, rfl⟩)).bind fun _ _ => ?_
    refine (firstPass_coincides fields schema.fields (fun _ hs => hs) rfl).bind fun r hr => ?_
    refine (secondPass_coincides fields r.1 hr.1 [] hr.2).bind fun last _ => ?_
    exact (checkMissing_coincides r.1 fun slot hslot _ _ _ =>
      below _ (.missing found (hr.1 slot hslot).declared) nofun).bind fun _ _ => .pure trivial
  refine filled.watched.bind fun (last, flawed) _ => ?_
  cases flawed with
  | true => exact .pure trivial
  | false =>
    refine Coincides.halted.bind fun stopped _ => ?_
    cases stopped with
    | true => exact .pure trivial
    | false =>
      refine (checkNode_coincides fun checked _ _ _ => below _ (.refused found checked) nofun).bind
        fun passed _ => ?_
      cases passed <;> exact .pure trivial

/-- Two checks of a node coincide if the checks of the values that it hands on do. -/
theorem checkNodeWith_coincides
    (callees : ∀ spec v p, Hands rules (.node raw name place) (.value spec v p) →
      Coincides anywhere law (value spec v p) (value' spec v p) fun _ => True)
    (own : ∀ i, Reports rules (.node raw name place) i → law i) :
    Coincides anywhere law (checkNodeWith rules value raw name place)
      (checkNodeWith rules value' raw name place) fun _ => True := by
  have outer : ∀ {kind message suggestion received},
      Raises rules (.node raw name place) ⟨place.path, kind, message, suggestion, received⟩ →
      kind ≠ .unknownField → law ⟨place.path, kind, message, suggestion, received⟩ :=
    fun raised other => own _ (.outer raised rfl other)
  unfold checkNodeWith
  refine Coincides.halted.bind fun stopped _ => ?_
  cases stopped with
  | true => exact .pure trivial
  | false =>
    simp only [Bool.false_eq_true, if_false]
    split
    next absent =>
      exact (Coincides.report fun _ => outer (.unregistered absent) nofun).bind fun _ _ =>
        .pure trivial
    next schema found =>
      split
      next deep =>
        exact (Coincides.report fun _ => outer (.tooDeep found deep) nofun).bind fun _ _ =>
          .pure trivial
      next shallow =>
        rw [Bool.not_eq_true] at shallow
        split
        next =>
          exact Coincides.bind (P := fun _ => False) .throw fun _ no => no.elim
        next =>
          refine (expand_coincides
            (fun short declared shape => callees _ _ _ (.shortform found shallow declared shape))
            fun shape open_ _ _ _ => outer (.shapeless found shape open_) nofun).bind
            fun answer restates => ?_
          cases answer with
          | none => exact .pure trivial
          | some record =>
            refine checkFields_coincides found shallow (restates record rfl)
              (fun spec declared v fed draft drafts => ?_) own
            exact callees _ _ _ (.field found shallow declared drafts (restates record rfl) fed)

/-- Only kinds that are built in answer the call. -/
def Call.Standard (c : KindCatalog) : Call → Prop
  | .value spec _ _ => spec.Every (FieldSpec.Standard c)
  | .node .. | .choice .. => True

theorem Calls.standard {call callee : Call} (h : Calls rules call callee)
    (registered : rules.registry.Every (FieldSpec.Standard rules.registry.kinds))
    (standard : call.Standard rules.registry.kinds) : callee.Standard rules.registry.kinds := by
  cases h with
  | shortform found _ declared => exact registered.shortform found declared
  | field found _ declared => exact registered.field found declared
  | member => trivial
  | target => trivial
  | group => trivial
  | item => exact standard.item
  | key => exact standard.key
  | entry => exact standard.value
  | @form info primitive complex raw place =>
    show FieldSpec.Every _ (if raw.isPrimitive then primitive else complex)
    cases raw.isPrimitive with
    | true => exact standard.primitive
    | false => exact standard.complex

theorem Calls.depth_below {spec : FieldSpec} {raw v : Value} {name : String} {place p : Place}
    (h : Calls rules (.value spec raw place) (.node v name p) ∨
      Calls rules (.value spec raw place) (.choice v name p)) : p.depth = place.depth + 1 := by
  rcases h with h | h <;> cases h <;> rfl

/-- A value asks for the values of its specification's parts at its own level. -/
theorem Calls.part {spec part : FieldSpec} {raw v : Value} {place p : Place}
    (h : Calls rules (.value spec raw place) (.value part v p)) :
    part ∈ spec.parts ∧ p.depth = place.depth := by
  cases h with
  | item => exact ⟨by simp [FieldSpec.parts], rfl⟩
  | key => exact ⟨by simp [FieldSpec.parts], rfl⟩
  | entry => exact ⟨by simp [FieldSpec.parts], rfl⟩
  | form =>
    refine ⟨?_, rfl⟩
    cases raw.isPrimitive <;> simp [FieldSpec.parts]

/-- What holds of every call that a value or a choice makes, down to the nodes, if it holds of that
call. -/
def Inward (rules : Rules) (I : Call → Prop) : Prop :=
  ∀ call callee, (∀ raw name place, call ≠ .node raw name place) → Calls rules call callee →
    I call → I callee

/-- The level of the nodes that a call leads to first. -/
def Call.level : Call → Nat
  | .node _ _ place | .choice _ _ place => place.depth
  | .value _ _ place => place.depth + 1

theorem Inward.level (n : Nat) : Inward rules fun call => call.level = n := by
  intro call callee inner calls same
  cases call with
  | node raw name place => exact absurd rfl (inner raw name place)
  | choice raw group place =>
    cases calls with
    | member => exact same
  | value spec raw place =>
    cases callee with
    | node => exact (Calls.depth_below (.inl calls)).trans same
    | choice => exact (Calls.depth_below (.inr calls)).trans same
    | value => exact (congrArg (· + 1) calls.part.2).trans same

/-- What a call comes to depends on the answers of the calls that it makes, and what it raises is
its own or theirs. -/
theorem Checks.unfold_coincides {c d : Checks} {call : Call}
    (standard : call.Standard rules.registry.kinds)
    (callees : ∀ callee, Calls rules call callee → c.CoincideAt (going rules) law d callee)
    (own : ∀ i, Raises rules call i → law i) :
    (c.unfold rules).CoincideAt anywhere law (d.unfold rules) call := by
  cases call with
  | node raw name place =>
    exact checkNodeWith_coincides (fun spec v p hands => callees _ hands.calls)
      fun i reports => own i reports.raised
  | choice raw group place =>
    exact Choice.check_coincides (fun type name member => callees _ (.member member)) own
  | value spec raw place => exact Checks.value_coincides standard.self callees own

/-- Laws of issues by the call, such that a call may raise what it raises itself and what the calls
that it makes may raise. -/
structure Inherited (rules : Rules) (laws : Call → Issue → Prop) : Prop where
  own : ∀ call i, Reports rules call i → laws call i
  callee : ∀ call callee i, Hands rules call callee → laws callee i → laws call i

theorem Inherited.any : Inherited rules fun _ _ => True where
  own _ _ _ := trivial
  callee _ _ _ _ _ := trivial

/-- A call leads to another one. -/
abbrev Reaches (rules : Rules) : Call → Call → Prop := Relation.ReflTransGen (Calls rules)

/-- Some call that is reached from the given one raises the issue. -/
def RaisedFrom (rules : Rules) (call : Call) (i : Issue) : Prop :=
  ∃ callee, Reaches rules call callee ∧ Raises rules callee i

theorem Inherited.raisedFrom : Inherited rules (RaisedFrom rules) where
  own call _ reports := ⟨call, .refl, reports.raised⟩
  callee _ _ _ hands := fun ⟨last, reached, raised⟩ => ⟨last, .head hands.calls reached, raised⟩

/-- The checks that a check of nodes gives rise to. -/
def Checks.ofNode (rules : Rules) (node : NodeRun) (other : ValueRun) : Checks :=
  ⟨node, Choice.check rules node, checkSpec rules node other⟩

theorem Checks.ofNode_value (node : NodeRun) (other : ValueRun) (spec : FieldSpec) (raw : Value)
    (place : Place) : (ofNode rules node other).value spec raw place =
      checkWith rules (contextWith rules node (Choice.check rules node) other spec place)
        ((ofNode rules node other).parts spec place) spec raw place.path :=
  checkSpec_eq spec raw place

/-- Checks of values coincide where the checks of the nodes that they lead to do. -/
theorem checkSpec_coincides {laws : Call → Issue → Prop} (inherited : Inherited rules laws)
    {I : Call → Prop} (inward : Inward rules I) {node node' : NodeRun} {other other' : ValueRun}
    (hnode : ∀ raw name (place : Place), I (.node raw name place) →
      Coincides (going rules) (laws (.node raw name place)) (node raw name place)
        (node' raw name place) fun _ => True)
    {spec : FieldSpec} (standard : spec.Every (FieldSpec.Standard rules.registry.kinds))
    {raw : Value} {place : Place} (here : I (.value spec raw place)) :
    Coincides anywhere (laws (.value spec raw place)) (checkSpec rules node other spec raw place)
      (checkSpec rules node' other' spec raw place) fun _ => True := by
  let c := Checks.ofNode rules node other
  let d := Checks.ofNode rules node' other'
  suffices Coincides anywhere (laws (.value spec raw place)) (c.value spec raw place)
    (d.value spec raw place) fun _ => True from this
  induction spec using FieldSpec.induction_parts generalizing raw place with
  | h spec ih =>
    have outer : ∀ v name p, Call.value spec raw place ≠ .node v name p := fun _ _ _ => nofun
    have callees : ∀ callee, Calls rules (.value spec raw place) callee →
        c.CoincideAt (going rules) (laws (.value spec raw place)) d callee := by
      intro callee calls
      have inherit : ∀ i, laws callee i → laws (.value spec raw place) i :=
        fun i => inherited.callee _ callee i (.inner outer calls)
      have there : I callee := inward _ callee outer calls here
      cases callee with
      | node raw' name p => exact (hnode raw' name p there).weaken inherit
      | choice raw' group p =>
        have apart : ∀ v name q, Call.choice raw' group p ≠ .node v name q := fun _ _ _ => nofun
        have choice : Coincides anywhere (laws (.choice raw' group p))
            (Choice.check rules node raw' group p) (Choice.check rules node' raw' group p)
            fun _ => True := by
          refine Choice.check_coincides (fun type name member => ?_)
            fun i raised => inherited.own _ i (.inner apart raised)
          exact (hnode raw' name p (inward _ _ apart (.member member) there)).weaken fun i =>
            inherited.callee _ _ i (.inner apart (.member member))
        exact (choice.weaken inherit).restrict fun _ _ => trivial
      | value part raw' p =>
        exact (ih part calls.part.1 (standard.part calls.part.1) there).weaken inherit
    rw [Checks.ofNode_value, Checks.ofNode_value]
    exact Checks.value_coincides (c := c) (d := d) standard.self callees fun i raised =>
      inherited.own _ i (.inner outer raised)

/-- The check of nodes, where at a place that is not as it should be something else is done. -/
def checkNodeWhere (rules : Rules) (right : Place → Bool) (otherwise : NodeRun) :
    (levels : Nat) → NodeRun
  | 0 => fun _ _ _ => throw .overflow
  | levels + 1 => fun raw name place =>
    if right place then
      checkNodeWith rules (checkValue rules (checkNodeWhere rules right otherwise levels)
        questionLimit) raw name place
    else otherwise raw name place

/-- Whatever levels are left, a check of a node makes calls for nodes only where an invariant of
calls puts them, and adds only issues that its law admits. -/
theorem checkNodeAt_coincides {laws : Call → Issue → Prop} (inherited : Inherited rules laws)
    (registered : rules.registry.Every (FieldSpec.Standard rules.registry.kinds))
    {I : Call → Prop} (kept : ∀ call callee, Hands rules call callee → I call → I callee)
    (right : Place → Bool) (meets : ∀ raw name place, I (.node raw name place) → right place = true)
    (otherwise : NodeRun) (levels : Nat) {raw : Value} {name : String} {place : Place}
    (here : I (.node raw name place)) :
    Coincides anywhere (laws (.node raw name place)) (checkNodeAt rules levels raw name place)
      (checkNodeWhere rules right otherwise levels raw name place) fun _ => True := by
  have inward : Inward rules I := fun call callee inner calls => kept _ _ (.inner inner calls)
  induction levels generalizing raw name place with
  | zero => exact .throw
  | succ levels ih =>
    have same : checkNodeWhere rules right otherwise (levels + 1) raw name place =
        checkNodeWith rules (checkValue rules (checkNodeWhere rules right otherwise levels)
          questionLimit) raw name place := if_pos (meets raw name place here)
    rw [same]
    refine checkNodeWith_coincides (fun spec v p hands => ?_) (inherited.own _)
    have standard : spec.Every (FieldSpec.Standard rules.registry.kinds) := by
      cases hands with
      | shortform found _ declared => exact registered.shortform found declared
      | field found _ declared => exact registered.field found declared
      | inner inner => exact absurd rfl (inner raw name place)
    rw [checkValue_eq, checkValue_eq]
    refine Coincides.weaken ?_ fun i => inherited.callee _ _ i hands
    exact checkSpec_coincides inherited inward
      (fun raw name place there => (ih there).restrict fun _ _ => trivial) standard
      (kept _ _ hands here)

/-- Whatever levels are left, a check of a node adds only issues that calls reached from it raise.
-/
theorem checkNodeAt_raised
    (registered : rules.registry.Every (FieldSpec.Standard rules.registry.kinds)) (levels : Nat)
    (raw : Value) (name : String) (place : Place) :
    Coincides anywhere (RaisedFrom rules (.node raw name place))
      (checkNodeAt rules levels raw name place) (checkNodeAt rules levels raw name place)
      fun _ => True :=
  (checkNodeAt_coincides .raisedFrom registered (I := fun _ => True) (fun _ _ _ here => here)
    (fun _ => true) (fun _ _ _ _ => rfl) (fun _ _ _ => throw .overflow) levels trivial).left

end Validation

end ShapedTree
