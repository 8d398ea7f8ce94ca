import ShapedTree.Proofs.Kind.Inquiry
import ShapedTree.Proofs.Kind.Standard
import ShapedTree.Proofs.Run.Confinement
import ShapedTree.Proofs.Validation.NodeSoundness

namespace ShapedTree

/-- The pattern, if it remembers where it stopped, does so in one of these cells. -/
def FieldSpec.ConfinedTo (K : Set Nat) (s : FieldSpec) : Prop :=
  ∀ p, s.info.constraints.pattern = some p → p.remembers = true → p.cell ∈ K

/-- A dialogue asks only for values of specifications whose patterns remember in these cells, or in
cells that it uses afresh. -/
inductive Dialogue.ConfinedTo : Set Nat → Dialogue → Prop
  | answer {K : Set Nat} (result : KindResult) : ConfinedTo K (.answer result)
  | fail {K : Set Nat} (fault : Fault) : ConfinedTo K (.fail fault)
  | halted {K : Set Nat} {next : Bool → Dialogue} (h : ∀ stopped, ConfinedTo K (next stopped)) :
      ConfinedTo K (.halted next)
  | node {K : Set Nat} {raw : Value} {schema : String} {kwargs : Option (Entries Value)}
      {next : Option Node → Dialogue} (h : ∀ answer, ConfinedTo K (next answer)) :
      ConfinedTo K (.node raw schema kwargs next)
  | choice {K : Set Nat} {raw : Value} {group : String} {kwargs : Option (Entries Value)}
      {next : Option Node → Dialogue} (h : ∀ answer, ConfinedTo K (next answer)) :
      ConfinedTo K (.choice raw group kwargs next)
  | value {K : Set Nat} {spec : FieldSpec} {raw : Value} {label : String}
      {next : Option Value → Dialogue} (asked : spec.Every (FieldSpec.ConfinedTo K))
      (h : ∀ answer, ConfinedTo K (next answer)) : ConfinedTo K (.value spec raw label next)
  | afresh {K : Set Nat} {spec : FieldSpec} {rest : Dialogue}
      (h : ConfinedTo (K ∪ {c | c ∈ spec.patternCells}) rest) : ConfinedTo K (.afresh spec rest)

/-- A custom kind asks for nothing that remembers in other cells than its own specification does. -/
def CustomKind.ConfinedTo (K : Set Nat) (k : CustomKind) : Prop :=
  ∀ K', K ⊆ K' → ∀ spec : FieldSpec, spec.Every (FieldSpec.ConfinedTo K') →
    ∀ raw path kwargs, (k raw spec path kwargs).ConfinedTo K'

/-- What remembers in a registry does so in these cells: the patterns of its specifications, and
whatever its custom kinds ask for. Its defaults do not count. -/
structure Registry.ConfinedTo (r : Registry) (K : Set Nat) : Prop where
  patterns : r.Every (FieldSpec.ConfinedTo K)
  defaults : r.Every FieldSpec.PureDefault
  kinds : ∀ tag d k, r.kinds.find? tag = some d → d.rule = .custom k → k.ConfinedTo K

open Run

namespace Kind

variable {K : Set Nat} {rules : Rules}

theorem checkItems_confined {item : PartCheck Run} (h : ∀ raw label, Confined K (item raw label))
    (index : Nat) (items : List Value) :
    Confined K (checkItems (halted rules) item index items) := by
  induction items generalizing index with
  | nil => exact .pure _
  | cons raw rest ih =>
    refine (h raw _).bind fun first => ?_
    refine (Confined.pure _).guard ((ih _).bind fun others => ?_)
    split <;> exact .pure _

theorem checkEntries_confined {byInteger : Bool} {key value : PartCheck Run}
    (hkey : ∀ raw label, Confined K (key raw label))
    (hvalue : ∀ raw label, Confined K (value raw label)) (failed : Bool) (done : Entries Value)
    (es : List (String × Value)) :
    Confined K (checkEntries (halted rules) byInteger key value failed done es) := by
  induction es generalizing failed done with
  | nil => exact .pure _
  | cons e rest ih =>
    refine (hkey _ _).bind fun k => (hvalue _ _).bind fun v => ?_
    split
    next =>
      split
      next => exact .pure _
      next => exact (Confined.pure _).guard (ih _ _)
    next => exact (Confined.pure _).guard (ih _ _)

theorem checkText_confined {c : Constraints}
    (known : ∀ p, c.pattern = some p → p.remembers = true → p.cell ∈ K) (raw : Value) :
    Confined K (checkText Run.test c raw) := by
  unfold checkText
  split
  next =>
    split
    next => exact .pure _
    next =>
      split
      next => exact .pure _
      next p pattern =>
        refine (Confined.test (known p pattern) _).bind fun found => ?_
        cases found <;> exact .pure _
  next => exact .pure _

end Kind

namespace Choice

variable {K : Set Nat} {rules : Rules} {node : NodeRun}

theorem matching_confined (h : ∀ raw name place, Confined K (node raw name place)) (raw : Value)
    (place : Place) (names : List String) : Confined K (matching node raw place names) := by
  induction names with
  | nil => exact .pure _
  | cons name rest ih =>
    refine (h raw name place).trial.bind fun (found, issues, log) => ih.bind fun others => ?_
    cases found <;> exact .pure _

theorem check_confined (h : ∀ raw name place, Confined K (node raw name place)) (raw : Value)
    (group : String) (place : Place) : Confined K (check rules node raw group place) := by
  unfold check
  refine (Confined.pure _).guard ?_
  simp only
  split
  next type _ =>
    unfold byType
    split
    next => exact h _ _ _
    next => exact (Confined.lift _).bind fun _ => Confined.report.bind fun _ => .pure _
  next =>
    split
    next => exact h _ _ _
    next =>
      split
      next => exact Confined.report.bind fun _ => .pure _
      next =>
        refine (matching_confined h raw place _).bind fun found => ?_
        split
        next => exact (Confined.adopt _).bind fun _ => .pure _
        next => exact Confined.report.bind fun _ => .pure _

end Choice

namespace Validation

variable {rules : Rules} {K K' : Set Nat} {node : NodeRun} {value other : ValueRun}

/-- The checks of nodes are confined. -/
def NodesConfined (K : Set Nat) (node : NodeRun) : Prop :=
  ∀ raw name place, Confined K (node raw name place)

/-- The checks of values are confined to the cells of their specifications and to these. -/
def ValuesConfined (K : Set Nat) (value : ValueRun) : Prop :=
  ∀ K', K ⊆ K' → ∀ spec : FieldSpec, spec.Every (FieldSpec.ConfinedTo K') →
    ∀ raw place, Confined K' (value spec raw place)

/-- The checks of the parts of a specification are confined. -/
inductive PartsConfined (K : Set Nat) : PartChecks Run → Prop
  | none : PartsConfined K .none
  | list {item : PartCheck Run} (h : ∀ raw label, Confined K (item raw label)) :
      PartsConfined K (.list item)
  | mapping {byInteger : Bool} {key value : PartCheck Run}
      (hkey : ∀ raw label, Confined K (key raw label))
      (hvalue : ∀ raw label, Confined K (value raw label)) :
      PartsConfined K (.mapping byInteger key value)
  | either {primitive complex : PartCheck Run}
      (hprimitive : ∀ raw label, Confined K (primitive raw label))
      (hcomplex : ∀ raw label, Confined K (complex raw label)) :
      PartsConfined K (.either primitive complex)

theorem builtin_confined (k : BuiltinKind) {spec : FieldSpec} (own : spec.ConfinedTo K)
    (hnode : NodesConfined K node) {parts : PartChecks Run} (hparts : PartsConfined K parts)
    (raw : Value) (place : Place) :
    Confined K (k.check (context rules node other spec place) parts spec.info raw) := by
  have text : Confined K (Kind.checkText Run.test spec.info.constraints raw) :=
    Kind.checkText_confined own raw
  cases nested : k.isNested with
  | false =>
    cases k with
    | string | identifier | pattern => exact text.bind fun _ => .pure _
    | node | choice | list | mapping | either => cases nested
    | _ => exact .pure _
  | true =>
    obtain ⟨q, asks, same⟩ := BuiltinKind.check_asks nested spec.info raw
    rw [same]
    cases asks with
    | mismatch | length => exact .pure _
    | node => exact (hnode _ _ _).bind fun _ => .pure _
    | choice => exact (Choice.check_confined hnode _ _ _).bind fun _ => .pure _
    | items =>
      cases hparts with
      | list h => exact (Kind.checkItems_confined h 0 _).bind fun _ => .pure _
      | _ => exact .pure _
    | entries =>
      cases hparts with
      | mapping hkey hvalue => exact Kind.checkEntries_confined hkey hvalue _ _ _
      | _ => exact .pure _
    | form =>
      cases hparts with
      | either hprimitive hcomplex =>
        refine Confined.bind ?_ fun _ => .pure _
        split
        · exact hprimitive _ _
        · exact hcomplex _ _
      | _ => exact .pure _

/-- A dialogue is confined to its cells where the answers of the validation are. -/
theorem dialogue_confined (le : K ⊆ K') (hnode : NodesConfined K node)
    (hother : ValuesConfined K other) (spec : FieldSpec) (place : Place) {d : Dialogue}
    (h : d.ConfinedTo K') : Confined K' (d.run (context rules node other spec place)) := by
  have nodes : ∀ {K'}, K ⊆ K' → NodesConfined K' node := fun le raw name place =>
    (hnode raw name place).mono le
  induction h with
  | answer result => exact .pure _
  | fail fault => exact .throw _
  | halted _ ih => exact Confined.halted.bind fun stopped => ih stopped le
  | node _ ih => exact (nodes le _ _ _).bind fun answer => ih answer le
  | choice _ ih => exact (Choice.check_confined (nodes le) _ _ _).bind fun answer => ih answer le
  | value asked _ ih => exact (hother _ le _ asked _ _).bind fun answer => ih answer le
  | afresh _ ih => exact .afresh (ih (le.trans Set.subset_union_left))

theorem checkAccepted_confined (spec : FieldSpec) (raw v : Value) (path : List String) :
    Confined K (checkAccepted rules spec raw v path) := by
  unfold checkAccepted
  simp only
  split
  next => exact .pure _
  next =>
    refine (Confined.lift _).bind fun verdict => ?_
    cases verdict with
    | pass => exact .pure _
    | fail => exact Confined.report.bind fun _ => .pure _
    | failWith => exact Confined.report.bind fun _ => .pure _

theorem reportAll_confined (path : List String) (raw : Value) (findings : List Finding) :
    Confined K (findings.forM (reportFinding rules path raw)) := by
  induction findings with
  | nil => exact .pure _
  | cons f fs ih => exact Confined.report.bind fun _ => ih

theorem checkWith_confined {ctx : KindContext Run} {parts : PartChecks Run} {spec : FieldSpec}
    {raw : Value} (h : Confined K (rules.registry.kinds.check spec.kind ctx parts spec raw))
    (path : List String) : Confined K (checkWith rules ctx parts spec raw path) := by
  unfold checkWith
  refine (Confined.pure _).guard ?_
  split
  next =>
    split
    next => exact .pure _
    next => exact Confined.report.bind fun _ => .pure _
  next =>
    split
    next => exact Confined.report.bind fun _ => .pure _
    next =>
      refine h.bind fun result => ?_
      cases result with
      | error findings => exact (reportAll_confined path raw findings).bind fun _ => .pure _
      | ok v => exact checkAccepted_confined spec raw v path

/-- A kind is confined where the checks of nodes, parts and other values are. -/
theorem kind_confined (kinds : rules.registry.ConfinedTo K) (le : K ⊆ K')
    (hnode : NodesConfined K node) (hother : ValuesConfined K other) {spec : FieldSpec}
    (own : spec.Every (FieldSpec.ConfinedTo K')) {parts : PartChecks Run}
    (hparts : PartsConfined K' parts) (raw : Value) (place : Place) :
    Confined K' (rules.registry.kinds.check spec.kind (context rules node other spec place) parts
      spec raw) := by
  unfold KindCatalog.check
  split
  next => exact .pure _
  next d found =>
    unfold KindDefinition.check
    split
    next k _ =>
      exact builtin_confined k own.self (fun raw name place => (hnode raw name place).mono le)
        hparts raw place
    next k custom =>
      exact dialogue_confined le hnode hother spec place
        (kinds.kinds _ d k found custom K' le spec own _ _ _)

theorem checkSpec_confined (kinds : rules.registry.ConfinedTo K) (hnode : NodesConfined K node)
    (hother : ValuesConfined K other) : ValuesConfined K (checkSpec rules node other) := by
  intro K' le spec own raw place
  have whole : ∀ {spec : FieldSpec} {parts : PartChecks Run} {raw : Value} {place : Place},
      spec.Every (FieldSpec.ConfinedTo K') → PartsConfined K' parts →
      Confined K' (checkWith rules (context rules node other spec place) parts spec raw
        place.path) := fun own hparts =>
    checkWith_confined (kind_confined kinds le hnode hother own hparts _ _) _
  induction spec generalizing raw place with
  | leaf info => exact whole own .none
  | list info item ih => exact whole own (.list fun raw label => ih own.item raw _)
  | mapping info key value ihKey ihValue =>
    exact whole own (.mapping (fun raw label => ihKey own.key raw _)
      fun raw label => ihValue own.value raw _)
  | either info primitive complex ihPrimitive ihComplex =>
    exact whole own (.either (fun raw label => ihPrimitive own.primitive raw _)
      fun raw label => ihComplex own.complex raw _)

theorem checkValue_confined (kinds : rules.registry.ConfinedTo K) (hnode : NodesConfined K node)
    (questions : Nat) : ValuesConfined K (checkValue rules node questions) := by
  induction questions with
  | zero => exact checkSpec_confined kinds hnode fun _ _ _ _ _ _ => .throw _
  | succ questions ih => exact checkSpec_confined kinds hnode ih

variable {schema : Schema} {record : Entries Value} {place : Place}

theorem checkKeys_confined (es : List (String × Value)) :
    Confined K (checkKeys rules schema place es) := by
  induction es with
  | nil => exact .pure _
  | cons e rest ih =>
    unfold checkKeys
    split
    next =>
      split
      next => exact Confined.report.bind fun _ => ih
      next => exact (Confined.log _ _).bind fun _ => ih
    next => exact ih

theorem checkType_confined : Confined K (checkType rules schema record place) := by
  unfold checkType
  split
  next =>
    split
    next => exact (Confined.lift _).bind fun _ => Confined.report
    next => exact .pure _
  next => exact .pure _

theorem start_confined {spec : FieldSpec} (free : spec.PureDefault) :
    Confined K (start schema record spec) := by
  unfold start
  split
  next =>
    split
    next => exact (Confined.log _ _).bind fun _ => .pure _
    next => exact .pure _
  next =>
    split
    next => exact .pure _
    next d default =>
      have produced : Confined K (produce d) :=
        .produce fun cell make same => free cell make (same ▸ default)
      exact produced.bind fun _ => .pure _

theorem resolve_confined {spec : FieldSpec} (h : ∀ raw place, Confined K (value spec raw place))
    (draft : Draft) (raw : Value) (mark : Bool) :
    Confined K (resolve value place draft spec raw mark) := by
  refine (h raw _).bind fun answer => ?_
  cases answer <;> exact .pure _

theorem firstPass_confined {specs : List FieldSpec}
    (h : ∀ spec ∈ specs, ∀ raw place, Confined K (value spec raw place))
    (free : ∀ spec ∈ specs, spec.PureDefault) (draft : Draft) :
    Confined K (firstPass rules value schema record place draft specs) := by
  induction specs generalizing draft with
  | nil => exact .pure _
  | cons spec rest ih =>
    obtain ⟨first, others⟩ := List.forall_mem_cons.mp h
    obtain ⟨plain, free⟩ := List.forall_mem_cons.mp free
    have next : ∀ (draft : Draft) (slot : Slot), Confined K (do
        let r ← firstPass rules value schema record place draft rest
        return (slot :: r.1, r.2)) := fun draft slot => (ih others free draft).bind fun _ => .pure _
    unfold firstPass
    refine (next draft _).guard ((start_confined plain).bind fun started => ?_)
    cases started with
    | none => exact next draft _
    | some started =>
      simp only
      split
      next => exact next draft _
      next => exact (resolve_confined first draft _ _).bind fun draft => next draft _

theorem secondPass_confined {slots : List Slot}
    (h : ∀ slot ∈ slots, ∀ raw place, Confined K (value slot.spec raw place))
    (earlier : List String) (draft : Draft) :
    Confined K (secondPass rules value place earlier draft slots) := by
  induction slots generalizing earlier draft with
  | nil => exact .pure _
  | cons slot rest ih =>
    obtain ⟨first, others⟩ := List.forall_mem_cons.mp h
    unfold secondPass
    refine (ih others _ draft).guard ?_
    split
    next => exact (resolve_confined first draft _ _).bind fun draft => ih others _ draft
    next =>
      refine (Confined.lift _).bind fun raw => ?_
      exact (resolve_confined first draft _ _).bind fun draft => ih others _ draft
    next => exact ih others _ draft

theorem checkMissing_confined (slots : List Slot) :
    Confined K (checkMissing rules schema place slots) := by
  induction slots with
  | nil => exact .pure _
  | cons slot rest ih =>
    unfold checkMissing
    simp only
    split
    next => exact Confined.report.bind fun _ => ih
    next => exact ih

theorem checkNode_confined (draft : Draft) : Confined K (checkNode rules schema draft place) := by
  unfold checkNode
  split
  next => exact .pure _
  next =>
    refine (Confined.lift _).bind fun verdict => ?_
    cases verdict with
    | pass => exact .pure _
    | fail => exact Confined.report.bind fun _ => .pure _
    | failWith => exact Confined.report.bind fun _ => .pure _

theorem expand_confined (h : ∀ short, schema.info.shortform = some short →
      ∀ raw place, Confined K (value short.field raw place)) (raw : Value) :
    Confined K (expand rules value raw schema place) := by
  unfold expand
  split
  next => exact .pure _
  next =>
    split
    next => exact Confined.report.bind fun _ => .pure _
    next short declared =>
      refine (h short declared raw _).bind fun answer => ?_
      cases answer with
      | none => exact .pure _
      | some v => exact (Confined.lift _).bind fun _ => .pure _

theorem checkFields_confined
    (h : ∀ spec ∈ schema.fields, ∀ raw place, Confined K (value spec raw place))
    (free : ∀ spec ∈ schema.fields, spec.PureDefault) :
    Confined K (checkFields rules value schema record place) := by
  rw [checkFields_eq]
  have filled : Confined K (fill rules value schema record place) := by
    refine checkType_confined.bind fun _ => (checkKeys_confined record).bind fun _ => ?_
    refine (firstPass_confined h free _).bind_returns (firstPass_returns schema.fields _) ?_
    rintro ⟨slots, draft⟩ specs
    have waiting : ∀ slot ∈ slots, ∀ raw place, Confined K (value slot.spec raw place) :=
      fun slot hslot => h _ (specs ▸ List.mem_map_of_mem hslot)
    refine (secondPass_confined waiting [] draft).bind fun last => ?_
    exact (checkMissing_confined slots).bind fun _ => .pure _
  refine filled.watched.bind fun (last, flawed) => ?_
  cases flawed with
  | true => exact .pure _
  | false =>
    refine (Confined.pure _).guard ((checkNode_confined last).bind fun passed => ?_)
    cases passed <;> exact .pure _

theorem expanded_confined (confined : rules.registry.ConfinedTo K)
    (hvalue : ValuesConfined K value) {name : String}
    (found : rules.registry.find? name = some schema) (raw : Value) (place : Place) :
    Confined K (expand rules value raw schema place >>= fun
      | none => pure none
      | some record => checkFields rules value schema record place) := by
  refine (expand_confined (fun short declared => hvalue K subset_rfl _
    (confined.patterns.shortform found declared)) raw).bind fun answer => ?_
  cases answer with
  | none => exact .pure _
  | some record =>
    exact checkFields_confined
      (fun spec hspec => hvalue K subset_rfl _ (confined.patterns.field found hspec))
      fun spec hspec => (confined.defaults.field found hspec).self

theorem checkNodeWith_confined (confined : rules.registry.ConfinedTo K)
    (hvalue : ValuesConfined K value) : NodesConfined K (checkNodeWith rules value) := by
  intro raw name place
  unfold checkNodeWith
  refine (Confined.pure _).guard ?_
  split
  next => exact Confined.report.bind fun _ => .pure _
  next schema found =>
    split
    next => exact Confined.report.bind fun _ => .pure _
    next =>
      have fields := expanded_confined confined hvalue found raw place
      simp only
      split
      next => exact (Confined.throw _).bind fun _ => fields
      next => exact fields

/-- Validations are confined to the cells of their registry. -/
theorem checkNodeAt_confined (confined : rules.registry.ConfinedTo K) (levels : Nat) :
    NodesConfined K (checkNodeAt rules levels) := by
  induction levels with
  | zero => exact fun _ _ _ => .throw _
  | succ levels ih =>
    exact checkNodeWith_confined confined (checkValue_confined confined ih questionLimit)

end Validation

end ShapedTree
